/-
**Categories.** Filters and tags are sorted into fixed categories, each with a title. The lists `all`
give every category once, in the order in which listings show them.
-/

namespace LiquidHover.Catalog

/-- The categories of filters. -/
inductive FilterCategory where
  | array
  | cart
  | collection
  | color
  | customer
  | default
  | font
  | format
  | html
  | hostedFile
  | localization
  | math
  | media
  | metafield
  | money
  | payment
  | string
  | tag
  deriving DecidableEq, Repr

namespace FilterCategory

/-- Every category, in the order of listings. -/
def all : List FilterCategory :=
  [.array, .cart, .collection, .color, .customer, .default, .font, .format, .html, .hostedFile,
    .localization, .math, .media, .metafield, .money, .payment, .string, .tag]

/-- The title of a category. -/
def title : FilterCategory → String
  | .array => "Array"
  | .cart => "Cart"
  | .collection => "Collection"
  | .color => "Color"
  | .customer => "Customer"
  | .default => "Default"
  | .font => "Font"
  | .format => "Format"
  | .html => "HTML"
  | .hostedFile => "Hosted File"
  | .localization => "Localization"
  | .math => "Math"
  | .media => "Media"
  | .metafield => "Metafield"
  | .money => "Money"
  | .payment => "Payment"
  | .string => "String"
  | .tag => "Tag"

/-- The category with a title. -/
def ofTitle? (title : String) : Option FilterCategory := all.find? (·.title == title)

theorem mem_all (category : FilterCategory) : category ∈ all := by
  cases category <;> decide

theorem nodup_all : all.Nodup := by decide

end FilterCategory

/-- The categories of tags. -/
inductive TagCategory where
  | conditional
  | html
  | iteration
  | syntactic
  | theme
  | variables
  deriving DecidableEq, Repr

namespace TagCategory

/-- Every category, in the order of listings. -/
def all : List TagCategory := [.conditional, .html, .iteration, .syntactic, .theme, .variables]

/-- The title of a category. -/
def title : TagCategory → String
  | .conditional => "Conditional"
  | .html => "HTML"
  | .iteration => "Iteration"
  | .syntactic => "Syntax"
  | .theme => "Theme"
  | .variables => "Variable"

/-- The category with a title. -/
def ofTitle? (title : String) : Option TagCategory := all.find? (·.title == title)

theorem mem_all (category : TagCategory) : category ∈ all := by
  cases category <;> decide

theorem nodup_all : all.Nodup := by decide

end TagCategory

end LiquidHover.Catalog
