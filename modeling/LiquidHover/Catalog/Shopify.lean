/-
**The catalog of the Shopify dialect.** The objects that theme templates can read, the filters and
the tags that they can use.
-/
import LiquidHover.Catalog.Lookup
import LiquidHover.Catalog.Shopify.Filters.Array
import LiquidHover.Catalog.Shopify.Filters.Cart
import LiquidHover.Catalog.Shopify.Filters.Collection
import LiquidHover.Catalog.Shopify.Filters.Color
import LiquidHover.Catalog.Shopify.Filters.Customer
import LiquidHover.Catalog.Shopify.Filters.Default
import LiquidHover.Catalog.Shopify.Filters.Font
import LiquidHover.Catalog.Shopify.Filters.Format
import LiquidHover.Catalog.Shopify.Filters.HostedFile
import LiquidHover.Catalog.Shopify.Filters.Html
import LiquidHover.Catalog.Shopify.Filters.Localization
import LiquidHover.Catalog.Shopify.Filters.Math
import LiquidHover.Catalog.Shopify.Filters.Media
import LiquidHover.Catalog.Shopify.Filters.Metafield
import LiquidHover.Catalog.Shopify.Filters.Money
import LiquidHover.Catalog.Shopify.Filters.Payment
import LiquidHover.Catalog.Shopify.Filters.String
import LiquidHover.Catalog.Shopify.Filters.Tag
import LiquidHover.Catalog.Shopify.Objects.AToB
import LiquidHover.Catalog.Shopify.Objects.C
import LiquidHover.Catalog.Shopify.Objects.DToH
import LiquidHover.Catalog.Shopify.Objects.IToO
import LiquidHover.Catalog.Shopify.Objects.PToR
import LiquidHover.Catalog.Shopify.Objects.SToZ
import LiquidHover.Catalog.Shopify.Tags

namespace LiquidHover.Catalog

namespace Shopify

/-- All objects, in the order of their names. -/
def objects : List Object :=
  objectsAToB ++ objectsC ++ objectsDToH ++ objectsIToO ++ objectsPToR ++ objectsSToZ

/-- All filters, sorted by category. -/
def filters : List Filter :=
  arrayFilters ++ cartFilters ++ collectionFilters ++ colorFilters ++ customerFilters
    ++ defaultFilters ++ fontFilters ++ formatFilters ++ htmlFilters ++ hostedFileFilters
    ++ localizationFilters ++ mathFilters ++ mediaFilters ++ metafieldFilters ++ moneyFilters
    ++ paymentFilters ++ stringFilters ++ tagFilters

end Shopify

/-- The catalog of the Shopify dialect. -/
def shopify : Catalog where
  objects := Shopify.objects
  filters := Shopify.filters
  tags := Shopify.tags

end LiquidHover.Catalog
