/-
**Filters of the category cart.**
-/
import LiquidHover.Catalog.Entry

namespace LiquidHover.Catalog.Shopify

/-- The cart filters, 2 of them. -/
def cartFilters : List Filter := [
  { name := "item_count_for_variant"
    category := .cart
    description := "Returns the total item count for a specified variant in the cart"
    usage := some "cart | item_count_for_variant: variant_id"
    returnType := "number"
    parameters := [
      { name := "variant_id", typeName := "number", description := "Variant ID" }]
    examples := [
      "\x7b\x7b cart | item_count_for_variant: 39888235757633 \x7d\x7d"] },
  { name := "line_items_for"
    category := .cart
    description := "Returns the subset of cart line items that include a specified product or variant"
    usage := some "cart | line_items_for: object"
    returnType := "array<line_item>"
    parameters := [
      { name := "object"
        typeName := "product|variant"
        description := "Product or variant object" }]
    examples := [
      "\x7b\x7b cart | line_items_for: product \x7d\x7d"] }]

end LiquidHover.Catalog.Shopify
