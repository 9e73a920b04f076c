/-
**Filters of the category metafield.**
-/
import LiquidHover.Catalog.Entry

namespace LiquidHover.Catalog.Shopify

/-- The metafield filters, 2 of them. -/
def metafieldFilters : List Filter := [
  { name := "metafield_tag"
    category := .metafield
    description := "Generates an HTML element to host the metafield data"
    usage := some "metafield | metafield_tag: field, list_format"
    returnType := "string"
    parameters := [
      { name := "field"
        typeName := "string"
        description := "Field to render for metaobject references" },
      { name := "list_format"
        typeName := "string"
        description := "List format"
        default? := some "unordered"
        values := ["unordered", "ordered"] }] },
  { name := "metafield_text"
    category := .metafield
    description := "Generates a text version of the metafield data"
    usage := some "metafield | metafield_text: field"
    returnType := "string"
    parameters := [
      { name := "field"
        typeName := "string"
        description := "Field to render for metaobject references" }] }]

end LiquidHover.Catalog.Shopify
