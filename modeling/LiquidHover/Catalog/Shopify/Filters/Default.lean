/-
**Filters of the category default.**
-/
import LiquidHover.Catalog.Entry

namespace LiquidHover.Catalog.Shopify

/-- The default filters, 3 of them. -/
def defaultFilters : List Filter := [
  { name := "default"
    category := .default
    description := "Sets a default value for any variable whose value is empty, false, or nil"
    usage := some "variable | default: value, allow_false: boolean"
    returnType := "any"
    parameters := [
      { name := "value", typeName := "any", description := "Default value" },
      { name := "allow_false"
        typeName := "boolean"
        description := "Allow false values"
        default? := some "false" }]
    examples := [
      "\x7b\x7b product.selected_variant.url | default: product.url \x7d\x7d"] },
  { name := "default_errors"
    category := .default
    description := "Generates default error messages for each possible value of form.errors"
    usage := some "string | default_errors"
    returnType := "string" },
  { name := "default_pagination"
    category := .default
    description := "Generates HTML for a set of links for paginated results"
    usage := some "paginate | default_pagination: previous, next, anchor"
    returnType := "string"
    parameters := [
      { name := "previous", typeName := "string", description := "Previous page link text" },
      { name := "next", typeName := "string", description := "Next page link text" },
      { name := "anchor"
        typeName := "string"
        description := "Anchor to add to pagination links" }] }]

end LiquidHover.Catalog.Shopify
