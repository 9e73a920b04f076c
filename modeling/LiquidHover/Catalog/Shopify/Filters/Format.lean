/-
**Filters of the category format.**
-/
import LiquidHover.Catalog.Entry

namespace LiquidHover.Catalog.Shopify

/-- The format filters, 5 of them. -/
def formatFilters : List Filter := [
  { name := "date"
    category := .format
    description := "Converts a timestamp into another date format"
    usage := some "string | date: format"
    returnType := "string"
    parameters := [
      { name := "format"
        typeName := "string"
        description := "Date format string or locale format" }]
    examples := [
      "\x7b\x7b article.created_at | date: '%B %d, %Y' \x7d\x7d"] },
  { name := "json"
    category := .format
    description := "Converts a string or object into JSON format"
    usage := some "object | json"
    returnType := "string"
    examples := [
      "\x7b\x7b product | json \x7d\x7d"] },
  { name := "structured_data"
    category := .format
    description := "Converts an object into a schema.org structured data format"
    usage := some "object | structured_data"
    returnType := "string" },
  { name := "unit_price_with_measurement"
    category := .format
    description := "Formats a given unit price and measurement based on the store's HTML without currency setting"
    usage := some "variant | unit_price_with_measurement: formatted_unit_price"
    returnType := "string"
    parameters := [
      { name := "formatted_unit_price"
        typeName := "string"
        description := "Formatted unit price using money filters" }] },
  { name := "weight_with_unit"
    category := .format
    description := "Generates a formatted weight for a variant object"
    usage := some "variant | weight_with_unit: unit"
    returnType := "string"
    parameters := [
      { name := "unit", typeName := "string", description := "Override default unit" }] }]

end LiquidHover.Catalog.Shopify
