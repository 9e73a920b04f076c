/-
**Filters of the category font.**
-/
import LiquidHover.Catalog.Entry

namespace LiquidHover.Catalog.Shopify

/-- The font filters, 3 of them. -/
def fontFilters : List Filter := [
  { name := "font_face"
    category := .font
    description := "Generates a CSS @font-face declaration to load the provided font"
    usage := some "font | font_face: font_display"
    returnType := "string"
    parameters := [
      { name := "font_display", typeName := "string", description := "Font display property" }]
    examples := [
      "\x7b\x7b settings.type_header_font | font_face \x7d\x7d"] },
  { name := "font_modify"
    category := .font
    description := "Modifies a specific property of a given font"
    usage := some "font | font_modify: property, value"
    returnType := "font"
    parameters := [
      { name := "property"
        typeName := "string"
        description := "Font property"
        values := ["style", "weight"] },
      { name := "value", typeName := "string", description := "Property value" }] },
  { name := "font_url"
    category := .font
    description := "Returns the CDN URL for the provided font in woff2 format"
    usage := some "font | font_url: format"
    returnType := "string"
    parameters := [
      { name := "format"
        typeName := "string"
        description := "Font format"
        default? := some "woff2"
        values := ["woff", "woff2"] }] }]

end LiquidHover.Catalog.Shopify
