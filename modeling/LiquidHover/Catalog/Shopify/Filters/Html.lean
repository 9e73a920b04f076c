/-
**Filters of the category HTML.**
-/
import LiquidHover.Catalog.Entry

namespace LiquidHover.Catalog.Shopify

/-- The HTML filters, 9 of them. -/
def htmlFilters : List Filter := [
  { name := "class_list"
    category := .html
    description := "Generates the list of style classes for a style setting or a collection of settings"
    usage := some "settings.layout | class_list"
    returnType := "string" },
  { name := "highlight"
    category := .html
    description := "Wraps all instances of a specific string with an HTML <strong> tag with class 'highlight'"
    usage := some "string | highlight: search_terms"
    returnType := "string"
    parameters := [
      { name := "search_terms", typeName := "string", description := "Terms to highlight" }]
    examples := [
      "\x7b\x7b item.description | highlight: search.terms \x7d\x7d"] },
  { name := "inline_asset_content"
    category := .html
    description := "Outputs the content of an asset inline in the template"
    usage := some "asset_url | inline_asset_content"
    returnType := "string" },
  { name := "link_to"
    category := .html
    description := "Generates an HTML <a> tag"
    usage := some "string | link_to: url, attributes"
    returnType := "string"
    parameters := [
      { name := "url", typeName := "string", description := "Link URL" },
      { name := "class", typeName := "string", description := "CSS class" },
      { name := "id", typeName := "string", description := "HTML id" },
      { name := "title", typeName := "string", description := "Title attribute" }] },
  { name := "placeholder_svg_tag"
    category := .html
    description := "Generates an HTML <svg> tag for a given placeholder name"
    usage := some "string | placeholder_svg_tag: class"
    returnType := "string"
    parameters := [
      { name := "class", typeName := "string", description := "CSS class for svg tag" },
      { name := "placeholder"
        typeName := "string"
        description := "Placeholder name"
        values := ["product-1", "product-2", "product-3", "product-4", "product-5", "product-6", "collection-1", "collection-2", "collection-3", "collection-4", "collection-5", "collection-6", "lifestyle-1", "lifestyle-2", "image"] }] },
  { name := "preload_tag"
    category := .html
    description := "Generates an HTML <link> tag with rel='preload' to prioritize loading a Shopify-hosted asset"
    usage := some "asset_url | preload_tag: as, attributes"
    returnType := "string"
    parameters := [
      { name := "as"
        typeName := "string"
        description := "Resource type (style, script, font, etc.)" },
      { name := "crossorigin", typeName := "string", description := "CORS setting" }] },
  { name := "script_tag"
    category := .html
    description := "Generates an HTML <script> tag for a given resource URL"
    usage := some "asset_url | script_tag"
    returnType := "string" },
  { name := "stylesheet_tag"
    category := .html
    description := "Generates an HTML <link> tag for a given resource URL"
    usage := some "asset_url | stylesheet_tag: preload"
    returnType := "string"
    parameters := [
      { name := "preload"
        typeName := "boolean"
        description := "Whether to preload the stylesheet" }] },
  { name := "time_tag"
    category := .html
    description := "Converts a timestamp into an HTML <time> tag"
    usage := some "timestamp | time_tag: format, datetime"
    returnType := "string"
    parameters := [
      { name := "format", typeName := "string", description := "Date format" },
      { name := "datetime"
        typeName := "string"
        description := "Custom datetime attribute format" }] }]

end LiquidHover.Catalog.Shopify
