/-
**Filters of the category tag.**
-/
import LiquidHover.Catalog.Entry

namespace LiquidHover.Catalog.Shopify

/-- The tag filters, 3 of them. -/
def tagFilters : List Filter := [
  { name := "link_to_add_tag"
    category := .tag
    description := "Generates an HTML <a> tag linking to the current blog or collection, filtered to show only articles or products that have a given tag"
    usage := some "string | link_to_add_tag: tag"
    returnType := "string"
    parameters := [
      { name := "tag", typeName := "string", description := "Tag to add" }] },
  { name := "link_to_remove_tag"
    category := .tag
    description := "Generates an HTML <a> tag linking to the current blog or collection, filtered to show articles or products that have any currently active tags, except the provided tag"
    usage := some "string | link_to_remove_tag: tag"
    returnType := "string"
    parameters := [
      { name := "tag", typeName := "string", description := "Tag to remove" }] },
  { name := "link_to_tag"
    category := .tag
    description := "Generates an HTML <a> tag linking to the current blog or collection, filtered to show only articles or products that have a given tag"
    usage := some "string | link_to_tag: tag"
    returnType := "string"
    parameters := [
      { name := "tag", typeName := "string", description := "Tag to link to" }] }]

end LiquidHover.Catalog.Shopify
