/-
**Filters of the category collection.**
-/
import LiquidHover.Catalog.Entry

namespace LiquidHover.Catalog.Shopify

/-- The collection filters, 7 of them. -/
def collectionFilters : List Filter := [
  { name := "highlight_active_tag"
    category := .collection
    description := "Wraps a given tag in an HTML <span> tag with class 'active' if the tag is currently active"
    usage := some "string | highlight_active_tag"
    returnType := "string"
    examples := [
      "\x7b\x7b tag | highlight_active_tag | link_to_tag: tag \x7d\x7d"] },
  { name := "link_to_type"
    category := .collection
    description := "Generates an HTML <a> tag linking to a collection page that lists all products of the given product type"
    usage := some "string | link_to_type: attributes"
    returnType := "string"
    parameters := [
      { name := "class", typeName := "string", description := "CSS class attribute" },
      { name := "id", typeName := "string", description := "HTML id attribute" }]
    examples := [
      "\x7b\x7b 'Health' | link_to_type \x7d\x7d"] },
  { name := "link_to_vendor"
    category := .collection
    description := "Generates an HTML <a> tag linking to a collection page that lists all products of a given product vendor"
    usage := some "string | link_to_vendor: attributes"
    returnType := "string"
    parameters := [
      { name := "class", typeName := "string", description := "CSS class attribute" },
      { name := "id", typeName := "string", description := "HTML id attribute" }]
    examples := [
      "\x7b\x7b \"Polina's Potent Potions\" | link_to_vendor \x7d\x7d"] },
  { name := "sort_by"
    category := .collection
    description := "Generates a collection URL with the provided sort_by parameter appended"
    usage := some "string | sort_by: option"
    returnType := "string"
    parameters := [
      { name := "option"
        typeName := "string"
        description := "Sort option"
        values := ["manual", "best-selling", "title-ascending", "title-descending", "price-ascending", "price-descending", "created-ascending", "created-descending"] }]
    examples := [
      "\x7b\x7b collection.url | sort_by: 'best-selling' \x7d\x7d"] },
  { name := "url_for_type"
    category := .collection
    description := "Generates a URL for a collection page that lists all products of the given product type"
    usage := some "string | url_for_type"
    returnType := "string"
    examples := [
      "\x7b\x7b 'health' | url_for_type \x7d\x7d"] },
  { name := "url_for_vendor"
    category := .collection
    description := "Generates a URL for a collection page that lists all products from the given product vendor"
    usage := some "string | url_for_vendor"
    returnType := "string"
    examples := [
      "\x7b\x7b \"Polina's Potent Potions\" | url_for_vendor \x7d\x7d"] },
  { name := "within"
    category := .collection
    description := "Generates a product URL within the context of the provided collection"
    usage := some "string | within: collection"
    returnType := "string"
    parameters := [
      { name := "collection", typeName := "collection", description := "Collection context" }] }]

end LiquidHover.Catalog.Shopify
