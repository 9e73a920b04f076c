/-
**Filters of the category array.**
-/
import LiquidHover.Catalog.Entry

namespace LiquidHover.Catalog.Shopify

/-- The array filters, 17 of them. -/
def arrayFilters : List Filter := [
  { name := "compact"
    category := .array
    description := "Removes any nil items from an array"
    usage := some "array | compact"
    returnType := "array"
    examples := [
      "\x7b\x7b collection.products | map: 'compare_at_price' | compact \x7d\x7d"] },
  { name := "concat"
    category := .array
    description := "Concatenates (combines) two arrays"
    usage := some "array | concat: array"
    returnType := "array"
    parameters := [
      { name := "array", typeName := "array", description := "Array to concatenate with" }]
    examples := [
      "\x7b\x7b collection.all_types | concat: collection.all_vendors \x7d\x7d"] },
  { name := "find"
    category := .array
    description := "Returns the first item in an array with a specific property value"
    usage := some "array | find: property, value"
    returnType := "object"
    parameters := [
      { name := "property", typeName := "string", description := "Property name to search" },
      { name := "value", typeName := "string", description := "Value to match" }]
    examples := [
      "\x7b\x7b collection.products | find: 'available', true \x7d\x7d"] },
  { name := "find_index"
    category := .array
    description := "Returns the index of the first item in an array with a specific property value"
    usage := some "array | find_index: property, value"
    returnType := "number"
    parameters := [
      { name := "property", typeName := "string", description := "Property name to search" },
      { name := "value", typeName := "string", description := "Value to match" }] },
  { name := "first"
    category := .array
    description := "Returns the first item in an array"
    usage := some "array | first"
    returnType := "any"
    examples := [
      "\x7b\x7b collection.products | first \x7d\x7d"] },
  { name := "has"
    category := .array
    description := "Tests if any item in an array has a specific property value"
    usage := some "array | has: property, value"
    returnType := "boolean"
    parameters := [
      { name := "property", typeName := "string", description := "Property name to test" },
      { name := "value", typeName := "string", description := "Value to match" }] },
  { name := "join"
    category := .array
    description := "Combines all of the items in an array into a single string, separated by a space"
    usage := some "array | join: separator"
    returnType := "string"
    parameters := [
      { name := "separator"
        typeName := "string"
        description := "Custom separator (optional)"
        default? := some " " }]
    examples := [
      "\x7b\x7b product.tags | join: ', ' \x7d\x7d"] },
  { name := "last"
    category := .array
    description := "Returns the last item in an array"
    usage := some "array | last"
    returnType := "any"
    examples := [
      "\x7b\x7b collection.products | last \x7d\x7d"] },
  { name := "map"
    category := .array
    description := "Creates an array of values from a specific property of the items in an array"
    usage := some "array | map: property"
    returnType := "array"
    parameters := [
      { name := "property", typeName := "string", description := "Property to extract" }]
    examples := [
      "\x7b\x7b collection.products | map: 'title' \x7d\x7d"] },
  { name := "reject"
    category := .array
    description := "Filters an array to exclude items with a specific property value"
    usage := some "array | reject: property, value"
    returnType := "array"
    parameters := [
      { name := "property", typeName := "string", description := "Property name to filter" },
      { name := "value", typeName := "string", description := "Value to reject" }] },
  { name := "reverse"
    category := .array
    description := "Reverses the order of the items in an array"
    usage := some "array | reverse"
    returnType := "array"
    examples := [
      "\x7b\x7b collection.products | reverse \x7d\x7d"] },
  { name := "size"
    category := .array
    description := "Returns the size of a string or array"
    usage := some "array | size"
    returnType := "number"
    examples := [
      "\x7b\x7b collection.products | size \x7d\x7d"] },
  { name := "sort"
    category := .array
    description := "Sorts the items in an array in case-sensitive alphabetical or numerical order"
    usage := some "array | sort: property"
    returnType := "array"
    parameters := [
      { name := "property", typeName := "string", description := "Property to sort by (optional)" }]
    examples := [
      "\x7b\x7b collection.products | sort: 'title' \x7d\x7d"] },
  { name := "sort_natural"
    category := .array
    description := "Sorts the items in an array in case-insensitive alphabetical order"
    usage := some "array | sort_natural: property"
    returnType := "array"
    parameters := [
      { name := "property", typeName := "string", description := "Property to sort by (optional)" }] },
  { name := "sum"
    category := .array
    description := "Returns the sum of all elements in an array"
    usage := some "array | sum: property"
    returnType := "number"
    parameters := [
      { name := "property", typeName := "string", description := "Property to sum (optional)" }]
    examples := [
      "\x7b\x7b cart.items | sum: 'quantity' \x7d\x7d"] },
  { name := "uniq"
    category := .array
    description := "Removes any duplicate items in an array"
    usage := some "array | uniq"
    returnType := "array"
    examples := [
      "\x7b\x7b collection.all_tags | uniq \x7d\x7d"] },
  { name := "where"
    category := .array
    description := "Filters an array to include only items with a specific property value"
    usage := some "array | where: property, value"
    returnType := "array"
    parameters := [
      { name := "property", typeName := "string", description := "Property name to filter" },
      { name := "value"
        typeName := "string"
        description := "Value to match (optional for boolean)" }]
    examples := [
      "\x7b\x7b collection.products | where: 'available' \x7d\x7d"] }]

end LiquidHover.Catalog.Shopify
