/-
**Filters of the category math.**
-/
import LiquidHover.Catalog.Entry

namespace LiquidHover.Catalog.Shopify

/-- The math filters, 11 of them. -/
def mathFilters : List Filter := [
  { name := "abs"
    category := .math
    description := "Returns the absolute value of a number"
    usage := some "number | abs"
    returnType := "number"
    examples := [
      "\x7b\x7b -3 | abs \x7d\x7d"] },
  { name := "at_least"
    category := .math
    description := "Limits a number to a minimum value"
    usage := some "number | at_least: minimum"
    returnType := "number"
    parameters := [
      { name := "minimum", typeName := "number", description := "Minimum value" }]
    examples := [
      "\x7b\x7b 4 | at_least: 5 \x7d\x7d"] },
  { name := "at_most"
    category := .math
    description := "Limits a number to a maximum value"
    usage := some "number | at_most: maximum"
    returnType := "number"
    parameters := [
      { name := "maximum", typeName := "number", description := "Maximum value" }]
    examples := [
      "\x7b\x7b 6 | at_most: 5 \x7d\x7d"] },
  { name := "ceil"
    category := .math
    description := "Rounds a number up to the nearest integer"
    usage := some "number | ceil"
    returnType := "number" },
  { name := "divided_by"
    category := .math
    description := "Divides a number by a given number"
    usage := some "number | divided_by: divisor"
    returnType := "number"
    parameters := [
      { name := "divisor", typeName := "number", description := "Number to divide by" }] },
  { name := "floor"
    category := .math
    description := "Rounds a number down to the nearest integer"
    usage := some "number | floor"
    returnType := "number" },
  { name := "minus"
    category := .math
    description := "Subtracts a given number from another number"
    usage := some "number | minus: subtrahend"
    returnType := "number"
    parameters := [
      { name := "subtrahend", typeName := "number", description := "Number to subtract" }] },
  { name := "modulo"
    category := .math
    description := "Returns the remainder of dividing a number by a given number"
    usage := some "number | modulo: divisor"
    returnType := "number"
    parameters := [
      { name := "divisor", typeName := "number", description := "Number to divide by" }] },
  { name := "plus"
    category := .math
    description := "Adds two numbers"
    usage := some "number | plus: addend"
    returnType := "number"
    parameters := [
      { name := "addend", typeName := "number", description := "Number to add" }] },
  { name := "round"
    category := .math
    description := "Rounds a number to the nearest integer or specified decimal places"
    usage := some "number | round: decimal_places"
    returnType := "number"
    parameters := [
      { name := "decimal_places", typeName := "number", description := "Number of decimal places" }] },
  { name := "times"
    category := .math
    description := "Multiplies a number by a given number"
    usage := some "number | times: multiplier"
    returnType := "number"
    parameters := [
      { name := "multiplier", typeName := "number", description := "Number to multiply by" }] }]

end LiquidHover.Catalog.Shopify
