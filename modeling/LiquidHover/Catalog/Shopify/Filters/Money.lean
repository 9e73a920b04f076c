/-
**Filters of the category money.**
-/
import LiquidHover.Catalog.Entry

namespace LiquidHover.Catalog.Shopify

/-- The money filters, 4 of them. -/
def moneyFilters : List Filter := [
  { name := "money"
    category := .money
    description := "Formats a given price based on the store's HTML without currency setting"
    usage := some "number | money"
    returnType := "string"
    examples := [
      "\x7b\x7b product.price | money \x7d\x7d"] },
  { name := "money_with_currency"
    category := .money
    description := "Formats a given price based on the store's HTML with currency setting"
    usage := some "number | money_with_currency"
    returnType := "string"
    examples := [
      "\x7b\x7b product.price | money_with_currency \x7d\x7d"] },
  { name := "money_without_currency"
    category := .money
    description := "Formats a given price based on the store's HTML without currency setting, without the currency symbol"
    usage := some "number | money_without_currency"
    returnType := "string" },
  { name := "money_without_trailing_zeros"
    category := .money
    description := "Formats a given price excluding the decimal separator and trailing zeros"
    usage := some "number | money_without_trailing_zeros"
    returnType := "string" }]

end LiquidHover.Catalog.Shopify
