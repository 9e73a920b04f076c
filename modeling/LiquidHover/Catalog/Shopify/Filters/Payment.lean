/-
**Filters of the category payment.**
-/
import LiquidHover.Catalog.Entry

namespace LiquidHover.Catalog.Shopify

/-- The payment filters, 4 of them. -/
def paymentFilters : List Filter := [
  { name := "payment_button"
    category := .payment
    description := "Generates an HTML container to host accelerated checkout buttons for a product"
    usage := some "form | payment_button"
    returnType := "string" },
  { name := "payment_terms"
    category := .payment
    description := "Generates the HTML for the Shop Pay Installments banner"
    usage := some "form | payment_terms"
    returnType := "string" },
  { name := "payment_type_img_url"
    category := .payment
    description := "Returns the URL for an SVG image of a given payment type"
    usage := some "payment_type | payment_type_img_url"
    returnType := "string"
    examples := [
      "\x7b\x7b type | payment_type_img_url \x7d\x7d"] },
  { name := "payment_type_svg_tag"
    category := .payment
    description := "Generates an HTML <svg> tag for a given payment type"
    usage := some "payment_type | payment_type_svg_tag"
    returnType := "string" }]

end LiquidHover.Catalog.Shopify
