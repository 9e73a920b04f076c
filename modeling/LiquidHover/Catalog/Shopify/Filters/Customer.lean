/-
**Filters of the category customer.**
-/
import LiquidHover.Catalog.Entry

namespace LiquidHover.Catalog.Shopify

/-- The customer filters, 5 of them. -/
def customerFilters : List Filter := [
  { name := "avatar"
    category := .customer
    description := "Generates HTML to render a customer's avatar, if available"
    usage := some "customer | avatar"
    returnType := "string"
    examples := [
      "\x7b\x7b customer | avatar \x7d\x7d"] },
  { name := "customer_login_link"
    category := .customer
    description := "Generates an HTML link to the customer login page"
    usage := some "string | customer_login_link"
    returnType := "string"
    examples := [
      "\x7b\x7b 'Log in' | customer_login_link \x7d\x7d"] },
  { name := "customer_logout_link"
    category := .customer
    description := "Generates an HTML link to log the customer out of their account"
    usage := some "string | customer_logout_link"
    returnType := "string" },
  { name := "customer_register_link"
    category := .customer
    description := "Generates an HTML link to the customer registration page"
    usage := some "string | customer_register_link"
    returnType := "string" },
  { name := "login_button"
    category := .customer
    description := "Generates an HTML Button that enables a customer to sign in to the storefront using their Shop account"
    usage := some "shop | login_button: action"
    returnType := "string"
    parameters := [
      { name := "action"
        typeName := "string"
        description := "Button behavior"
        default? := some "default"
        values := ["default", "follow"] }] }]

end LiquidHover.Catalog.Shopify
