/-
**Filters of the category localization.**
-/
import LiquidHover.Catalog.Entry

namespace LiquidHover.Catalog.Shopify

/-- The localization filters, 4 of them. -/
def localizationFilters : List Filter := [
  { name := "currency_selector"
    category := .localization
    description := "Generates an HTML <select> element with an option for each currency available on the store"
    usage := some "form | currency_selector: class, id"
    returnType := "string"
    parameters := [
      { name := "class", typeName := "string", description := "CSS class for select element" },
      { name := "id", typeName := "string", description := "HTML id for select element" }]
    deprecated := true },
  { name := "format_address"
    category := .localization
    description := "Generates an HTML address display, with each address component ordered according to the address's locale"
    usage := some "address | format_address"
    returnType := "string" },
  { name := "translate"
    category := .localization
    description := "Returns a string of translated text for a given translation key from a locale file. Alias: t"
    usage := some "string | translate: variables"
    returnType := "string"
    parameters := [
      { name := "variables"
        typeName := "object"
        description := "Variables for translation interpolation" }] },
  { name := "t"
    category := .localization
    description := "Alias for translate filter. Returns translated text for a given translation key"
    usage := some "string | t: variables"
    returnType := "string"
    parameters := [
      { name := "variables"
        typeName := "object"
        description := "Variables for translation interpolation" }] }]

end LiquidHover.Catalog.Shopify
