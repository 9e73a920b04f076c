/-
**Filters of the category hosted file.**
-/
import LiquidHover.Catalog.Entry

namespace LiquidHover.Catalog.Shopify

/-- The hosted file filters, 6 of them. -/
def hostedFileFilters : List Filter := [
  { name := "asset_img_url"
    category := .hostedFile
    description := "Returns the CDN URL for an image in the assets directory of a theme"
    usage := some "string | asset_img_url: size"
    returnType := "string"
    parameters := [
      { name := "size"
        typeName := "string"
        description := "Image size"
        default? := some "small"
        values := ["pico", "icon", "thumb", "small", "compact", "medium", "large", "grande", "master"] }]
    examples := [
      "\x7b\x7b 'red-and-black-bramble-berries.jpg' | asset_img_url \x7d\x7d"] },
  { name := "asset_url"
    category := .hostedFile
    description := "Returns the CDN URL for a file in the assets directory of a theme"
    usage := some "string | asset_url"
    returnType := "string"
    examples := [
      "\x7b\x7b 'cart.js' | asset_url \x7d\x7d"] },
  { name := "file_img_url"
    category := .hostedFile
    description := "Returns the CDN URL for an image from the Files page of the Shopify admin"
    usage := some "file | file_img_url: size"
    returnType := "string"
    parameters := [
      { name := "size"
        typeName := "string"
        description := "Image size"
        default? := some "small" }] },
  { name := "file_url"
    category := .hostedFile
    description := "Returns the CDN URL for a file from the Files page of the Shopify admin"
    usage := some "file | file_url"
    returnType := "string" },
  { name := "global_asset_url"
    category := .hostedFile
    description := "Returns the CDN URL for a global asset"
    usage := some "string | global_asset_url"
    returnType := "string" },
  { name := "shopify_asset_url"
    category := .hostedFile
    description := "Returns the CDN URL for a globally accessible Shopify asset"
    usage := some "string | shopify_asset_url"
    returnType := "string" }]

end LiquidHover.Catalog.Shopify
