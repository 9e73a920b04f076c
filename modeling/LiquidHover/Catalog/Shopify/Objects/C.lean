/-
**Objects with the initial C.**
-/
import LiquidHover.Catalog.Entry

namespace LiquidHover.Catalog.Shopify

/-- The objects, in the order of their names; 24 of them. -/
def objectsC : List Object := [
  { name := "canonical_url"
    typeName := "CanonicalUrl"
    description := "The canonical URL for the current page." },
  { name := "cart"
    typeName := "Cart"
    description := "A customer's cart."
    properties := [
      .leaf "attributes" "object" "Cart attributes",
      .leaf "cart_level_discount_applications" "array<discount_application>" "Cart-level discounts",
      .leaf "checkout_charge_amount" "number" "Checkout charge amount",
      .leaf "currency" "currency" "Cart currency",
      .leaf "discount_applications" "array<discount_application>" "All discount applications",
      .leaf "duties_included" "boolean" "Whether duties are included",
      .leaf "empty" "boolean" "Whether cart is empty",
      .leaf "item_count" "number" "Number of items",
      .leaf "items" "array<line_item>" "Cart items",
      .leaf "items_subtotal_price" "number" "Subtotal price",
      .leaf "note" "string" "Cart note",
      .leaf "original_total_price" "number" "Original total before discounts",
      .leaf "requires_shipping" "boolean" "Whether shipping is required",
      .leaf "taxes_included" "boolean" "Whether taxes are included",
      .leaf "total_discount" "number" "Total discount amount",
      .leaf "total_price" "number" "Total price",
      .leaf "total_weight" "number" "Total weight"] },
  { name := "checkout"
    typeName := "Checkout"
    description := "A customer's checkout. (Deprecated for most pages)"
    properties := [
      .leaf "applied_gift_cards" "array<gift_card>" "Applied gift cards",
      .leaf "attributes" "object" "Checkout attributes",
      .leaf "billing_address" "address" "Billing address",
      .leaf "buyer_accepts_marketing" "boolean" "Marketing acceptance",
      .leaf "cart_level_discount_applications" "array<discount_application>" "Cart-level discounts",
      .leaf "currency" "string" "Checkout currency",
      .leaf "customer" "customer" "Customer information",
      .leaf "discount_applications" "array<discount_application>" "All discounts",
      .leaf "discounts_amount" "array<discount_application>" "Discount amounts",
      .leaf "discounts_savings" "array<discount_application>" "Discount savings",
      .leaf "email" "string" "Customer email",
      .leaf "gift_cards_amount" "number" "Gift card amount applied",
      .leaf "id" "number" "Checkout ID",
      .leaf "item_count" "number" "Number of items",
      .leaf "line_items" "array<line_item>" "Checkout items",
      .leaf "line_items_subtotal_price" "number" "Items subtotal",
      .leaf "name" "number" "Checkout name",
      .leaf "note" "string" "Checkout note",
      .leaf "order" "order" "Associated order",
      .leaf "order_id" "string" "Order ID",
      .leaf "order_name" "string" "Order name",
      .leaf "order_number" "string" "Order number",
      .leaf "requires_shipping" "boolean" "Requires shipping",
      .leaf "shipping_address" "address" "Shipping address",
      .leaf "shipping_method" "shipping_method" "Shipping method",
      .leaf "shipping_price" "number" "Shipping cost",
      .leaf "tax_lines" "array<tax_line>" "Tax information",
      .leaf "tax_price" "number" "Tax amount",
      .leaf "total_price" "number" "Total price",
      .leaf "transactions" "array<transaction>" "Payment transactions"] },
  { name := "closest"
    typeName := "Closest"
    description := "Resources of different types closest to current context."
    properties := [
      .leaf "article" "article" "Closest article",
      .leaf "blog" "blog" "Closest blog",
      .leaf "collection" "collection" "Closest collection",
      .leaf "metaobject" "metaobject" "Closest metaobject",
      .leaf "page" "page" "Closest page",
      .leaf "product" "product" "Closest product"] },
  { name := "collection"
    typeName := "Collection"
    description := "A collection in a store."
    properties := [
      .leaf "all_products_count" "number" "Total products in collection",
      .leaf "all_tags" "array<string>" "All product tags in collection",
      .leaf "all_types" "array<string>" "All product types in collection",
      .leaf "all_vendors" "array<string>" "All vendors in collection",
      .leaf "current_type" "string" "Currently filtered type",
      .leaf "current_vendor" "string" "Currently filtered vendor",
      .leaf "default_sort_by" "string" "Default sort order",
      .leaf "description" "string" "Collection description",
      .leaf "featured_image" "image" "Featured image",
      .leaf "filters" "array<filter>" "Available filters",
      .leaf "handle" "string" "Collection handle",
      .leaf "id" "number" "Unique identifier",
      .leaf "image" "image" "Collection image",
      .leaf "metafields" "array<metafield>" "Associated metafields",
      .leaf "next_product" "product" "Next product in collection",
      .leaf "previous_product" "product" "Previous product in collection",
      .leaf "products" "array<product>" "Products in collection",
      .leaf "products_count" "number" "Number of products shown",
      .leaf "published_at" "string" "Publication timestamp",
      .leaf "sort_by" "string" "Current sort order",
      .leaf "sort_options" "array<sort_option>" "Available sort options",
      .leaf "tags" "array<string>" "Currently filtered tags",
      .leaf "template_suffix" "string" "Template suffix",
      .leaf "title" "string" "Collection title",
      .leaf "url" "string" "Collection URL"] },
  { name := "collections"
    typeName := "Collections"
    description := "All collections on a store." },
  { name := "color"
    typeName := "Color"
    description := "A color from a color setting."
    properties := [
      .leaf "alpha" "number" "Alpha transparency (0-1)",
      .leaf "blue" "number" "Blue component (0-255)",
      .leaf "chroma" "number" "Chroma value",
      .leaf "color_space" "string" "Color space (e.g., 'srgb')",
      .leaf "green" "number" "Green component (0-255)",
      .leaf "hue" "number" "Hue value (0-360)",
      .leaf "lightness" "number" "Lightness percentage",
      .leaf "oklch" "string" "OKLCH color representation",
      .leaf "oklcha" "string" "OKLCHA color representation",
      .leaf "red" "number" "Red component (0-255)",
      .leaf "rgb" "string" "RGB color string",
      .leaf "rgba" "string" "RGBA color string",
      .leaf "saturation" "number" "Saturation percentage"] },
  { name := "color_scheme"
    typeName := "ColorScheme"
    description := "A color scheme from a color_scheme setting."
    properties := [
      .leaf "id" "string" "Color scheme ID",
      .leaf "settings" "object" "Color scheme settings"] },
  { name := "color_scheme_group"
    typeName := "ColorSchemeGroup"
    description := "A color scheme group from a color_scheme_group setting." },
  { name := "comment"
    typeName := "Comment"
    description := "An article comment."
    properties := [
      .leaf "author" "string" "Comment author",
      .leaf "content" "string" "Comment content",
      .leaf "created_at" "string" "Creation timestamp",
      .leaf "email" "string" "Author email",
      .leaf "id" "number" "Comment ID",
      .leaf "status" "string" "Comment status",
      .leaf "updated_at" "string" "Last update timestamp",
      .leaf "url" "string" "Comment URL"] },
  { name := "company"
    typeName := "Company"
    description := "A company that a customer is purchasing for (B2B)."
    properties := [
      .leaf "available_locations" "array<company_location>" "Available locations",
      .leaf "available_locations_count" "number" "Number of locations",
      .leaf "external_id" "string" "External identifier",
      .leaf "id" "number" "Company ID",
      .leaf "metafields" "array<metafield>" "Associated metafields",
      .leaf "name" "string" "Company name"] },
  { name := "company_address"
    typeName := "CompanyAddress"
    description := "Address of a company location (B2B)."
    properties := [
      .leaf "address1" "string" "First address line",
      .leaf "address2" "string" "Second address line",
      .leaf "attention" "string" "Attention line",
      .leaf "city" "string" "City",
      .leaf "country" "country" "Country object",
      .leaf "country_code" "string" "Country code",
      .leaf "first_name" "string" "First name",
      .leaf "id" "number" "Address ID",
      .leaf "last_name" "string" "Last name",
      .leaf "province" "string" "Province/state",
      .leaf "province_code" "string" "Province code",
      .leaf "street" "string" "Complete street address",
      .leaf "zip" "string" "Postal code"] },
  { name := "company_location"
    typeName := "CompanyLocation"
    description := "A location of the company for B2B purchases."
    properties := [
      .leaf "company" "company" "Parent company",
      .leaf "current" "boolean" "Whether this is current location",
      .leaf "external_id" "string" "External identifier",
      .leaf "id" "number" "Location ID",
      .leaf "metafields" "array<metafield>" "Associated metafields",
      .leaf "name" "string" "Location name",
      .leaf "shipping_address" "company_address" "Shipping address",
      .leaf "tax_registration_id" "number" "Tax registration ID",
      .leaf "url_to_set_as_current" "string" "URL to set as current"] },
  { name := "content_for_additional_checkout_buttons"
    typeName := "ContentForAdditionalCheckoutButtons"
    description := "Returns checkout buttons for payment providers with offsite checkouts." },
  { name := "content_for_header"
    typeName := "ContentForHeader"
    description := "Dynamically returns all scripts required by Shopify. Must be included in theme.liquid." },
  { name := "content_for_index"
    typeName := "ContentForIndex"
    description := "Dynamically returns content of sections for the home page." },
  { name := "content_for_layout"
    typeName := "ContentForLayout"
    description := "Dynamically returns content based on current template. Must be included in theme.liquid." },
  { name := "country"
    typeName := "Country"
    description := "A country supported by store's localization options."
    properties := [
      .leaf "available_languages" "array<shop_locale>" "Available languages",
      .leaf "continent" "string" "Continent name",
      .leaf "currency" "currency" "Country currency",
      .leaf "iso_code" "string" "ISO country code",
      .leaf "market" "market" "Associated market",
      .leaf "name" "string" "Country name",
      .leaf "popular" "boolean" "Whether country is popular",
      .leaf "unit_system" "string" "Unit system (metric/imperial)"] },
  { name := "country_option_tags"
    typeName := "CountryOptionTags"
    description := "Creates <option> tags for countries in shipping zones." },
  { name := "currency"
    typeName := "Currency"
    description := "Information about a currency."
    properties := [
      .leaf "iso_code" "string" "ISO currency code",
      .leaf "name" "string" "Currency name",
      .leaf "symbol" "string" "Currency symbol"] },
  { name := "current_page"
    typeName := "CurrentPage"
    description := "Current page number for pagination." },
  { name := "current_tags"
    typeName := "CurrentTags"
    description := "Currently applied tags for filtering." },
  { name := "customer"
    typeName := "Customer"
    description := "A customer of the store."
    properties := [
      .leaf "accepts_marketing" "boolean" "Marketing acceptance",
      .leaf "addresses" "array<address>" "Customer addresses",
      .leaf "addresses_count" "number" "Number of addresses",
      .leaf "b2b" "boolean" "Whether customer is B2B",
      .leaf "company_available_locations" "array<company_location>" "Available company locations",
      .leaf "company_available_locations_count" "number" "Number of company locations",
      .leaf "current_company" "company" "Current company",
      .leaf "current_location" "company_location" "Current location",
      .leaf "default_address" "address" "Default address",
      .leaf "email" "string" "Customer email",
      .leaf "first_name" "string" "First name",
      .leaf "has_account" "boolean" "Whether customer has account",
      .leaf "has_avatar" "boolean" "Whether customer has avatar",
      .leaf "id" "number" "Customer ID",
      .leaf "last_name" "string" "Last name",
      .leaf "last_order" "order" "Most recent order",
      .leaf "name" "string" "Full name",
      .leaf "orders" "array<order>" "Customer orders",
      .leaf "orders_count" "number" "Number of orders",
      .leaf "payment_methods" "array<customer_payment_method>" "Saved payment methods",
      .leaf "phone" "string" "Phone number",
      .leaf "store_credit_account" "store_credit_account" "Store credit account",
      .leaf "tags" "array<string>" "Customer tags",
      .leaf "tax_exempt" "boolean" "Whether tax exempt",
      .leaf "total_spent" "number" "Total amount spent"] },
  { name := "customer_payment_method"
    typeName := "CustomerPaymentMethod"
    description := "A customer's saved payment method."
    properties := [
      .leaf "payment_instrument_type" "string" "Type of payment instrument",
      .leaf "token" "string" "Payment method token"] }]

end LiquidHover.Catalog.Shopify
