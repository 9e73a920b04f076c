/-
**Objects with the initials S to Z.**
-/
import LiquidHover.Catalog.Entry

namespace LiquidHover.Catalog.Shopify

/-- The objects, in the order of their names; 34 of them. -/
def objectsSToZ : List Object := [
  { name := "script"
    typeName := "Script"
    description := "Information about Shopify Script. Scripts will be sunset August 28, 2025."
    deprecated := true
    properties := [
      .leaf "id" "number" "Script ID",
      .leaf "name" "string" "Script name"] },
  { name := "scripts"
    typeName := "Scripts"
    description := "Active scripts of each type. Scripts will be sunset August 28, 2025."
    deprecated := true
    properties := [
      .leaf "cart_calculate_line_items" "script" "Cart calculation script"] },
  { name := "search"
    typeName := "Search"
    description := "Information about storefront search query."
    properties := [
      .leaf "default_sort_by" "string" "Default sort order",
      .leaf "filters" "array<filter>" "Available filters",
      .leaf "performed" "boolean" "Whether search was performed",
      .leaf "results" "any" "Search results",
      .leaf "results_count" "number" "Number of results",
      .leaf "sort_by" "any" "Current sort order",
      .leaf "sort_options" "array<sort_option>" "Available sort options",
      .leaf "terms" "string" "Search terms",
      .leaf "types" "array<string>" "Resource types searched"] },
  { name := "section"
    typeName := "Section"
    description := "Properties and settings of a section."
    properties := [
      .leaf "blocks" "array<block>" "Section blocks",
      .leaf "id" "string" "Section ID",
      .leaf "index" "number" "Section index (1-based)",
      .leaf "index0" "number" "Section index (0-based)",
      .leaf "location" "string" "Section location",
      .leaf "settings" "any" "Section settings"] },
  { name := "selling_plan"
    typeName := "SellingPlan"
    description := "Information about selling plan intent."
    properties := [
      .leaf "checkout_charge" "selling_plan_checkout_charge" "Checkout charge info",
      .leaf "description" "string" "Plan description",
      .leaf "group_id" "string" "Group ID",
      .leaf "id" "number" "Plan ID",
      .leaf "name" "string" "Plan name",
      .leaf "options" "array<selling_plan_option>" "Plan options",
      .leaf "price_adjustments" "array<selling_plan_price_adjustment>" "Price adjustments",
      .leaf "recurring_deliveries" "boolean" "Whether recurring deliveries",
      .leaf "selected" "boolean" "Whether plan is selected"] },
  { name := "selling_plan_allocation"
    typeName := "SellingPlanAllocation"
    description := "How selling plan affects line item."
    properties := [
      .leaf "checkout_charge_amount" "number" "Checkout charge amount",
      .leaf "compare_at_price" "number" "Compare at price",
      .leaf "per_delivery_price" "number" "Price per delivery",
      .leaf "price" "number" "Allocated price",
      .leaf "price_adjustments" "array<selling_plan_allocation_price_adjustment>" "Price adjustments",
      .leaf "remaining_balance_charge_amount" "number" "Remaining balance",
      .leaf "selling_plan" "selling_plan" "Associated selling plan",
      .leaf "selling_plan_group_id" "string" "Group ID",
      .leaf "unit_price" "number" "Unit price"] },
  { name := "selling_plan_allocation_price_adjustment"
    typeName := "SellingPlanAllocationPriceAdjustment"
    description := "Resulting price from selling plan price adjustment."
    properties := [
      .leaf "position" "number" "Adjustment position",
      .leaf "price" "number" "Adjusted price"] },
  { name := "selling_plan_checkout_charge"
    typeName := "SellingPlanCheckoutCharge"
    description := "How selling plan affects checkout amount."
    properties := [
      .leaf "value" "number" "Charge value",
      .leaf "value_type" "string" "Value type"] },
  { name := "selling_plan_group"
    typeName := "SellingPlanGroup"
    description := "Group of selling plans for product variants."
    properties := [
      .leaf "app_id" "string" "App ID",
      .leaf "id" "number" "Group ID",
      .leaf "name" "string" "Group name",
      .leaf "options" "array<selling_plan_group_option>" "Group options",
      .leaf "selling_plan_selected" "boolean" "Whether plan selected",
      .leaf "selling_plans" "array<selling_plan>" "Selling plans"] },
  { name := "selling_plan_group_option"
    typeName := "SellingPlanGroupOption"
    description := "Option in selling plan group."
    properties := [
      .leaf "name" "string" "Option name",
      .leaf "position" "number" "Option position",
      .leaf "selected_value" "string" "Selected value",
      .leaf "values" "array<string>" "Available values"] },
  { name := "selling_plan_option"
    typeName := "SellingPlanOption"
    description := "Selling plan's value for group option."
    properties := [
      .leaf "name" "string" "Option name",
      .leaf "position" "number" "Option position",
      .leaf "value" "string" "Option value"] },
  { name := "selling_plan_price_adjustment"
    typeName := "SellingPlanPriceAdjustment"
    description := "How selling plan changes variant price over time."
    properties := [
      .leaf "order_count" "number" "Order count",
      .leaf "position" "number" "Adjustment position",
      .leaf "value" "number" "Adjustment value",
      .leaf "value_type" "string" "Value type"] },
  { name := "settings"
    typeName := "Settings"
    description := "Access all theme settings from settings_schema.json." },
  { name := "shipping_method"
    typeName := "ShippingMethod"
    description := "Shipping method information for order."
    properties := [
      .leaf "discount_allocations" "array<discount_allocation>" "Shipping discounts",
      .leaf "handle" "string" "Method handle",
      .leaf "id" "string" "Method ID",
      .leaf "original_price" "number" "Original price",
      .leaf "price_with_discounts" "number" "Price after discounts",
      .leaf "tax_lines" "array<tax_line>" "Tax information",
      .leaf "title" "string" "Method title"] },
  { name := "shop"
    typeName := "Shop"
    description := "Information about the store."
    properties := [
      .leaf "accepts_gift_cards" "boolean" "Whether accepts gift cards",
      .leaf "address" "address" "Store address",
      .leaf "brand" "brand" "Store brand",
      .leaf "collections_count" "number" "Number of collections",
      .leaf "currency" "string" "Store currency",
      .leaf "customer_accounts_enabled" "boolean" "Whether customer accounts enabled",
      .leaf "customer_accounts_optional" "boolean" "Whether accounts optional",
      .leaf "description" "string" "Store description",
      .leaf "domain" "string" "Store domain",
      .leaf "email" "string" "Store email",
      .leaf "enabled_currencies" "array<currency>" "Enabled currencies",
      .leaf "enabled_payment_types" "array<string>" "Enabled payment types",
      .leaf "id" "string" "Store ID",
      .leaf "metafields" "metafields" "Store metafields",
      .leaf "money_format" "currency" "Money format",
      .leaf "money_with_currency_format" "currency" "Money with currency format",
      .leaf "name" "string" "Store name",
      .leaf "password_message" "string" "Password page message",
      .leaf "permanent_domain" "string" "Permanent domain",
      .leaf "phone" "string" "Store phone",
      .leaf "policies" "array<policy>" "Store policies",
      .leaf "privacy_policy" "policy" "Privacy policy",
      .leaf "products_count" "number" "Number of products",
      .leaf "published_locales" "array<shop_locale>" "Published locales",
      .leaf "refund_policy" "policy" "Refund policy",
      .leaf "secure_url" "string" "Secure URL",
      .leaf "shipping_policy" "policy" "Shipping policy",
      .leaf "subscription_policy" "policy" "Subscription policy",
      .leaf "terms_of_service" "policy" "Terms of service",
      .leaf "types" "array<string>" "Product types",
      .leaf "url" "string" "Store URL",
      .leaf "vendors" "array<string>" "Product vendors"] },
  { name := "shop_locale"
    typeName := "ShopLocale"
    description := "A language in store."
    properties := [
      .leaf "endonym_name" "string" "Native language name",
      .leaf "iso_code" "string" "ISO language code",
      .leaf "name" "string" "Language name",
      .leaf "primary" "boolean" "Whether primary language",
      .leaf "root_url" "string" "Root URL for language"] },
  { name := "sitemap"
    typeName := "Sitemap"
    description := "Sitemap for robots.txt group."
    properties := [
      .leaf "directive" "string" "Sitemap directive",
      .leaf "value" "string" "Sitemap URL"] },
  { name := "sort_option"
    typeName := "SortOption"
    description := "Sort option for collection or search."
    properties := [
      .leaf "name" "string" "Option name",
      .leaf "value" "string" "Option value"] },
  { name := "store_availability"
    typeName := "StoreAvailability"
    description := "Variant inventory for physical store location."
    properties := [
      .leaf "available" "boolean" "Whether available",
      .leaf "location" "location" "Store location",
      .leaf "pick_up_enabled" "boolean" "Whether pickup enabled",
      .leaf "pick_up_time" "string" "Pickup time"] },
  { name := "store_credit_account"
    typeName := "StoreCreditAccount"
    description := "Store credit account owned by customer."
    properties := [
      .leaf "balance" "money" "Account balance"] },
  { name := "swatch"
    typeName := "Swatch"
    description := "Color and image for visual representation."
    properties := [
      .leaf "color" "color" "Swatch color",
      .leaf "image" "image" "Swatch image"] },
  { name := "tablerowloop"
    typeName := "TableRowLoop"
    description := "Information about parent tablerow loop."
    properties := [
      .leaf "col" "number" "Current column (1-based)",
      .leaf "col0" "number" "Current column (0-based)",
      .leaf "col_first" "boolean" "Whether first column",
      .leaf "col_last" "boolean" "Whether last column",
      .leaf "first" "boolean" "Whether first row",
      .leaf "index" "number" "Current iteration (1-based)",
      .leaf "index0" "number" "Current iteration (0-based)",
      .leaf "last" "boolean" "Whether last row",
      .leaf "length" "number" "Total iterations",
      .leaf "rindex" "number" "Reverse index (1-based)",
      .leaf "rindex0" "number" "Reverse index (0-based)",
      .leaf "row" "number" "Current row"] },
  { name := "tax_line"
    typeName := "TaxLine"
    description := "Tax line information for checkout or order."
    properties := [
      .leaf "price" "number" "Tax amount",
      .leaf "rate" "number" "Tax rate (decimal)",
      .leaf "rate_percentage" "number" "Tax rate percentage",
      .leaf "title" "string" "Tax name"] },
  { name := "taxonomy_category"
    typeName := "TaxonomyCategory"
    description := "Taxonomy category for product."
    properties := [
      .leaf "ancestors" "array<taxonomy_category>" "Category ancestors",
      .leaf "gid" "string" "Global ID",
      .leaf "id" "string" "Category ID",
      .leaf "name" "string" "Category name"] },
  { name := "template"
    typeName := "Template"
    description := "Information about current template."
    properties := [
      .leaf "directory" "string" "Template directory",
      .leaf "name" "string" "Template name",
      .leaf "suffix" "string" "Template suffix"] },
  { name := "theme"
    typeName := "Theme"
    description := "Information about current theme. Deprecated because values are subject to change."
    deprecated := true
    properties := [
      .leaf "id" "number" "Theme ID",
      .leaf "name" "string" "Theme name",
      .leaf "role" "string" "Theme role"] },
  { name := "transaction"
    typeName := "Transaction"
    description := "Transaction associated with checkout or order."
    properties := [
      .leaf "amount" "number" "Transaction amount",
      .leaf "buyer_pending_payment_instructions" "array<pending_payment_instruction_input>" "Payment instructions",
      .leaf "buyer_pending_payment_notice" "string" "Payment notice",
      .leaf "created_at" "string" "Creation timestamp",
      .leaf "gateway" "string" "Payment gateway",
      .leaf "gateway_display_name" "string" "Gateway display name",
      .leaf "id" "number" "Transaction ID",
      .leaf "kind" "string" "Transaction kind",
      .leaf "name" "string" "Transaction name",
      .leaf "payment_details" "transaction_payment_details" "Payment details",
      .leaf "receipt" "string" "Receipt information",
      .leaf "show_buyer_pending_payment_instructions" "boolean" "Whether to show instructions",
      .leaf "status" "string" "Transaction status",
      .leaf "status_label" "string" "Status label"] },
  { name := "transaction_payment_details"
    typeName := "TransactionPaymentDetails"
    description := "Payment method information for transaction."
    properties := [
      .leaf "credit_card_company" "string" "Credit card company",
      .leaf "credit_card_last_four_digits" "string" "Last 4 digits",
      .leaf "credit_card_number" "string" "Masked card number",
      .leaf "gift_card" "gift_card" "Gift card information"] },
  { name := "unit_price_measurement"
    typeName := "UnitPriceMeasurement"
    description := "How product variant units are measured for unit pricing."
    properties := [
      .leaf "measured_type" "string" "What is being measured",
      .leaf "quantity_unit" "string" "Quantity unit",
      .leaf "quantity_value" "number" "Quantity value",
      .leaf "reference_unit" "string" "Reference unit",
      .leaf "reference_value" "number" "Reference value"] },
  { name := "user"
    typeName := "User"
    description := "Author of blog article."
    properties := [
      .leaf "account_owner" "boolean" "Whether account owner",
      .leaf "bio" "string" "User bio",
      .leaf "email" "string" "User email",
      .leaf "first_name" "string" "First name",
      .leaf "homepage" "string" "Homepage URL",
      .leaf "image" "image" "User image",
      .leaf "last_name" "string" "Last name",
      .leaf "name" "string" "Full name"] },
  { name := "user_agent"
    typeName := "UserAgent"
    description := "User agent for robots.txt group."
    properties := [
      .leaf "directive" "string" "User-agent directive",
      .leaf "value" "string" "User agent value"] },
  { name := "variant"
    typeName := "Variant"
    description := "A product variant."
    properties := [
      .leaf "available" "boolean" "Whether variant is available",
      .leaf "barcode" "string" "Variant barcode",
      .leaf "compare_at_price" "number" "Compare at price",
      .leaf "featured_image" "image" "Featured image",
      .leaf "featured_media" "media" "Featured media",
      .leaf "id" "number" "Variant ID",
      .leaf "image" "image" "Variant image",
      .leaf "incoming" "boolean" "Whether inventory is incoming",
      .leaf "inventory_management" "string" "Inventory management",
      .leaf "inventory_policy" "string" "Inventory policy",
      .leaf "inventory_quantity" "number" "Available quantity",
      .leaf "matched" "boolean" "Whether variant matches current selection",
      .leaf "metafields" "metafields" "Associated metafields",
      .leaf "next_incoming_date" "string" "Next incoming inventory date",
      .leaf "options" "product_option_value" "Variant options",
      .leaf "price" "number" "Variant price",
      .leaf "product" "product" "Parent product",
      .leaf "quantity_price_breaks" "array<quantity_price_break>" "Quantity price breaks",
      .leaf "quantity_price_breaks_configured" "boolean" "Whether quantity breaks configured",
      .leaf "quantity_rule" "quantity_rule" "Quantity rule",
      .leaf "requires_selling_plan" "boolean" "Whether requires selling plan",
      .leaf "requires_shipping" "boolean" "Whether requires shipping",
      .leaf "selected" "boolean" "Whether variant is selected",
      .leaf "selected_selling_plan_allocation" "selling_plan_allocation" "Selected selling plan",
      .leaf "selling_plan_allocations" "array<selling_plan_allocation>" "Selling plan allocations",
      .leaf "sku" "string" "SKU",
      .leaf "store_availabilities" "array<store_availability>" "Store availability",
      .leaf "taxable" "boolean" "Whether taxable",
      .leaf "title" "string" "Variant title",
      .leaf "unit_price" "number" "Unit price",
      .leaf "unit_price_measurement" "unit_price_measurement" "Unit measurement",
      .leaf "url" "string" "Variant URL",
      .leaf "weight" "number" "Weight",
      .leaf "weight_in_unit" "number" "Weight in specified unit",
      .leaf "weight_unit" "string" "Weight unit"] },
  { name := "video"
    typeName := "Video"
    description := "Video uploaded as product media or metafield."
    properties := [
      .leaf "alt" "string" "Alt text",
      .leaf "aspect_ratio" "number" "Video aspect ratio",
      .leaf "duration" "number" "Video duration",
      .leaf "id" "number" "Video ID",
      .leaf "media_type" "string" "Media type",
      .leaf "position" "number" "Position in array",
      .leaf "preview_image" "image" "Preview image",
      .leaf "sources" "array<video_source>" "Video sources"] },
  { name := "video_source"
    typeName := "VideoSource"
    description := "Source files for video."
    properties := [
      .leaf "format" "string" "Video format",
      .leaf "height" "number" "Video height",
      .leaf "mime_type" "string" "MIME type",
      .leaf "url" "string" "Video URL",
      .leaf "width" "number" "Video width"] }]

end LiquidHover.Catalog.Shopify
