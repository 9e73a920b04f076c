/-
**Objects with the initials P to R.**
-/
import LiquidHover.Catalog.Entry

namespace LiquidHover.Catalog.Shopify

/-- The objects, in the order of their names; 24 of them. -/
def objectsPToR : List Object := [
  { name := "page"
    typeName := "Page"
    description := "A page on store."
    properties := [
      .leaf "author" "string" "Page author",
      .leaf "content" "string" "Page content",
      .leaf "handle" "string" "Page handle",
      .leaf "id" "number" "Page ID",
      .leaf "metafields" "metafields" "Associated metafields",
      .leaf "published_at" "string" "Publication timestamp",
      .leaf "template_suffix" "string" "Template suffix",
      .leaf "title" "string" "Page title",
      .leaf "url" "string" "Page URL"] },
  { name := "page_description"
    typeName := "PageDescription"
    description := "Meta description of current page." },
  { name := "page_image"
    typeName := "PageImage"
    description := "Image for search engine listings and social media previews." },
  { name := "page_title"
    typeName := "PageTitle"
    description := "Page title of current page." },
  { name := "pages"
    typeName := "Pages"
    description := "All pages on store." },
  { name := "paginate"
    typeName := "Paginate"
    description := "Information about pagination inside paginate tags."
    properties := [
      .leaf "current_offset" "number" "Current offset",
      .leaf "current_page" "number" "Current page number",
      .leaf "items" "number" "Number of items",
      .leaf "next" "part" "Next page part",
      .leaf "page_param" "string" "Page parameter name",
      .leaf "page_size" "number" "Items per page",
      .leaf "pages" "number" "Total pages",
      .leaf "parts" "array<part>" "Pagination parts",
      .leaf "previous" "part" "Previous page part"] },
  { name := "part"
    typeName := "Part"
    description := "A part in pagination navigation."
    properties := [
      .leaf "is_link" "boolean" "Whether part is link",
      .leaf "title" "string" "Part title",
      .leaf "url" "string" "Part URL"] },
  { name := "pending_payment_instruction_input"
    typeName := "PendingPaymentInstructionInput"
    description := "Payment information for offline transaction completion."
    properties := [
      .leaf "header" "string" "Instruction header",
      .leaf "value" "string" "Instruction value"] },
  { name := "policy"
    typeName := "Policy"
    description := "A store policy."
    properties := [
      .leaf "body" "string" "Policy content",
      .leaf "id" "string" "Policy ID",
      .leaf "title" "string" "Policy title",
      .leaf "url" "string" "Policy URL"] },
  { name := "powered_by_link"
    typeName := "PoweredByLink"
    description := "HTML link to localized shopify.com." },
  { name := "predictive_search"
    typeName := "PredictiveSearch"
    description := "Results from predictive search query."
    properties := [
      .leaf "performed" "boolean" "Whether search was performed",
      .leaf "resources" "predictive_search_resources" "Search results",
      .leaf "terms" "string" "Search terms",
      .leaf "types" "array<string>" "Resource types searched"] },
  { name := "predictive_search_resources"
    typeName := "PredictiveSearchResources"
    description := "Arrays of objects for each resource type from search."
    properties := [
      .leaf "articles" "array<article>" "Article results",
      .leaf "collections" "array<collection>" "Collection results",
      .leaf "pages" "array<page>" "Page results",
      .leaf "products" "array<product>" "Product results"] },
  { name := "product"
    typeName := "Product"
    description := "A product in the store."
    properties := [
      .leaf "available" "boolean" "Whether product is available",
      .leaf "category" "taxonomy_category" "Product category",
      .leaf "collections" "array<collection>" "Product collections",
      .leaf "compare_at_price" "number" "Compare at price",
      .leaf "compare_at_price_max" "number" "Highest compare price",
      .leaf "compare_at_price_min" "number" "Lowest compare price",
      .leaf "compare_at_price_varies" "boolean" "Whether compare price varies",
      .leaf "content" "string" "Product description HTML",
      .leaf "created_at" "string" "Creation timestamp",
      .leaf "description" "string" "Product description",
      .leaf "featured_image" "image" "Featured image",
      .leaf "featured_media" "media" "Featured media",
      .leaf "first_available_variant" "variant" "First available variant",
      .leaf "gift_card" "boolean" "Whether product is gift card",
      .leaf "handle" "string" "Product handle",
      .leaf "has_only_default_variant" "boolean" "Whether has only default variant",
      .leaf "id" "number" "Product ID",
      .leaf "images" "array<image>" "Product images",
      .leaf "media" "array<media>" "Product media",
      .leaf "metafields" "metafields" "Associated metafields",
      .leaf "options" "array<string>" "Option names",
      .leaf "options_by_name" "object" "Options by name",
      .leaf "options_with_values" "array<product_option>" "Options with values",
      .leaf "price" "number" "Product price",
      .leaf "price_max" "number" "Highest price",
      .leaf "price_min" "number" "Lowest price",
      .leaf "price_varies" "boolean" "Whether price varies",
      .leaf "published_at" "string" "Publication timestamp",
      .leaf "quantity_price_breaks_configured" "boolean" "Whether quantity breaks configured",
      .leaf "requires_selling_plan" "boolean" "Whether requires selling plan",
      .leaf "selected_or_first_available_selling_plan_allocation" "selling_plan_allocation" "Selected/first selling plan",
      .leaf "selected_or_first_available_variant" "variant" "Selected/first variant",
      .leaf "selected_selling_plan" "selling_plan" "Selected selling plan",
      .leaf "selected_selling_plan_allocation" "selling_plan_allocation" "Selected selling plan allocation",
      .leaf "selected_variant" "variant" "Selected variant",
      .leaf "selling_plan_groups" "array<selling_plan_group>" "Selling plan groups",
      .leaf "tags" "array<string>" "Product tags",
      .leaf "template_suffix" "string" "Template suffix",
      .leaf "title" "string" "Product title",
      .leaf "type" "string" "Product type",
      .leaf "url" "string" "Product URL",
      .leaf "variants" "array<variant>" "Product variants",
      .leaf "variants_count" "number" "Number of variants",
      .leaf "vendor" "string" "Product vendor"] },
  { name := "product_option"
    typeName := "ProductOption"
    description := "A product option like size or color."
    properties := [
      .leaf "name" "string" "Option name",
      .leaf "position" "number" "Option position",
      .leaf "selected_value" "string" "Selected value",
      .leaf "values" "array<product_option_value>" "Option values"] },
  { name := "product_option_value"
    typeName := "ProductOptionValue"
    description := "A product option value like \"red\" for color."
    properties := [
      .leaf "available" "boolean" "Whether value is available",
      .leaf "id" "number" "Value ID",
      .leaf "name" "string" "Value name",
      .leaf "product_url" "string" "Product URL with this value",
      .leaf "selected" "boolean" "Whether value is selected",
      .leaf "swatch" "swatch" "Color/image swatch",
      .leaf "variant" "variant" "Associated variant"] },
  { name := "quantity_price_break"
    typeName := "QuantityPriceBreak"
    description := "Per-unit price when purchasing minimum quantity or more."
    properties := [
      .leaf "minimum_quantity" "number" "Minimum quantity required",
      .leaf "price" "number" "Price per unit"] },
  { name := "quantity_rule"
    typeName := "QuantityRule"
    description := "Variant order quantity rule."
    properties := [
      .leaf "increment" "number" "Quantity increment",
      .leaf "max" "number" "Maximum quantity",
      .leaf "min" "number" "Minimum quantity"] },
  { name := "rating"
    typeName := "Rating"
    description := "Information for rating type metafield."
    properties := [
      .leaf "rating" "number" "Rating value",
      .leaf "scale_max" "number" "Maximum scale value",
      .leaf "scale_min" "number" "Minimum scale value"] },
  { name := "recipient"
    typeName := "Recipient"
    description := "Recipient associated with gift card."
    properties := [
      .leaf "email" "string" "Recipient email",
      .leaf "name" "string" "Recipient name",
      .leaf "nickname" "string" "Recipient nickname"] },
  { name := "recommendations"
    typeName := "Recommendations"
    description := "Product recommendations based on sales data and relationships."
    properties := [
      .leaf "intent" "string" "Recommendation intent",
      .leaf "performed" "boolean" "Whether recommendations performed",
      .leaf "products" "array<product>" "Recommended products",
      .leaf "products_count" "number" "Number of products"] },
  { name := "request"
    typeName := "Request"
    description := "Information about current URL and page."
    properties := [
      .leaf "design_mode" "boolean" "Whether in design mode",
      .leaf "host" "string" "Request host",
      .leaf "locale" "shop_locale" "Current locale",
      .leaf "origin" "string" "Request origin",
      .leaf "page_type" "string" "Current page type",
      .leaf "path" "string" "Request path",
      .leaf "visual_preview_mode" "boolean" "Whether in visual preview"] },
  { name := "robots"
    typeName := "Robots"
    description := "Default rule groups for robots.txt file."
    properties := [
      .leaf "default_groups" "array<group>" "Default robot groups"] },
  { name := "routes"
    typeName := "Routes"
    description := "Generate standard URLs for storefront."
    properties := [
      .leaf "account_addresses_url" "string" "Account addresses URL",
      .leaf "account_login_url" "string" "Login URL",
      .leaf "account_logout_url" "string" "Logout URL",
      .leaf "account_recover_url" "string" "Password recovery URL",
      .leaf "account_register_url" "string" "Registration URL",
      .leaf "account_url" "string" "Account URL",
      .leaf "all_products_collection_url" "string" "All products URL",
      .leaf "cart_add_url" "string" "Cart add URL",
      .leaf "cart_change_url" "string" "Cart change URL",
      .leaf "cart_clear_url" "string" "Cart clear URL",
      .leaf "cart_update_url" "string" "Cart update URL",
      .leaf "cart_url" "string" "Cart URL",
      .leaf "collections_url" "string" "Collections URL",
      .leaf "predictive_search_url" "string" "Predictive search URL",
      .leaf "product_recommendations_url" "string" "Product recommendations URL",
      .leaf "root_url" "string" "Root URL",
      .leaf "search_url" "string" "Search URL",
      .leaf "storefront_login_url" "string" "Storefront login URL"] },
  { name := "rule"
    typeName := "Rule"
    description := "A rule for robots.txt file."
    properties := [
      .leaf "directive" "string" "Rule directive (Allow/Disallow)",
      .leaf "value" "string" "URL path value"] }]

end LiquidHover.Catalog.Shopify
