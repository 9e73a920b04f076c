/-
**Objects with the initials D to H.**
-/
import LiquidHover.Catalog.Entry

namespace LiquidHover.Catalog.Shopify

/-- The objects, in the order of their names; 17 of them. -/
def objectsDToH : List Object := [
  { name := "discount"
    typeName := "Discount"
    description := "A discount applied to cart, line item, or order. Replaced by discount_allocation and discount_application."
    deprecated := true
    properties := [
      .leaf "amount" "number" "Discount amount",
      .leaf "code" "string" "Discount code",
      .leaf "savings" "number" "Amount saved",
      .leaf "title" "string" "Discount title",
      .leaf "total_amount" "number" "Total discount amount",
      .leaf "total_savings" "number" "Total savings",
      .leaf "type" "string" "Discount type"] },
  { name := "discount_allocation"
    typeName := "DiscountAllocation"
    description := "Information about how a discount affects an item."
    properties := [
      .leaf "amount" "number" "Allocated discount amount",
      .leaf "discount_application" "discount_application" "Related discount application"] },
  { name := "discount_application"
    typeName := "DiscountApplication"
    description := "Information about the intent of a discount."
    properties := [
      .leaf "target_selection" "string" "How targets are selected",
      .leaf "target_type" "string" "Type of target",
      .leaf "title" "string" "Discount title",
      .leaf "total_allocated_amount" "number" "Total allocated amount",
      .leaf "type" "string" "Application type",
      .leaf "value" "number" "Discount value",
      .leaf "value_type" "string" "Value type (percentage/fixed_amount)"] },
  { name := "external_video"
    typeName := "ExternalVideo"
    description := "Information about external video from YouTube or Vimeo."
    properties := [
      .leaf "alt" "string" "Alt text",
      .leaf "aspect_ratio" "number" "Video aspect ratio",
      .leaf "external_id" "string" "External video ID",
      .leaf "host" "string" "Video host (youtube/vimeo)",
      .leaf "id" "number" "Internal ID",
      .leaf "media_type" "string" "Media type",
      .leaf "position" "number" "Position in media array",
      .leaf "preview_image" "image" "Preview image"] },
  { name := "filter"
    typeName := "Filter"
    description := "A storefront filter."
    properties := [
      .leaf "active_values" "array<filter_value>" "Currently active values",
      .leaf "false_value" "filter_value" "False value for boolean filters",
      .leaf "inactive_values" "array<filter_value>" "Inactive values",
      .leaf "label" "string" "Filter label",
      .leaf "max_value" "filter_value" "Maximum value for range filters",
      .leaf "min_value" "filter_value" "Minimum value for range filters",
      .leaf "operator" "string" "Filter operator",
      .leaf "param_name" "string" "URL parameter name",
      .leaf "presentation" "string" "How filter should be presented",
      .leaf "range_max" "number" "Maximum range value",
      .leaf "true_value" "filter_value" "True value for boolean filters",
      .leaf "type" "string" "Filter type",
      .leaf "url_to_remove" "string" "URL to remove filter",
      .leaf "values" "array<filter_value>" "All filter values"] },
  { name := "filter_value"
    typeName := "FilterValue"
    description := "A specific value of a filter."
    properties := [
      .leaf "active" "boolean" "Whether value is active",
      .leaf "count" "number" "Number of products with this value",
      .leaf "image" "image" "Associated image",
      .leaf "label" "string" "Display label",
      .leaf "param_name" "string" "URL parameter name",
      .leaf "swatch" "swatch" "Color/image swatch",
      .leaf "url_to_add" "string" "URL to add this filter",
      .leaf "url_to_remove" "string" "URL to remove this filter",
      .leaf "value" "string" "Filter value"] },
  { name := "filter_value_display"
    typeName := "FilterValueDisplay"
    description := "Visual representation of filter value. Replaced by swatch."
    deprecated := true
    properties := [
      .leaf "type" "string" "Display type",
      .leaf "value" "any" "Display value"] },
  { name := "focal_point"
    typeName := "FocalPoint"
    description := "Focal point for an image to remain visible when cropped."
    properties := [
      .leaf "x" "number" "X coordinate percentage",
      .leaf "y" "number" "Y coordinate percentage"] },
  { name := "font"
    typeName := "Font"
    description := "A font from a font_picker setting."
    properties := [
      .leaf "baseline_ratio" "number" "Baseline ratio",
      .leaf "fallback_families" "string" "Fallback font families",
      .leaf "family" "string" "Font family name",
      .leaf "style" "string" "Font style",
      .leaf "system" "boolean" "Whether it's a system font",
      .leaf "variants" "array<font>" "Font variants",
      .leaf "weight" "number" "Font weight"] },
  { name := "forloop"
    typeName := "ForLoop"
    description := "Information about a parent for loop."
    properties := [
      .leaf "first" "boolean" "Whether first iteration",
      .leaf "index" "number" "Current iteration (1-based)",
      .leaf "index0" "number" "Current iteration (0-based)",
      .leaf "last" "boolean" "Whether last iteration",
      .leaf "length" "number" "Total iterations",
      .leaf "parentloop" "forloop" "Parent loop object",
      .leaf "rindex" "number" "Reverse index (1-based)",
      .leaf "rindex0" "number" "Reverse index (0-based)"] },
  { name := "form"
    typeName := "Form"
    description := "Information about a form created by form tag."
    properties := [
      .leaf "address1" "string" "Address line 1",
      .leaf "address2" "string" "Address line 2",
      .leaf "author" "string" "Author name",
      .leaf "body" "string" "Form body content",
      .leaf "city" "string" "City",
      .leaf "company" "string" "Company",
      .leaf "country" "string" "Country",
      .leaf "email" "string" "Email address",
      .leaf "errors" "form_errors" "Form errors",
      .leaf "first_name" "string" "First name",
      .leaf "id" "string" "Form ID",
      .leaf "last_name" "string" "Last name",
      .leaf "message" "string" "Message content",
      .leaf "name" "string" "Full name",
      .leaf "password_needed" "boolean" "Whether password needed",
      .leaf "phone" "string" "Phone number",
      .leaf "posted_successfully" "boolean" "Whether posted successfully",
      .leaf "province" "string" "Province/state",
      .leaf "set_as_default_checkbox" "string" "Default checkbox HTML",
      .leaf "zip" "string" "ZIP/postal code"] },
  { name := "form_errors"
    typeName := "FormErrors"
    description := "Error category strings for form errors."
    properties := [
      .leaf "messages" "array<string>" "Error messages",
      .leaf "translated_fields" "array<string>" "Translated field names"] },
  { name := "fulfillment"
    typeName := "Fulfillment"
    description := "Order fulfillment information."
    properties := [
      .leaf "created_at" "string" "Creation timestamp",
      .leaf "fulfillment_line_items" "array<line_item>" "Fulfilled items",
      .leaf "item_count" "number" "Number of items",
      .leaf "tracking_company" "string" "Shipping company",
      .leaf "tracking_number" "string" "Tracking number",
      .leaf "tracking_numbers" "array<string>" "Multiple tracking numbers",
      .leaf "tracking_url" "string" "Tracking URL"] },
  { name := "generic_file"
    typeName := "GenericFile"
    description := "A file from file_reference metafield that's not image or video."
    properties := [
      .leaf "alt" "string" "Alt text",
      .leaf "id" "number" "File ID",
      .leaf "media_type" "string" "Media type",
      .leaf "position" "number" "Position in array",
      .leaf "preview_image" "image" "Preview image",
      .leaf "url" "string" "File URL"] },
  { name := "gift_card"
    typeName := "GiftCard"
    description := "A gift card issued to customer or recipient."
    properties := [
      .leaf "balance" "number" "Current balance",
      .leaf "code" "string" "Gift card code",
      .leaf "currency" "string" "Currency",
      .leaf "customer" "customer" "Associated customer",
      .leaf "enabled" "boolean" "Whether enabled",
      .leaf "expired" "boolean" "Whether expired",
      .leaf "expires_on" "string" "Expiration date",
      .leaf "initial_value" "number" "Initial value",
      .leaf "last_four_characters" "string" "Last 4 characters of code",
      .leaf "message" "string" "Gift message",
      .leaf "pass_url" "string" "Apple Wallet pass URL",
      .leaf "product" "product" "Associated product",
      .leaf "properties" "object" "Custom properties",
      .leaf "qr_identifier" "string" "QR code identifier",
      .leaf "recipient" "recipient" "Gift recipient",
      .leaf "send_on" "string" "Send date",
      .leaf "template_suffix" "string" "Template suffix",
      .leaf "url" "string" "Gift card URL"] },
  { name := "group"
    typeName := "Group"
    description := "A group of rules for robots.txt file."
    properties := [
      .leaf "rules" "array<rule>" "Robots rules",
      .leaf "sitemap" "sitemap" "Sitemap information",
      .leaf "user_agent" "user_agent" "User agent information"] },
  { name := "handle"
    typeName := "Handle"
    description := "Handle of resource associated with current template." }]

end LiquidHover.Catalog.Shopify
