/-
**Objects with the initials I to O.**
-/
import LiquidHover.Catalog.Entry

namespace LiquidHover.Catalog.Shopify

/-- The objects, in the order of their names; 21 of them. -/
def objectsIToO : List Object := [
  { name := "image"
    typeName := "Image"
    description := "An image, such as product or collection image."
    properties := [
      .leaf "alt" "string" "Alt text",
      .leaf "aspect_ratio" "number" "Image aspect ratio",
      .leaf "attached_to_variant" "boolean" "Whether attached to variant",
      .leaf "height" "number" "Image height",
      .leaf "id" "number" "Image ID",
      .leaf "media_type" "string" "Media type",
      .leaf "position" "number" "Position in array",
      .leaf "presentation" "image_presentation" "Presentation settings",
      .leaf "preview_image" "image" "Preview image",
      .leaf "product_id" "number" "Associated product ID",
      .leaf "src" "string" "Image URL",
      .leaf "variants" "array<variant>" "Associated variants",
      .leaf "width" "number" "Image width"] },
  { name := "image_presentation"
    typeName := "ImagePresentation"
    description := "Presentation settings for an image."
    properties := [
      .leaf "focal_point" "focal_point" "Image focal point"] },
  { name := "images"
    typeName := "Images"
    description := "All images uploaded to store." },
  { name := "line_item"
    typeName := "LineItem"
    description := "A line in cart, checkout, or order representing a product variant."
    properties := [
      .leaf "discount_allocations" "array<discount_allocation>" "Applied discounts",
      .leaf "error_message" "string" "Error message if any",
      .leaf "final_line_price" "number" "Final line price after discounts",
      .leaf "final_price" "number" "Final unit price after discounts",
      .leaf "fulfillment" "fulfillment" "Fulfillment information",
      .leaf "fulfillment_service" "string" "Fulfillment service",
      .leaf "gift_card" "boolean" "Whether item is gift card",
      .leaf "grams" "number" "Weight in grams",
      .leaf "id" "number" "Line item ID",
      .leaf "image" "image" "Product image",
      .leaf "item_components" "array<line_item>" "Component items",
      .leaf "key" "string" "Unique key",
      .leaf "line_level_discount_allocations" "array<discount_allocation>" "Line-level discounts",
      .leaf "line_level_total_discount" "number" "Total line-level discount",
      .leaf "message" "string" "Associated message",
      .leaf "options_with_values" "object" "Variant options",
      .leaf "original_line_price" "number" "Original line price",
      .leaf "original_price" "number" "Original unit price",
      .leaf "product" "product" "Associated product",
      .leaf "product_id" "number" "Product ID",
      .leaf "properties" "object" "Custom properties",
      .leaf "quantity" "number" "Quantity",
      .leaf "requires_shipping" "boolean" "Whether requires shipping",
      .leaf "selling_plan_allocation" "selling_plan_allocation" "Selling plan info",
      .leaf "sku" "string" "SKU",
      .leaf "successfully_fulfilled_quantity" "number" "Fulfilled quantity",
      .leaf "tax_lines" "array<tax_line>" "Tax information",
      .leaf "taxable" "boolean" "Whether taxable",
      .leaf "title" "string" "Line item title",
      .leaf "unit_price" "number" "Unit price",
      .leaf "unit_price_measurement" "unit_price_measurement" "Unit measurement",
      .leaf "url" "string" "Product URL",
      .leaf "url_to_remove" "string" "URL to remove from cart",
      .leaf "variant" "variant" "Product variant",
      .leaf "variant_id" "number" "Variant ID",
      .leaf "vendor" "string" "Vendor name"] },
  { name := "link"
    typeName := "Link"
    description := "A link in a menu."
    properties := [
      .leaf "active" "boolean" "Whether link is active",
      .leaf "child_active" "boolean" "Whether child is active",
      .leaf "child_current" "boolean" "Whether child is current",
      .leaf "current" "boolean" "Whether link is current",
      .leaf "handle" "string" "Link handle",
      .leaf "levels" "number" "Number of nested levels",
      .leaf "links" "array<link>" "Child links",
      .leaf "object" "any" "Linked object",
      .leaf "title" "string" "Link title",
      .leaf "type" "string" "Link type",
      .leaf "url" "string" "Link URL"] },
  { name := "linklist"
    typeName := "Linklist"
    description := "A menu in store."
    properties := [
      .leaf "handle" "string" "Menu handle",
      .leaf "levels" "number" "Number of levels",
      .leaf "links" "array<link>" "Menu links",
      .leaf "title" "string" "Menu title"] },
  { name := "linklists"
    typeName := "Linklists"
    description := "All menus in store." },
  { name := "localization"
    typeName := "Localization"
    description := "Information about countries and languages available on store."
    properties := [
      .leaf "available_countries" "array<country>" "Available countries",
      .leaf "available_languages" "array<shop_locale>" "Available languages",
      .leaf "country" "country" "Current country",
      .leaf "language" "shop_locale" "Current language",
      .leaf "market" "market" "Current market"] },
  { name := "location"
    typeName := "Location"
    description := "A store location with local pickup enabled."
    properties := [
      .leaf "address" "address" "Location address",
      .leaf "id" "number" "Location ID",
      .leaf "latitude" "number" "Latitude coordinate",
      .leaf "longitude" "number" "Longitude coordinate",
      .leaf "metafields" "metafields" "Associated metafields",
      .leaf "name" "string" "Location name"] },
  { name := "market"
    typeName := "Market"
    description := "A group of regions that merchant targets for sales."
    properties := [
      .leaf "handle" "string" "Market handle",
      .leaf "id" "string" "Market ID",
      .leaf "metafields" "array<metafield>" "Associated metafields"] },
  { name := "measurement"
    typeName := "Measurement"
    description := "A measurement from dimension, volume, or weight metafield."
    properties := [
      .leaf "type" "string" "Measurement type",
      .leaf "unit" "string" "Unit of measurement",
      .leaf "value" "number" "Measurement value"] },
  { name := "media"
    typeName := "Media"
    description := "Abstract media object representing image, model, video, or external_video."
    properties := [
      .leaf "alt" "string" "Alt text",
      .leaf "id" "number" "Media ID",
      .leaf "media_type" "string" "Media type",
      .leaf "position" "number" "Position in array",
      .leaf "preview_image" "image" "Preview image"] },
  { name := "metafield"
    typeName := "Metafield"
    description := "A metafield attached to parent object."
    properties := [
      .leaf "list" "boolean" "Whether metafield is list type",
      .leaf "type" "string" "Metafield type",
      .leaf "value" "any" "Metafield value (type varies by metafield type)"] },
  { name := "metaobject"
    typeName := "Metaobject"
    description := "A metaobject entry with values for defined fields."
    properties := [
      .leaf "system" "metaobject_system" "System information"] },
  { name := "metaobject_definition"
    typeName := "MetaobjectDefinition"
    description := "Defines structure of metaobject type."
    properties := [
      .leaf "values" "array<metaobject>" "Metaobject entries",
      .leaf "values_count" "number" "Number of entries"] },
  { name := "metaobject_system"
    typeName := "MetaobjectSystem"
    description := "Basic system information about metaobject."
    properties := [
      .leaf "handle" "string" "Metaobject handle",
      .leaf "id" "number" "Metaobject ID",
      .leaf "type" "string" "Metaobject type",
      .leaf "url" "string" "Metaobject URL"] },
  { name := "metaobjects"
    typeName := "Metaobjects"
    description := "All metaobjects in store." },
  { name := "model"
    typeName := "Model"
    description := "A 3D model uploaded as product media."
    properties := [
      .leaf "alt" "string" "Alt text",
      .leaf "id" "number" "Model ID",
      .leaf "media_type" "string" "Media type",
      .leaf "position" "number" "Position in array",
      .leaf "preview_image" "image" "Preview image",
      .leaf "sources" "array<model_source>" "Model source files"] },
  { name := "model_source"
    typeName := "ModelSource"
    description := "A model source file."
    properties := [
      .leaf "format" "string" "File format",
      .leaf "mime_type" "string" "MIME type",
      .leaf "url" "string" "File URL"] },
  { name := "money"
    typeName := "Money"
    description := "Money value in customer's local currency."
    properties := [
      .leaf "currency" "currency" "Currency information"] },
  { name := "order"
    typeName := "Order"
    description := "An order."
    properties := [
      .leaf "attributes" "object" "Order attributes",
      .leaf "billing_address" "address" "Billing address",
      .leaf "cancel_reason" "string" "Cancellation reason",
      .leaf "cancel_reason_label" "string" "Cancellation reason label",
      .leaf "cancelled" "boolean" "Whether cancelled",
      .leaf "cancelled_at" "string" "Cancellation timestamp",
      .leaf "cart_level_discount_applications" "array<discount_application>" "Cart discounts",
      .leaf "confirmation_number" "string" "Confirmation number",
      .leaf "created_at" "string" "Creation timestamp",
      .leaf "customer" "customer" "Customer information",
      .leaf "customer_order_url" "string" "Customer order URL",
      .leaf "customer_url" "string" "Customer URL",
      .leaf "discount_applications" "array<discount_application>" "All discounts",
      .leaf "email" "string" "Customer email",
      .leaf "financial_status" "string" "Financial status",
      .leaf "financial_status_label" "any" "Financial status label",
      .leaf "fulfillment_status" "string" "Fulfillment status",
      .leaf "fulfillment_status_label" "string" "Fulfillment status label",
      .leaf "id" "number" "Order ID",
      .leaf "item_count" "number" "Number of items",
      .leaf "line_items" "array<line_item>" "Order items",
      .leaf "line_items_subtotal_price" "number" "Items subtotal",
      .leaf "metafields" "metafields" "Associated metafields",
      .leaf "name" "string" "Order name",
      .leaf "note" "string" "Order note",
      .leaf "order_number" "number" "Order number",
      .leaf "order_status_url" "string" "Order status URL",
      .leaf "phone" "string" "Customer phone",
      .leaf "pickup_in_store" "boolean" "Whether pickup in store",
      .leaf "shipping_address" "address" "Shipping address",
      .leaf "shipping_methods" "array<shipping_method>" "Shipping methods",
      .leaf "shipping_price" "number" "Shipping cost",
      .leaf "subtotal_line_items" "array<line_item>" "Subtotal items",
      .leaf "subtotal_price" "number" "Subtotal price",
      .leaf "tags" "array<string>" "Order tags",
      .leaf "tax_lines" "array<tax_line>" "Tax information",
      .leaf "tax_price" "number" "Tax amount",
      .leaf "total_discounts" "number" "Total discounts",
      .leaf "total_duties" "number" "Total duties",
      .leaf "total_net_amount" "number" "Net amount",
      .leaf "total_price" "number" "Total price",
      .leaf "total_refunded_amount" "number" "Refunded amount",
      .leaf "transactions" "array<transaction>" "Payment transactions"] }]

end LiquidHover.Catalog.Shopify
