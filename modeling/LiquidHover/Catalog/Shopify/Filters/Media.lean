/-
**Filters of the category media.**
-/
import LiquidHover.Catalog.Entry

namespace LiquidHover.Catalog.Shopify

/-- The media filters, 12 of them. -/
def mediaFilters : List Filter := [
  { name := "article_img_url"
    category := .media
    description := "Returns the CDN URL for an article's image"
    usage := some "article.image | article_img_url: size"
    returnType := "string"
    parameters := [
      { name := "size"
        typeName := "string"
        description := "Image size"
        default? := some "small" }]
    deprecated := true },
  { name := "collection_img_url"
    category := .media
    description := "Returns the CDN URL for a collection's image"
    usage := some "collection.image | collection_img_url: size"
    returnType := "string"
    parameters := [
      { name := "size"
        typeName := "string"
        description := "Image size"
        default? := some "small" }]
    deprecated := true },
  { name := "external_video_tag"
    category := .media
    description := "Generates an HTML <iframe> tag containing the player for a given external video"
    usage := some "external_video | external_video_tag: attributes"
    returnType := "string"
    parameters := [
      { name := "class", typeName := "string", description := "CSS class" },
      { name := "width", typeName := "number", description := "Video width" },
      { name := "height", typeName := "number", description := "Video height" }] },
  { name := "external_video_url"
    category := .media
    description := "Returns the URL for a given external video with specified parameters"
    usage := some "external_video | external_video_url: parameters"
    returnType := "string" },
  { name := "image_tag"
    category := .media
    description := "Generates an HTML <img> tag for a given image_url"
    usage := some "image_url | image_tag: attributes"
    returnType := "string"
    parameters := [
      { name := "width", typeName := "number", description := "Image width" },
      { name := "height", typeName := "number", description := "Image height" },
      { name := "alt", typeName := "string", description := "Alt text" },
      { name := "class", typeName := "string", description := "CSS class" },
      { name := "sizes", typeName := "string", description := "Responsive sizes attribute" },
      { name := "widths"
        typeName := "string"
        description := "Comma-separated list of widths for srcset" },
      { name := "preload", typeName := "boolean", description := "Whether to preload the image" },
      { name := "loading", typeName := "string", description := "Loading attribute (lazy/eager)" }] },
  { name := "image_url"
    category := .media
    description := "Returns the CDN URL for an image"
    usage := some "image | image_url: width, height, crop, format, pad_color"
    returnType := "string"
    parameters := [
      { name := "width", typeName := "number", description := "Image width (max 5760px)" },
      { name := "height", typeName := "number", description := "Image height (max 5760px)" },
      { name := "crop"
        typeName := "string"
        description := "Crop position"
        default? := some "center"
        values := ["top", "center", "bottom", "left", "right", "region"] },
      { name := "format"
        typeName := "string"
        description := "File format"
        values := ["jpg", "pjpg"] },
      { name := "pad_color", typeName := "string", description := "Hex color for padding" }] },
  { name := "img_tag"
    category := .media
    description := "Generates an HTML <img> tag for a given image URL"
    usage := some "image | img_tag: alt, class, size"
    returnType := "string"
    parameters := [
      { name := "alt", typeName := "string", description := "Alt text" },
      { name := "class", typeName := "string", description := "CSS class" },
      { name := "size", typeName := "string", description := "Image size" }]
    deprecated := true },
  { name := "img_url"
    category := .media
    description := "Returns the CDN URL for an image"
    usage := some "image | img_url: size, crop, format, scale"
    returnType := "string"
    parameters := [
      { name := "size", typeName := "string", description := "Image size" },
      { name := "crop", typeName := "string", description := "Crop position" },
      { name := "format", typeName := "string", description := "File format" },
      { name := "scale", typeName := "number", description := "Pixel density (2 or 3)" }]
    deprecated := true },
  { name := "media_tag"
    category := .media
    description := "Generates an appropriate HTML tag for a given media object"
    usage := some "media | media_tag: image_size"
    returnType := "string"
    parameters := [
      { name := "image_size"
        typeName := "string"
        description := "Dimensions of media's poster image" }] },
  { name := "model_viewer_tag"
    category := .media
    description := "Generates a Google model viewer component for a given 3D model"
    usage := some "model | model_viewer_tag: image_size, attributes"
    returnType := "string"
    parameters := [
      { name := "image_size"
        typeName := "string"
        description := "Dimensions of model's poster image" }] },
  { name := "product_img_url"
    category := .media
    description := "Returns the CDN URL for a product image"
    usage := some "product_image | product_img_url: size"
    returnType := "string"
    parameters := [
      { name := "size"
        typeName := "string"
        description := "Image size"
        default? := some "small" }]
    deprecated := true },
  { name := "video_tag"
    category := .media
    description := "Generates an HTML <video> tag for a given video"
    usage := some "video | video_tag: attributes"
    returnType := "string"
    parameters := [
      { name := "image_size"
        typeName := "string"
        description := "Dimensions of video's poster image" },
      { name := "autoplay", typeName := "boolean", description := "Auto-play video" },
      { name := "loop", typeName := "boolean", description := "Loop video" },
      { name := "muted", typeName := "boolean", description := "Mute video audio" },
      { name := "controls", typeName := "boolean", description := "Show video controls" }] }]

end LiquidHover.Catalog.Shopify
