/-
**Objects with the initials A to B.**
-/
import LiquidHover.Catalog.Entry

namespace LiquidHover.Catalog.Shopify

/-- The objects, in the order of their names; 12 of them. -/
def objectsAToB : List Object := [
  { name := "additional_checkout_buttons"
    typeName := "AdditionalCheckoutButtons"
    description := "Returns true if a store has any payment providers with offsite checkouts, such as PayPal Express Checkout." },
  { name := "address"
    typeName := "Address"
    description := "An address, such as a customer address or order shipping address."
    properties := [
      .leaf "address1" "string" "First line of the address",
      .leaf "address2" "string" "Second line of the address",
      .leaf "city" "string" "City name",
      .leaf "company" "string" "Company name",
      .leaf "country" "country" "Country object",
      .leaf "country_code" "string" "Country code",
      .leaf "first_name" "string" "First name",
      .leaf "id" "number" "Unique identifier",
      .leaf "last_name" "string" "Last name",
      .leaf "name" "string" "Full name",
      .leaf "phone" "string" "Phone number",
      .leaf "province" "string" "Province/state name",
      .leaf "province_code" "string" "Province/state code",
      .leaf "street" "string" "Complete street address",
      .leaf "summary" "string" "Full formatted address",
      .leaf "url" "string" "URL to manage this address",
      .leaf "zip" "string" "Postal/ZIP code"] },
  { name := "all_country_option_tags"
    typeName := "AllCountryOptionTags"
    description := "Creates an <option> tag for each country with data-provinces attribute containing JSON-encoded array of subregions." },
  { name := "all_products"
    typeName := "AllProducts"
    description := "All of the products on a store. Limited to 20 unique handles per page." },
  { name := "app"
    typeName := "App"
    description := "An app object, usually used to access app-specific information for theme app extensions."
    properties := [
      .leaf "metafields" "metafields" "The metafields owned by the app"] },
  { name := "article"
    typeName := "Article"
    description := "An article or blog post in a blog."
    properties := [
      .leaf "author" "string" "Author name",
      .leaf "comment_post_url" "string" "URL for posting comments",
      .leaf "comments" "array<comment>" "Article comments",
      .leaf "comments_count" "number" "Number of comments",
      .leaf "comments_enabled" "boolean" "Whether comments are enabled",
      .leaf "content" "string" "Full article content",
      .leaf "created_at" "string" "Creation timestamp",
      .leaf "excerpt" "string" "Article excerpt",
      .leaf "excerpt_or_content" "string" "Excerpt if available, otherwise content",
      .leaf "handle" "string" "URL handle",
      .leaf "id" "string" "Unique identifier",
      .leaf "image" "image" "Featured image",
      .leaf "metafields" "metafields" "Associated metafields",
      .leaf "moderated" "boolean" "Whether comments are moderated",
      .leaf "published_at" "string" "Publication timestamp",
      .leaf "tags" "array<string>" "Article tags",
      .leaf "template_suffix" "string" "Template suffix",
      .leaf "title" "string" "Article title",
      .leaf "updated_at" "string" "Last update timestamp",
      .leaf "url" "string" "Article URL",
      .leaf "user" "user" "Author user object"] },
  { name := "articles"
    typeName := "Articles"
    description := "All articles across all blogs in the store." },
  { name := "block"
    typeName := "Block"
    description := "Content and settings of a section block."
    properties := [
      .leaf "id" "string" "Block identifier",
      .leaf "settings" "object" "Block settings",
      .leaf "shopify_attributes" "string" "Shopify editor attributes",
      .leaf "type" "string" "Block type"] },
  { name := "blog"
    typeName := "Blog"
    description := "Information about a specific blog in the store."
    properties := [
      .leaf "all_tags" "array<string>" "All tags used in blog",
      .leaf "articles" "array<article>" "Blog articles",
      .leaf "articles_count" "number" "Total number of articles",
      .leaf "comments_enabled" "boolean" "Whether comments are enabled",
      .leaf "handle" "string" "Blog handle",
      .leaf "id" "number" "Unique identifier",
      .leaf "metafields" "array<metafield>" "Associated metafields",
      .leaf "moderated" "boolean" "Whether comments are moderated",
      .leaf "next_article" "article" "Next article",
      .leaf "previous_article" "article" "Previous article",
      .leaf "tags" "array<string>" "Currently filtered tags",
      .leaf "template_suffix" "string" "Template suffix",
      .leaf "title" "string" "Blog title",
      .leaf "url" "string" "Blog URL"] },
  { name := "blogs"
    typeName := "Blogs"
    description := "All blogs in the store." },
  { name := "brand"
    typeName := "Brand"
    description := "Brand assets for the store."
    properties := [
      .leaf "colors" "brand_color" "Brand colors",
      .leaf "cover_image" "image" "Cover image",
      .leaf "favicon_url" "image" "Favicon URL",
      .leaf "logo" "image" "Brand logo",
      .leaf "metafields" "metafields" "Associated metafields",
      .leaf "short_description" "string" "Brand description",
      .leaf "slogan" "string" "Brand slogan",
      .leaf "square_logo" "image" "Square logo"] },
  { name := "brand_color"
    typeName := "BrandColor"
    description := "Colors defined as part of store's brand assets."
    properties := [
      .leaf "alpha" "number" "Alpha transparency",
      .leaf "blue" "number" "Blue value",
      .leaf "chroma" "number" "Chroma value",
      .leaf "color_space" "string" "Color space",
      .leaf "green" "number" "Green value",
      .leaf "hue" "number" "Hue value",
      .leaf "lightness" "number" "Lightness value",
      .leaf "oklch" "string" "OKLCH color string",
      .leaf "oklcha" "string" "OKLCHA color string",
      .leaf "red" "number" "Red value",
      .leaf "rgb" "string" "RGB color string",
      .leaf "rgba" "string" "RGBA color string",
      .leaf "saturation" "number" "Saturation value"] }]

end LiquidHover.Catalog.Shopify
