/-
**Tags of the Shopify dialect,** by category.
-/
import LiquidHover.Catalog.Entry

namespace LiquidHover.Catalog.Shopify

/-- The conditional tags. -/
def conditionalTags : List Tag := [
  { name := "if"
    category := .conditional
    description := "Renders an expression if a specific condition is true"
    usage := some "\x7b% if condition %\x7d ... \x7b% endif %\x7d"
    form := .block "endif"
    examples := [
      "\x7b% if product.available %\x7d\n  <p>In Stock</p>\n\x7b% endif %\x7d",
      "\x7b% if product.compare_at_price > product.price %\x7d\n  <span class=\"sale\">On Sale!</span>\n\x7b% endif %\x7d"] },
  { name := "elsif"
    category := .conditional
    description := "Checks for additional conditions in an if statement"
    usage := some "\x7b% elsif condition %\x7d"
    form := .intermediate
    examples := [
      "\x7b% if product.type == 'Love' %\x7d\n  <p>Love potion!</p>\n\x7b% elsif product.type == 'Health' %\x7d\n  <p>Health potion!</p>\n\x7b% endif %\x7d"] },
  { name := "else"
    category := .conditional
    description := "Specifies a default expression when no other condition is met"
    usage := some "\x7b% else %\x7d"
    form := .intermediate
    examples := [
      "\x7b% if product.available %\x7d\n  <p>In Stock</p>\n\x7b% else %\x7d\n  <p>Sold Out</p>\n\x7b% endif %\x7d"] },
  { name := "unless"
    category := .conditional
    description := "Renders an expression unless a specific condition is true"
    usage := some "\x7b% unless condition %\x7d ... \x7b% endunless %\x7d"
    form := .block "endunless"
    examples := [
      "\x7b% unless product.available %\x7d\n  <p>Sorry, this product is sold out</p>\n\x7b% endunless %\x7d"] },
  { name := "case"
    category := .conditional
    description := "Renders a specific expression depending on the value of a variable"
    usage := some "\x7b% case variable %\x7d ... \x7b% endcase %\x7d"
    form := .block "endcase"
    examples := [
      "\x7b% case product.type %\x7d\n  \x7b% when 'Health' %\x7d\n    <p>Restore your HP!</p>\n  \x7b% when 'Love' %\x7d\n    <p>Find your true love!</p>\n  \x7b% else %\x7d\n    <p>Magic item</p>\n\x7b% endcase %\x7d"] },
  { name := "when"
    category := .conditional
    description := "Defines a condition within a case statement"
    usage := some "\x7b% when value %\x7d"
    form := .intermediate
    examples := [
      "\x7b% case product.type %\x7d\n  \x7b% when 'shirt', 'hoodie' %\x7d\n    <p>Clothing item</p>\n  \x7b% when 'book' %\x7d\n    <p>Reading material</p>\n\x7b% endcase %\x7d"] }]

/-- The HTML tags. -/
def htmlTags : List Tag := [
  { name := "form"
    category := .html
    description := "Generates an HTML form tag with Shopify-specific attributes"
    usage := some "\x7b% form 'form_type' %\x7d ... \x7b% endform %\x7d"
    form := .block "endform"
    parameters := [
      { name := "form_type"
        typeName := "string"
        description := "Type of form to generate"
        required := true },
      { name := "return_to"
        typeName := "string"
        description := "URL to redirect after form submission" }]
    examples := [
      "\x7b% form 'product', product %\x7d\n  <!-- Add to cart form -->\n  <button type=\"submit\">Add to Cart</button>\n\x7b% endform %\x7d",
      "\x7b% form 'contact' %\x7d\n  <input type=\"email\" name=\"contact[email]\" placeholder=\"Email\">\n  <textarea name=\"contact[body]\" placeholder=\"Message\"></textarea>\n  <button type=\"submit\">Send</button>\n\x7b% endform %\x7d"] },
  { name := "style"
    category := .html
    description := "Generates an HTML style tag with data-shopify attribute"
    usage := some "\x7b% style %\x7d ... \x7b% endstyle %\x7d"
    form := .block "endstyle"
    examples := [
      "\x7b% style %\x7d\n  .custom-class \x7b\n    color: \x7b\x7b settings.accent_color \x7d\x7d;\n    font-size: 16px;\n  \x7d\n\x7b% endstyle %\x7d"] }]

/-- The iteration tags. -/
def iterationTags : List Tag := [
  { name := "for"
    category := .iteration
    description := "Renders an expression for every item in an array"
    usage := some "\x7b% for variable in array %\x7d ... \x7b% endfor %\x7d"
    form := .block "endfor"
    parameters := [
      { name := "limit", typeName := "number", description := "Limit the number of iterations" },
      { name := "offset"
        typeName := "number"
        description := "Start iteration at a specific index" },
      { name := "reversed", typeName := "boolean", description := "Iterate in reverse order" }]
    examples := [
      "\x7b% for product in collection.products %\x7d\n  <h3>\x7b\x7b product.title \x7d\x7d</h3>\n  <p>$\x7b\x7b product.price | money \x7d\x7d</p>\n\x7b% endfor %\x7d",
      "\x7b% for product in collection.products limit: 4 %\x7d\n  <div class=\"product-card\">\n    \x7b\x7b product.title \x7d\x7d\n  </div>\n\x7b% endfor %\x7d"] },
  { name := "break"
    category := .iteration
    description := "Stops a for loop from iterating"
    usage := some "\x7b% break %\x7d"
    form := .selfClosing
    examples := [
      "\x7b% for product in collection.products %\x7d\n  \x7b% if product.price > 100 %\x7d\n    \x7b% break %\x7d\n  \x7b% endif %\x7d\n  \x7b\x7b product.title \x7d\x7d\n\x7b% endfor %\x7d"] },
  { name := "continue"
    category := .iteration
    description := "Causes a for loop to skip to the next iteration"
    usage := some "\x7b% continue %\x7d"
    form := .selfClosing
    examples := [
      "\x7b% for product in collection.products %\x7d\n  \x7b% if product.available == false %\x7d\n    \x7b% continue %\x7d\n  \x7b% endif %\x7d\n  \x7b\x7b product.title \x7d\x7d\n\x7b% endfor %\x7d"] },
  { name := "cycle"
    category := .iteration
    description := "Loops through a group of strings and outputs them one at a time"
    usage := some "\x7b% cycle 'group': 'string1', 'string2' %\x7d"
    form := .selfClosing
    examples := [
      "\x7b% for product in collection.products %\x7d\n  <div class=\"\x7b% cycle 'odd', 'even' %\x7d\">\n    \x7b\x7b product.title \x7d\x7d\n  </div>\n\x7b% endfor %\x7d"] },
  { name := "tablerow"
    category := .iteration
    description := "Generates HTML table rows for every item in an array"
    usage := some "\x7b% tablerow variable in array %\x7d ... \x7b% endtablerow %\x7d"
    form := .block "endtablerow"
    parameters := [
      { name := "cols", typeName := "number", description := "Number of columns in the table" },
      { name := "limit", typeName := "number", description := "Limit the number of iterations" },
      { name := "offset"
        typeName := "number"
        description := "Start iteration at a specific index" }]
    examples := [
      "<table>\n  \x7b% tablerow product in collection.products cols: 3 %\x7d\n    <td>\x7b\x7b product.title \x7d\x7d</td>\n  \x7b% endtablerow %\x7d\n</table>"] },
  { name := "paginate"
    category := .iteration
    description := "Splits an array's items across multiple pages"
    usage := some "\x7b% paginate array by page_size %\x7d ... \x7b% endpaginate %\x7d"
    form := .block "endpaginate"
    parameters := [
      { name := "by"
        typeName := "number"
        description := "Number of items per page (1-250)"
        required := true },
      { name := "window_size"
        typeName := "number"
        description := "Number of pages visible in navigation" }]
    examples := [
      "\x7b% paginate collection.products by 12 %\x7d\n  \x7b% for product in collection.products %\x7d\n    \x7b\x7b product.title \x7d\x7d\n  \x7b% endfor %\x7d\n  \x7b\x7b paginate | default_pagination \x7d\x7d\n\x7b% endpaginate %\x7d"] }]

/-- The syntax tags. -/
def syntacticTags : List Tag := [
  { name := "comment"
    category := .syntactic
    description := "Prevents an expression from being rendered or output"
    usage := some "\x7b% comment %\x7d ... \x7b% endcomment %\x7d"
    form := .block "endcomment"
    examples := [
      "\x7b% comment %\x7d\n  This is a comment that won't be rendered\n  \x7b\x7b product.title \x7d\x7d\n\x7b% endcomment %\x7d"] },
  { name := "doc"
    category := .syntactic
    description := "Documents template elements with annotations"
    usage := some "\x7b% doc %\x7d ... \x7b% enddoc %\x7d"
    form := .block "enddoc"
    examples := [
      "\x7b% doc %\x7d\n  @param product \x7bProduct\x7d The product object\n  @returns \x7bString\x7d Product title with price\n\x7b% enddoc %\x7d"] },
  { name := "echo"
    category := .syntactic
    description := "Outputs an expression (same as \x7b\x7b \x7d\x7d)"
    usage := some "\x7b% echo expression %\x7d"
    form := .selfClosing
    examples := [
      "\x7b% liquid\n  assign message = 'Hello World'\n  echo message\n%\x7d"] },
  { name := "liquid"
    category := .syntactic
    description := "Allows a block of Liquid without delimiters on each tag"
    usage := some "\x7b% liquid %\x7d ... \x7b% endliquid %\x7d"
    form := .block "endliquid"
    examples := [
      "\x7b% liquid\n  assign product_title = product.title | upcase\n  if product.available\n    echo product_title\n  else\n    echo 'Sold Out'\n  endif\n%\x7d"] },
  { name := "raw"
    category := .syntactic
    description := "Outputs Liquid code as text instead of rendering it"
    usage := some "\x7b% raw %\x7d ... \x7b% endraw %\x7d"
    form := .block "endraw"
    examples := [
      "\x7b% raw %\x7d\n  This will output: \x7b\x7b product.title \x7d\x7d\n  Without rendering the variable\n\x7b% endraw %\x7d"] }]

/-- The theme tags. -/
def themeTags : List Tag := [
  { name := "content_for"
    category := .theme
    description := "Creates a designated area where blocks can be rendered"
    usage := some "\x7b% content_for 'type' %\x7d"
    form := .selfClosing
    parameters := [
      { name := "type"
        typeName := "string"
        description := "'blocks' or 'block'"
        required := true },
      { name := "id", typeName := "string", description := "Block ID (for static blocks)" }]
    examples := [
      "\x7b% content_for 'blocks' %\x7d",
      "\x7b% content_for 'block', type: 'slide', id: 'hero-slide-1' %\x7d"] },
  { name := "include"
    category := .theme
    description := "Renders a snippet (deprecated - use render instead)"
    usage := some "\x7b% include 'snippet-name' %\x7d"
    form := .selfClosing
    examples := [
      "\x7b% include 'product-card' %\x7d",
      "\x7b% include 'product-card', product: collections.featured.products.first %\x7d"]
    deprecated := true },
  { name := "javascript"
    category := .theme
    description := "JavaScript code included in section, block and snippet files"
    usage := some "\x7b% javascript %\x7d ... \x7b% endjavascript %\x7d"
    form := .block "endjavascript"
    examples := [
      "\x7b% javascript %\x7d\n  console.log('Hello from Shopify');\n  document.addEventListener('DOMContentLoaded', function() \x7b\n    // Your JavaScript code\n  \x7d);\n\x7b% endjavascript %\x7d"] },
  { name := "layout"
    category := .theme
    description := "Specify which layout to use"
    usage := some "\x7b% layout 'layout-name' %\x7d"
    form := .selfClosing
    examples := [
      "\x7b% layout 'full-width' %\x7d",
      "\x7b% layout none %\x7d"] },
  { name := "render"
    category := .theme
    description := "Renders a snippet or app block"
    usage := some "\x7b% render 'snippet-name' %\x7d"
    form := .selfClosing
    parameters := [
      { name := "with", typeName := "object", description := "Pass an object to the snippet" },
      { name := "as", typeName := "string", description := "Alias for the passed object" },
      { name := "for"
        typeName := "array"
        description := "Render snippet for each item in array" }]
    examples := [
      "\x7b% render 'product-card' %\x7d",
      "\x7b% render 'product-card', product: collections.featured.products.first %\x7d",
      "\x7b% render 'product-card' with collections.featured.products.first as product %\x7d",
      "\x7b% render 'product-card' for collection.products %\x7d"] },
  { name := "section"
    category := .theme
    description := "Renders a section statically"
    usage := some "\x7b% section 'section-name' %\x7d"
    form := .selfClosing
    examples := [
      "\x7b% section 'header' %\x7d",
      "\x7b% section 'featured-collection' %\x7d"] },
  { name := "sections"
    category := .theme
    description := "Renders a section group"
    usage := some "\x7b% sections 'group-name' %\x7d"
    form := .selfClosing
    examples := [
      "\x7b% sections 'header-group' %\x7d",
      "\x7b% sections 'footer-group' %\x7d"] },
  { name := "stylesheet"
    category := .theme
    description := "CSS styles included in section, block, and snippet files"
    usage := some "\x7b% stylesheet %\x7d ... \x7b% endstylesheet %\x7d"
    form := .block "endstylesheet"
    examples := [
      "\x7b% stylesheet %\x7d\n  .custom-section \x7b\n    background: \x7b\x7b section.settings.bg_color \x7d\x7d;\n    padding: 2rem;\n  \x7d\n\x7b% endstylesheet %\x7d"] }]

/-- The variable tags. -/
def variableTags : List Tag := [
  { name := "assign"
    category := .variables
    description := "Creates a new variable"
    usage := some "\x7b% assign variable_name = value %\x7d"
    form := .selfClosing
    examples := [
      "\x7b% assign product_title = product.title | upcase %\x7d",
      "\x7b% assign sale_price = product.price | times: 0.8 %\x7d",
      "\x7b% assign featured_products = collections.featured.products | limit: 4 %\x7d"] },
  { name := "capture"
    category := .variables
    description := "Creates a new variable with a string value"
    usage := some "\x7b% capture variable %\x7d ... \x7b% endcapture %\x7d"
    form := .block "endcapture"
    examples := [
      "\x7b% capture product_summary %\x7d\n  \x7b\x7b product.title \x7d\x7d - $\x7b\x7b product.price | money \x7d\x7d\n  \x7b% if product.available %\x7dIn Stock\x7b% else %\x7dSold Out\x7b% endif %\x7d\n\x7b% endcapture %\x7d"] },
  { name := "decrement"
    category := .variables
    description := "Creates a variable that decreases by 1 with each call (starts at -1)"
    usage := some "\x7b% decrement variable_name %\x7d"
    form := .selfClosing
    examples := [
      "\x7b% for product in collection.products %\x7d\n  Item \x7b% decrement counter %\x7d: \x7b\x7b product.title \x7d\x7d\n\x7b% endfor %\x7d"] },
  { name := "increment"
    category := .variables
    description := "Creates a variable that increases by 1 with each call (starts at 0)"
    usage := some "\x7b% increment variable_name %\x7d"
    form := .selfClosing
    examples := [
      "\x7b% for product in collection.products %\x7d\n  Item \x7b% increment counter %\x7d: \x7b\x7b product.title \x7d\x7d\n\x7b% endfor %\x7d"] }]

/-- All tags, sorted by category. -/
def tags : List Tag :=
  conditionalTags ++ htmlTags ++ iterationTags ++ syntacticTags ++ themeTags ++ variableTags

end LiquidHover.Catalog.Shopify
