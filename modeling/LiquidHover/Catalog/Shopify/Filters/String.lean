/-
**Filters of the category string.**
-/
import LiquidHover.Catalog.Entry

namespace LiquidHover.Catalog.Shopify

/-- The string filters, 40 of them. -/
def stringFilters : List Filter := [
  { name := "append"
    category := .string
    description := "Adds a given string to the end of a string"
    usage := some "string | append: suffix"
    returnType := "string"
    parameters := [
      { name := "suffix", typeName := "string", description := "String to append" }]
    examples := [
      "\x7b\x7b request.origin | append: product.url \x7d\x7d"] },
  { name := "base64_decode"
    category := .string
    description := "Decodes a string in Base64 format"
    usage := some "string | base64_decode"
    returnType := "string"
    examples := [
      "\x7b\x7b 'b25lIHR3byB0aHJlZQ==' | base64_decode \x7d\x7d"] },
  { name := "base64_encode"
    category := .string
    description := "Encodes a string to Base64 format"
    usage := some "string | base64_encode"
    returnType := "string"
    examples := [
      "\x7b\x7b 'one two three' | base64_encode \x7d\x7d"] },
  { name := "base64_url_safe_decode"
    category := .string
    description := "Decodes a string in URL-safe Base64 format"
    usage := some "string | base64_url_safe_decode"
    returnType := "string" },
  { name := "base64_url_safe_encode"
    category := .string
    description := "Encodes a string to URL-safe Base64 format"
    usage := some "string | base64_url_safe_encode"
    returnType := "string" },
  { name := "camelize"
    category := .string
    description := "Converts a string to CamelCase"
    usage := some "string | camelize"
    returnType := "string" },
  { name := "capitalize"
    category := .string
    description := "Capitalizes the first word in a string and downcases the remaining characters"
    usage := some "string | capitalize"
    returnType := "string" },
  { name := "downcase"
    category := .string
    description := "Converts a string to all lowercase characters"
    usage := some "string | downcase"
    returnType := "string" },
  { name := "escape"
    category := .string
    description := "Escapes special characters in HTML"
    usage := some "string | escape"
    returnType := "string" },
  { name := "escape_once"
    category := .string
    description := "Escapes a string without changing characters that have already been escaped"
    usage := some "string | escape_once"
    returnType := "string" },
  { name := "handleize"
    category := .string
    description := "Converts a string into a handle"
    usage := some "string | handleize"
    returnType := "string" },
  { name := "handle"
    category := .string
    description := "Alias for handleize filter. Converts a string into a handle"
    usage := some "string | handle"
    returnType := "string" },
  { name := "hmac_sha1"
    category := .string
    description := "Converts a string into an SHA-1 hash using HMAC"
    usage := some "string | hmac_sha1: secret_key"
    returnType := "string"
    parameters := [
      { name := "secret_key", typeName := "string", description := "Secret key for HMAC" }] },
  { name := "hmac_sha256"
    category := .string
    description := "Converts a string into an SHA-256 hash using HMAC"
    usage := some "string | hmac_sha256: secret_key"
    returnType := "string"
    parameters := [
      { name := "secret_key", typeName := "string", description := "Secret key for HMAC" }] },
  { name := "lstrip"
    category := .string
    description := "Strips all whitespace from the left of a string"
    usage := some "string | lstrip"
    returnType := "string" },
  { name := "md5"
    category := .string
    description := "Converts a string into an MD5 hash"
    usage := some "string | md5"
    returnType := "string" },
  { name := "newline_to_br"
    category := .string
    description := "Converts newlines (\\n) in a string to HTML line breaks (<br>)"
    usage := some "string | newline_to_br"
    returnType := "string" },
  { name := "pluralize"
    category := .string
    description := "Outputs the singular or plural version of a string based on a given number"
    usage := some "number | pluralize: singular, plural"
    returnType := "string"
    parameters := [
      { name := "singular", typeName := "string", description := "Singular form" },
      { name := "plural", typeName := "string", description := "Plural form" }] },
  { name := "prepend"
    category := .string
    description := "Adds a given string to the beginning of a string"
    usage := some "string | prepend: prefix"
    returnType := "string"
    parameters := [
      { name := "prefix", typeName := "string", description := "String to prepend" }] },
  { name := "remove"
    category := .string
    description := "Removes any instance of a substring inside a string"
    usage := some "string | remove: substring"
    returnType := "string"
    parameters := [
      { name := "substring", typeName := "string", description := "Substring to remove" }] },
  { name := "remove_first"
    category := .string
    description := "Removes the first instance of a substring inside a string"
    usage := some "string | remove_first: substring"
    returnType := "string"
    parameters := [
      { name := "substring", typeName := "string", description := "Substring to remove" }] },
  { name := "remove_last"
    category := .string
    description := "Removes the last instance of a substring inside a string"
    usage := some "string | remove_last: substring"
    returnType := "string"
    parameters := [
      { name := "substring", typeName := "string", description := "Substring to remove" }] },
  { name := "replace"
    category := .string
    description := "Replaces any instance of a substring inside a string with a given string"
    usage := some "string | replace: search, replacement"
    returnType := "string"
    parameters := [
      { name := "search", typeName := "string", description := "String to search for" },
      { name := "replacement", typeName := "string", description := "Replacement string" }] },
  { name := "replace_first"
    category := .string
    description := "Replaces the first instance of a substring inside a string with a given string"
    usage := some "string | replace_first: search, replacement"
    returnType := "string"
    parameters := [
      { name := "search", typeName := "string", description := "String to search for" },
      { name := "replacement", typeName := "string", description := "Replacement string" }] },
  { name := "replace_last"
    category := .string
    description := "Replaces the last instance of a substring inside a string with a given string"
    usage := some "string | replace_last: search, replacement"
    returnType := "string"
    parameters := [
      { name := "search", typeName := "string", description := "String to search for" },
      { name := "replacement", typeName := "string", description := "Replacement string" }] },
  { name := "rstrip"
    category := .string
    description := "Strips all whitespace from the right of a string"
    usage := some "string | rstrip"
    returnType := "string" },
  { name := "sha1"
    category := .string
    description := "Converts a string into an SHA-1 hash"
    usage := some "string | sha1"
    returnType := "string" },
  { name := "sha256"
    category := .string
    description := "Converts a string into an SHA-256 hash"
    usage := some "string | sha256"
    returnType := "string" },
  { name := "slice"
    category := .string
    description := "Returns a substring or series of array items, starting at a given 0-based index"
    usage := some "string | slice: start, length"
    returnType := "string"
    parameters := [
      { name := "start", typeName := "number", description := "Starting index (0-based)" },
      { name := "length"
        typeName := "number"
        description := "Number of characters (default: 1)" }] },
  { name := "split"
    category := .string
    description := "Splits a string into an array of substrings based on a given separator"
    usage := some "string | split: separator"
    returnType := "array<string>"
    parameters := [
      { name := "separator", typeName := "string", description := "String separator" }] },
  { name := "strip"
    category := .string
    description := "Strips all whitespace from the left and right of a string"
    usage := some "string | strip"
    returnType := "string" },
  { name := "strip_html"
    category := .string
    description := "Strips all HTML tags from a string"
    usage := some "string | strip_html"
    returnType := "string" },
  { name := "strip_newlines"
    category := .string
    description := "Strips all newline characters (line breaks) from a string"
    usage := some "string | strip_newlines"
    returnType := "string" },
  { name := "truncate"
    category := .string
    description := "Truncates a string down to a given number of characters"
    usage := some "string | truncate: length, ellipsis"
    returnType := "string"
    parameters := [
      { name := "length", typeName := "number", description := "Maximum number of characters" },
      { name := "ellipsis"
        typeName := "string"
        description := "Custom ellipsis"
        default? := some "..." }] },
  { name := "truncatewords"
    category := .string
    description := "Truncates a string down to a given number of words"
    usage := some "string | truncatewords: words, ellipsis"
    returnType := "string"
    parameters := [
      { name := "words", typeName := "number", description := "Maximum number of words" },
      { name := "ellipsis"
        typeName := "string"
        description := "Custom ellipsis"
        default? := some "..." }] },
  { name := "upcase"
    category := .string
    description := "Converts a string to all uppercase characters"
    usage := some "string | upcase"
    returnType := "string" },
  { name := "url_decode"
    category := .string
    description := "Decodes any percent-encoded characters in a string"
    usage := some "string | url_decode"
    returnType := "string" },
  { name := "url_encode"
    category := .string
    description := "Converts any URL-unsafe characters in a string to the percent-encoded equivalent"
    usage := some "string | url_encode"
    returnType := "string" },
  { name := "url_escape"
    category := .string
    description := "Escapes any URL-unsafe characters in a string"
    usage := some "string | url_escape"
    returnType := "string" },
  { name := "url_param_escape"
    category := .string
    description := "Escapes any characters in a string that are unsafe for URL parameters"
    usage := some "string | url_param_escape"
    returnType := "string" }]

end LiquidHover.Catalog.Shopify
