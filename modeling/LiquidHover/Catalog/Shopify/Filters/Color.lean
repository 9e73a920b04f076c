/-
**Filters of the category color.**
-/
import LiquidHover.Catalog.Entry

namespace LiquidHover.Catalog.Shopify

/-- The color filters, 16 of them. -/
def colorFilters : List Filter := [
  { name := "brightness_difference"
    category := .color
    description := "Calculates the perceived brightness difference between two colors"
    usage := some "string | brightness_difference: color"
    returnType := "number"
    parameters := [
      { name := "color", typeName := "string", description := "Second color to compare" }]
    examples := [
      "\x7b\x7b '#E800B0' | brightness_difference: '#FECEE9' \x7d\x7d"] },
  { name := "color_brightness"
    category := .color
    description := "Calculates the perceived brightness of a given color"
    usage := some "string | color_brightness"
    returnType := "number"
    examples := [
      "\x7b\x7b '#EA5AB9' | color_brightness \x7d\x7d"] },
  { name := "color_contrast"
    category := .color
    description := "Calculates the contrast ratio between two colors and returns the ratio's numerator"
    usage := some "string | color_contrast: color"
    returnType := "number"
    parameters := [
      { name := "color", typeName := "string", description := "Second color to compare" }] },
  { name := "color_darken"
    category := .color
    description := "Darkens a given color by a specific percentage"
    usage := some "string | color_darken: percentage"
    returnType := "string"
    parameters := [
      { name := "percentage", typeName := "number", description := "Percentage to darken (0-100)" }] },
  { name := "color_desaturate"
    category := .color
    description := "Desaturates a given color by a specific percentage"
    usage := some "string | color_desaturate: percentage"
    returnType := "string"
    parameters := [
      { name := "percentage"
        typeName := "number"
        description := "Percentage to desaturate (0-100)" }] },
  { name := "color_difference"
    category := .color
    description := "Calculates the color difference between two colors"
    usage := some "string | color_difference: color"
    returnType := "number"
    parameters := [
      { name := "color", typeName := "string", description := "Second color to compare" }] },
  { name := "color_extract"
    category := .color
    description := "Extracts a specific color component from a given color"
    usage := some "string | color_extract: component"
    returnType := "number"
    parameters := [
      { name := "component"
        typeName := "string"
        description := "Color component"
        values := ["alpha", "red", "green", "blue", "hue", "saturation", "lightness"] }] },
  { name := "color_lighten"
    category := .color
    description := "Lightens a given color by a specific percentage"
    usage := some "string | color_lighten: percentage"
    returnType := "string"
    parameters := [
      { name := "percentage"
        typeName := "number"
        description := "Percentage to lighten (0-100)" }] },
  { name := "color_mix"
    category := .color
    description := "Blends two colors together by a specific percentage factor"
    usage := some "string | color_mix: color, percentage"
    returnType := "string"
    parameters := [
      { name := "color", typeName := "string", description := "Color to mix with" },
      { name := "percentage", typeName := "number", description := "Blend percentage (0-100)" }] },
  { name := "color_modify"
    category := .color
    description := "Modifies a specific color component of a given color by a specific amount"
    usage := some "string | color_modify: component, value"
    returnType := "string"
    parameters := [
      { name := "component"
        typeName := "string"
        description := "Color component"
        values := ["red", "green", "blue", "alpha", "hue", "saturation", "lightness"] },
      { name := "value", typeName := "number", description := "Modification value" }] },
  { name := "color_saturate"
    category := .color
    description := "Saturates a given color by a specific percentage"
    usage := some "string | color_saturate: percentage"
    returnType := "string"
    parameters := [
      { name := "percentage"
        typeName := "number"
        description := "Percentage to saturate (0-100)" }] },
  { name := "color_to_hex"
    category := .color
    description := "Converts a CSS color string to hexadecimal format (hex6)"
    usage := some "string | color_to_hex"
    returnType := "string" },
  { name := "color_to_hsl"
    category := .color
    description := "Converts a CSS color string to HSL format"
    usage := some "string | color_to_hsl"
    returnType := "string" },
  { name := "color_to_oklch"
    category := .color
    description := "Converts a CSS color string to OKLCH format"
    usage := some "string | color_to_oklch"
    returnType := "string" },
  { name := "color_to_rgb"
    category := .color
    description := "Converts a CSS color string to RGB format"
    usage := some "string | color_to_rgb"
    returnType := "string" },
  { name := "hex_to_rgba"
    category := .color
    description := "Converts a CSS color string from hexadecimal format to RGBA format"
    usage := some "string | hex_to_rgba: alpha"
    returnType := "string"
    parameters := [
      { name := "alpha"
        typeName := "number"
        description := "Alpha value (0.0-1.0)"
        default? := some "1.0" }]
    deprecated := true }]

end LiquidHover.Catalog.Shopify
