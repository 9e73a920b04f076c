/-
**Settings.** What a hover shows. Without any configuration everything is shown, a property table has
at most 25 rows, and the extra log lines of `debug` are off.
-/

namespace LiquidHover

/-- What a hover shows. -/
structure Settings where
  /-- Whether there are hovers at all. -/
  enabled : Bool := true
  enableFilterHover : Bool := true
  enableTagHover : Bool := true
  showTypes : Bool := true
  showDescription : Bool := true
  showDeprecatedWarnings : Bool := true
  /-- Whether filters and tags show the table of their parameters. -/
  showFilterParameters : Bool := true
  showFilterExamples : Bool := true
  showTagExamples : Bool := true
  /-- The most rows of a property table. -/
  maxProperties : Nat := 25
  debug : Bool := false
  deriving DecidableEq, Repr

instance : Inhabited Settings := ⟨{}⟩

end LiquidHover
