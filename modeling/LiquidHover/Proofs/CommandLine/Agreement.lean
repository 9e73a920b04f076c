/-
**The command and the server agree.** The command reads a file and looks for the hover at one of its characters. A
session that has the same text open, under the same settings and with characters for columns, looks for the same
hover. The command counts lines from one, the session from zero.

* `panelAt?` — the panel for a character of a text, which both look for.
* `toOption_hoverIn`, `Session.map_markdown_computed?` — each of them finds this panel.
* `report_succeeds_iff`, `report_fails_iff` — what the exit code and the output tell about the outcome.
* `Session.AskedUnder` — no answer to a question is left over from another encoding.
  `Session.value_hover_of_askedUnder`: such a question is answered as if there were no cache.
* `hover_command_agrees` — the command prints a panel if and only if the session answers with it, and fails if and
  only if the session gives no answer.
-/
import LiquidHover.CommandLine.Commands
import LiquidHover.Proofs.Session.Renegotiation
import LiquidHover.Proofs.Settings.Precedence

namespace LiquidHover

/-! ### The panel for a character -/

/-- The panel for a character of a text. Lines and characters are counted from zero. -/
def panelAt? (settings : Settings) (text : List Char) (number column : Nat) : Option String := do
  let line ← (LineIndex.ofText text).lineAt? text number
  let offset ← Encoding.utf32.offsetOf? line column
  let hover ← Hover.at? Catalog.shopify settings line offset
  return hover.markdown

/-- **A session finds this panel** in an open document, when its columns are characters. -/
theorem Session.map_markdown_computed? {session : Session} {uri : String} {document : Document}
    (opened : session.documents.get? uri = some document) (indexed : document.Indexed)
    (characters : session.encoding = .utf32) (number column : Nat) :
    (session.computed? uri ⟨number, column⟩).map (·.markdown) =
      panelAt? session.settings document.text.toList number column := by
  have line : document.line? number = (LineIndex.ofText document.text.toList).lineAt? document.text.toList number := by
    rw [Document.line?, indexed]
  simp only [computed?, locate?, panelAt?, opened, characters, line, Option.bind_eq_bind,
    Option.bind_some, Option.pure_def, Option.bind_assoc, Option.map_bind, Function.comp_def,
    Option.map_some]
  rfl

namespace CommandLine

/-- **The command finds this panel**, one line further down. -/
theorem toOption_hoverIn (settings : Settings) (text : List Char) (location : String)
    (number column : Nat) :
    ((hoverIn settings text location (number + 1) column).map (·.markdown)).toOption =
      panelAt? settings text number column := by
  simp only [hoverIn, panelAt?, Nat.add_sub_cancel]
  cases (LineIndex.ofText text).lineAt? text number with
  | none => rfl
  | some line =>
    cases located : Encoding.utf32.offsetOf? line column with
    | none => simp [located]; rfl
    | some offset =>
      cases found : Hover.at? Catalog.shopify settings line offset with
      | none => simp [located, found]; rfl
      | some hover => simp [located, found]; rfl

/-- Once settings and text are there, the command looks for the hover. -/
theorem hoverCommand_eq {disk : Disk} {directory file : String} {sent : Option String}
    {overrides : Option Json} {settings : Settings} {text : List Char}
    (located : disk.workingDirectory = .ok directory)
    (understood : sent.mapM Settings.parseOverrides = .ok overrides)
    (loaded : Settings.load disk directory overrides = .ok settings)
    (read : readText disk (Files.joinPath directory file) = .ok text) (line column : Nat) :
    hoverCommand disk file line column sent =
      hoverIn settings text (file ++ ":" ++ toString line ++ ":" ++ toString column) line column := by
  cases sent with
  | none =>
    obtain rfl : none = overrides := Except.ok.inj understood
    simp only [hoverCommand, Except.mapError, bind, Except.bind, located, loaded, read]
  | some json =>
    cases parsed : Settings.parseOverrides json with
    | error failure =>
      rw [Option.mapM_some, parsed] at understood
      cases understood
    | ok value =>
      rw [Option.mapM_some, parsed] at understood
      obtain rfl : some value = overrides := Except.ok.inj understood
      simp only [hoverCommand, Except.map, Except.mapError, bind, Except.bind, located, parsed, loaded, read]

/-! ### Reports -/

section Reports

variable {flags : Flags} {notes : String} {outcome : Except Failure String}

/-- **A command succeeds with what it prints.** -/
theorem report_succeeds_iff (loud : flags.quiet = false) {text : String} :
    (report flags notes outcome).code = 0 ∧ (report flags notes outcome).stdout = text ++ "\n" ↔
      outcome.toOption = some text := by
  cases outcome with
  | ok printed => simp [report, loud, Except.toOption]
  | error failure => simp [report, Except.toOption]

theorem report_fails_iff : (report flags notes outcome).code = 1 ↔ outcome.toOption = none := by
  cases outcome with
  | ok printed => simp [report, Except.toOption]
  | error failure => simp [report, Except.toOption]

end Reports

end CommandLine

/-! ### Questions under one encoding -/

namespace Session

/-- No answer to a question is left over from another encoding: whenever it was asked, this encoding was in
force, or the answer was dropped since. -/
def AskedUnder (encoding : Encoding) (actions : List Action) (uri : String) (position : Position) : Prop :=
  ∀ before disk since, actions = before ++ .message disk (.hovered uri position) :: since →
    (perform {} before).encoding = encoding ∨ ∃ action ∈ since, action.drops uri = true

variable {actions : List Action} {uri : String} {position : Position}

/-- An encoding that is in force from before the first question on. -/
theorem askedUnder_of_settled {earlier later : List Action} {change : Action} {encoding : Encoding}
    (silent : ∀ disk, .message disk (.hovered uri position) ∉ earlier)
    (changed : change.encoding? = some encoding)
    (settled : ∀ action ∈ later, action.encoding? = none) :
    AskedUnder encoding (earlier ++ change :: later) uri position := by
  intro before disk since whole
  have different : change ≠ .message disk (.hovered uri position) := by
    rintro rfl
    cases changed
  rcases cuts_of_append_eq different whole with ⟨between, rfl, rfl⟩ | ⟨between, rfl, -⟩
  · refine Or.inl (encoding_perform_change {} earlier changed fun action among => ?_)
    exact settled action (List.mem_append_left _ among)
  · exact absurd (List.mem_append_right _ List.mem_cons_self) (silent disk)

/-- **Such a question is answered as if there were no cache.** -/
theorem value_hover_of_askedUnder
    (asked : AskedUnder (perform {} actions).encoding actions uri position) :
    ((perform {} actions).hover uri position).value = (perform {} actions).computed? uri position := by
  rcases value_hover (perform {} actions) uri position with
    ⟨entry, member, rfl, rfl, kept⟩ | computed
  · -- The entry was computed under the encoding that is in force, or it would have been dropped.
    obtain ⟨before, ⟨disk, since, whole, undropped⟩, accurate⟩ := recalls_of_mem_entries member
    rcases asked before disk since whole with same | ⟨action, among, dropped⟩
    · rw [same] at accurate
      exact kept.trans accurate.computed.symm
    · exact absurd (dropped.symm.trans (undropped action among)) Bool.noConfusion
  · exact computed

end Session

/-! ### Agreement -/

open CommandLine in
/-- **The command and the server agree.** Let the command read a file that a session has open, and load the settings
that the session has. If the session counts columns in characters, at each place the command prints a panel and
succeeds if and only if the session answers with this panel, and it fails if and only if the session gives no
answer. -/
theorem hover_command_agrees {disk : Disk} {directory file : String} {sent : Option String}
    {overrides : Option Json} {flags : Flags} {actions : List Action} {uri : String} {document : Document}
    (located : disk.workingDirectory = .ok directory)
    (understood : sent.mapM Settings.parseOverrides = .ok overrides)
    (loaded : Settings.load disk directory overrides = .ok (Session.perform {} actions).settings)
    (read : readText disk (Files.joinPath directory file) = .ok document.text.toList)
    (loud : flags.quiet = false)
    (opened : (Session.perform {} actions).documents.get? uri = some document)
    (characters : (Session.perform {} actions).encoding = .utf32) (number column : Nat)
    (asked : Session.AskedUnder .utf32 actions uri ⟨number, column⟩) :
    let answer := ((Session.perform {} actions).hover uri ⟨number, column⟩).value
    ∃ report, run? disk ⟨.hover file (number + 1) column sent, flags⟩ = some report ∧
      (∀ markdown, report.code = 0 ∧ report.stdout = markdown ++ "\n" ↔
        ∃ hover, answer = some hover ∧ hover.markdown = markdown) ∧
      (report.code = 1 ↔ answer = none) := by
  intro answer
  have panel : answer.map (·.markdown) =
      panelAt? (Session.perform {} actions).settings document.text.toList number column := by
    rw [← Session.map_markdown_computed? opened (Session.indexed_perform actions uri document opened) characters,
      ← Session.value_hover_of_askedUnder (characters ▸ asked)]
  have printed := toOption_hoverIn (Session.perform {} actions).settings document.text.toList
    (file ++ ":" ++ toString (number + 1) ++ ":" ++ toString column) number column
  rw [← hoverCommand_eq located understood loaded read, ← panel] at printed
  refine ⟨_, rfl, fun markdown => ?_, ?_⟩
  · rw [report_succeeds_iff loud, printed, Option.map_eq_some_iff]
  · rw [report_fails_iff, printed, Option.map_eq_none_iff]

/-- The second line of this text ends with a carriage return and has a character of two code units before the
expression. -/
def counterText : String := "<ul>\r\n😀 {{ cart.item_count }}\r\n"

/-- A project with the text and with settings. -/
def counterDisk : Disk := Settings.diskOf
  [("/counter.liquid", counterText), ("/lqls.toml", "show_description = false")]

/-- A conversation about the text: the editor turns types off, counts characters, and has asked before. -/
def counterActions : List Action :=
  [.setRoot (some "/"), .setOverrides (some (.object [("showTypes", .bool false)]))] ++
    .setEncoding .utf32 :: [.reload counterDisk,
      .message counterDisk (.opened "file:///counter.liquid" "liquid" ⟨counterText, 1⟩),
      .message counterDisk (.hovered "file:///counter.liquid" ⟨1, 12⟩)]

/-- The command and the session at a place on the second line that the editor has asked about before, and after
the end of this line. -/
theorem hover_command_agrees_counter :
    let sent := some "\x7b\"showTypes\": false\x7d"
    let session := Session.perform {} counterActions
    let answer (column : Nat) := (session.hover "file:///counter.liquid" ⟨1, column⟩).value
    session.settings = { showTypes := false, showDescription := false } ∧
      session.cache.size = 1 ∧ (answer 12).isSome = true ∧ answer 24 = none ∧
      ∀ column, ∃ report,
        CommandLine.run? counterDisk ⟨.hover "counter.liquid" 2 column sent, {}⟩ = some report ∧
          (∀ markdown, report.code = 0 ∧ report.stdout = markdown ++ "\n" ↔
            ∃ hover, answer column = some hover ∧ hover.markdown = markdown) ∧
          (report.code = 1 ↔ answer column = none) := by
  intro sent session answer
  have understood : sent.mapM Settings.parseOverrides =
      .ok (some (.object [("showTypes", .bool false)])) := by rfl
  have read : CommandLine.readText counterDisk
      (Files.joinPath "/" "counter.liquid") = .ok counterText.toList := by decide +kernel
  obtain ⟨opened, characters, settings, facts⟩ :
      session.documents.get? "file:///counter.liquid" = some (.ofEdition ⟨counterText, 1⟩) ∧
        session.encoding = .utf32 ∧ session.settings = { showTypes := false, showDescription := false } ∧
        session.cache.size = 1 ∧ (answer 12).isSome = true ∧ answer 24 = none := by
    decide +kernel
  have loaded : Settings.load counterDisk "/"
      (some (.object [("showTypes", .bool false)])) = .ok session.settings := by
    rw [settings]
    decide +kernel
  have asked (column : Nat) :
      Session.AskedUnder .utf32 counterActions "file:///counter.liquid" ⟨1, column⟩ := by
    refine Session.askedUnder_of_settled ?_ rfl ?_
    · simp
    · simp [Action.encoding?]
  refine ⟨settings, facts.1, facts.2.1, facts.2.2, fun column => ?_⟩
  exact hover_command_agrees rfl understood loaded read rfl opened characters 1 column (asked column)

end LiquidHover
