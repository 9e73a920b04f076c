/-
**A new configuration forgets the past.** When the editor sends its configuration, the settings are loaded again
from what was sent and from the files as they are then. Nothing of earlier settings is left, also not when loading
fails, and nothing but the settings and the cached hovers changes.

* `Settings.SameFiles`, `Settings.load_of_sameFiles` — the files of a project that settings are loaded from.
* `Settings.HoldsSettings` — the settings of this tool in what an editor sends.
* `Session.Reconfigured` — a session before and after a new configuration.
* `Session.Governed`, `Session.Governed.run` — two sessions under the same settings stay so under the same messages.
* `configured_forgets` — what two sessions with different pasts have in common afterwards.
-/
import LiquidHover.Proofs.Session.Liveness
import LiquidHover.Proofs.Session.Renegotiation
import LiquidHover.Proofs.Settings.Precedence

namespace LiquidHover

/-! ### What settings are loaded from -/

namespace Settings

/-- Two disks with the same configuration files for a project. Other files may differ. -/
structure SameFiles (root : String) (first second : Disk) : Prop where
  user : first.userConfig = second.userConfig
  content : ∀ path ∈ configPaths first root, fileAt? first path = fileAt? second path

/-- Files with the same content give the same layers. -/
theorem mapM_pathLayer_congr {first second : Disk} {paths : List String}
    (content : ∀ path ∈ paths, fileAt? first path = fileAt? second path) :
    paths.mapM (pathLayer first) = paths.mapM (pathLayer second) := by
  induction paths with
  | nil => rfl
  | cons path paths ih =>
    obtain ⟨here, others⟩ := List.forall_mem_cons.mp content
    have layer : pathLayer first path = pathLayer second path := by
      simp only [fileAt?] at here
      simp only [pathLayer, here]
    rw [List.mapM_cons, List.mapM_cons, layer, ih others]

/-- **Settings depend on the configuration files only.** -/
theorem load_of_sameFiles {root : String} {first second : Disk} (files : SameFiles root first second)
    (overrides : Option Json) : load first root overrides = load second root overrides := by
  have paths : configPaths first root = configPaths second root := by
    rw [configPaths, configPaths, files.user]
  unfold load
  rw [mapM_pathLayer_congr files.content, paths]

/-- What an editor sends holds settings of this tool: those in its section if it has one, and otherwise all of it. A
null holds none. -/
inductive HoldsSettings (sent : Json) : Option Json → Prop where
  | nothing (null : sent = .null) : HoldsSettings sent none
  | nullSection (found : sent.field? settingsSection = some .null) : HoldsSettings sent none
  | inSection (settings : Json) (present : settings ≠ .null) (found : sent.field? settingsSection = some settings) :
    HoldsSettings sent (some settings)
  | whole (present : sent ≠ .null) (missing : sent.field? settingsSection = none) : HoldsSettings sent (some sent)

theorem sectionOf?_eq (sent : Json) : sectionOf? sent = present? ((sent.field? settingsSection).getD sent) := by
  unfold sectionOf? present?
  generalize (sent.field? settingsSection).getD sent = value
  cases value <;> rfl

theorem holdsSettings_sectionOf? (sent : Json) : HoldsSettings sent (sectionOf? sent) := by
  rw [sectionOf?_eq]
  cases found : sent.field? settingsSection with
  | none =>
    rw [Option.getD_none]
    by_cases null : sent = .null
    · rw [null]
      exact .nothing rfl
    · rw [present?_of_ne null]
      exact .whole null found
  | some settings =>
    rw [Option.getD_some]
    by_cases null : settings = .null
    · rw [null]
      exact .nullSection (null ▸ found)
    · rw [present?_of_ne null]
      exact .inSection settings null found

end Settings

namespace Session

/-! ### One new configuration -/

/-- What loading gives: the settings of a project, or without a project those that the editor sends, or else the
defaults. -/
def loadFor (disk : Disk) : (root : Option String) → (overrides : Option Json) → Except Settings.Error Settings
  | some root, overrides => Settings.load disk root overrides
  | none, some overrides => Settings.ofEditor overrides
  | none, none => .ok {}

/-- The settings that are loaded, and all defaults if loading fails. -/
def settingsFor (disk : Disk) (root : Option String) (overrides : Option Json) : Settings :=
  (loadFor disk root overrides).toOption.getD {}

/-- A session before and after the editor sends its configuration. The settings are those for what was sent, no hover
is kept, and everything else is as it was. -/
structure Reconfigured (disk : Disk) (sent : Json) (before after : Session) : Prop where
  told : Settings.HoldsSettings sent after.overrides
  settings : after.settings = settingsFor disk before.root after.overrides
  emptied : after.cache.size = 0
  documents : after.documents = before.documents
  root : after.root = before.root
  encoding : after.encoding = before.encoding
  capabilities : after.capabilities = before.capabilities

theorem settings_reload (session : Session) (disk : Disk) :
    (session.reload disk).session.settings = settingsFor disk session.root session.overrides := by
  have loaded : loadFor disk session.root session.overrides = session.currentSettings disk := by
    rcases session with ⟨_ | _, _, _ | _⟩ <;> rfl
  rw [settingsFor, loaded, reload]
  cases session.currentSettings disk <;> rfl

/-- **One new configuration.** -/
theorem reconfigured_step (session : Session) (disk : Disk) (sent : Json) :
    Reconfigured disk sent session (session.step disk (.configured sent)).session where
  told := Settings.holdsSettings_sectionOf? sent
  settings := settings_reload (session.setOverrides (sectionOf? sent)) disk
  emptied := rfl
  documents := rfl
  root := rfl
  encoding := rfl
  capabilities := rfl

/-- Settings are the same for the same files. -/
theorem settingsFor_of_sameFiles {first second : Disk} {root : Option String}
    (files : ∀ path ∈ root, Settings.SameFiles path first second) (overrides : Option Json) :
    settingsFor first root overrides = settingsFor second root overrides := by
  cases root with
  | none => cases overrides <;> rfl
  | some root => rw [settingsFor, loadFor, Settings.load_of_sameFiles (files root rfl), settingsFor, loadFor]

/-! ### Two sessions -/

/-- Two sessions under the same settings, which are loaded from the same places. -/
structure Governed (first second : Session) : Prop where
  root : first.root = second.root
  overrides : first.overrides = second.overrides
  settings : first.settings = second.settings

namespace Governed

variable {first second third : Session}

theorem symm (governed : Governed first second) : Governed second first :=
  ⟨governed.root.symm, governed.overrides.symm, governed.settings.symm⟩

theorem trans (governed : Governed first second) (further : Governed second third) : Governed first third :=
  ⟨governed.root.trans further.root, governed.overrides.trans further.overrides,
    governed.settings.trans further.settings⟩

/-- Sessions under the same settings that agree in everything else are the same. -/
theorem eq (governed : Governed first second) (documents : first.documents = second.documents)
    (cache : first.cache = second.cache) (encoding : first.encoding = second.encoding)
    (capabilities : first.capabilities = second.capabilities) : first = second := by
  obtain ⟨root, overrides, settings⟩ := governed
  cases first
  cases second
  subst root overrides settings documents cache encoding capabilities
  rfl

/-- A hover changes nothing but the cache. -/
theorem hover (session : Session) (uri : String) (position : Position) :
    Governed session (session.hover uri position).session := by
  rw [session_hover]
  exact ⟨rfl, rfl, rfl⟩

theorem reload (governed : Governed first second) (disk : Disk) :
    Governed (first.reload disk).session (second.reload disk).session where
  root := governed.root
  overrides := governed.overrides
  settings := by rw [settings_reload, settings_reload, governed.root, governed.overrides]

/-- **A message to both leaves them under the same settings.** -/
theorem step (governed : Governed first second) (disk : Disk) (event : Event) :
    Governed (first.step disk event).session (second.step disk event).session := by
  cases event with
  | introduced introduction => exact ⟨rfl, rfl, governed.settings⟩
  | ready => exact governed.reload disk
  | configured sent =>
    have told : Governed (first.setOverrides (sectionOf? sent)) (second.setOverrides (sectionOf? sent)) :=
      ⟨governed.root, rfl, governed.settings⟩
    exact told.reload disk
  | hovered uri position =>
    exact (hover first uri position).symm.trans (governed.trans (hover second uri position))
  | opened | changed | closed | stopped => exact ⟨governed.root, governed.overrides, governed.settings⟩

/-- Whatever is sent to both. -/
theorem run (governed : Governed first second) (events : List (Disk × Event)) :
    Governed (first.run events) (second.run events) := by
  induction events generalizing first second with
  | nil => exact governed
  | cons event events ih => exact ih (governed.step event.1 event.2)

end Governed

theorem governed_step_configured {first second : Session} (project : first.root = second.root)
    {disk disk' : Disk} (files : ∀ root ∈ first.root, Settings.SameFiles root disk disk') (sent : Json) :
    Governed (first.step disk (.configured sent)).session (second.step disk' (.configured sent)).session where
  root := project
  overrides := rfl
  settings := by
    rw [(reconfigured_step first disk sent).settings, (reconfigured_step second disk' sent).settings, ← project]
    exact settingsFor_of_sameFiles files _

/-! ### What is left of the past -/

theorem capacity_act (session : Session) (action : Action) :
    (session.act action).cache.capacity = session.cache.capacity := by
  cases action with
  | message disk event =>
    obtain ⟨operations, performed⟩ := session.exists_operations_step disk event
    rw [act, performed, Cache.capacity_perform]
  | setRoot | setOverrides | setEncoding | setCapabilities | reload | forget => rfl

theorem capacity_perform_actions (actions : List Action) : (perform {} actions).cache.capacity = hoverCapacity := by
  induction actions using List.reverseRecOn with
  | nil => rfl
  | append_singleton actions last ih => rw [perform_append_singleton, capacity_act, ih]

end Session

/-- **A new configuration forgets the past.** Take two sessions, whatever was done to them, with the same project and
the same configuration files. After the editor has sent the same configuration to both, their settings are the same:
those for what was sent, or the defaults if these cannot be loaded. The cached hovers are gone, and documents,
project, encoding and capabilities of each session are as they were. From then on the same messages keep their
settings the same; and if they had the same documents and the same agreements with the editor, nothing at all tells
them apart. -/
theorem configured_forgets (actions others : List Action) (disk disk' : Disk) (sent : Json)
    (project : (Session.perform {} actions).root = (Session.perform {} others).root)
    (files : ∀ root ∈ (Session.perform {} actions).root, Settings.SameFiles root disk disk') :
    let first := Session.perform {} actions
    let second := Session.perform {} others
    let first' := (first.step disk (.configured sent)).session
    let second' := (second.step disk' (.configured sent)).session
    first'.settings = second'.settings ∧
      Session.Reconfigured disk sent first first' ∧ Session.Reconfigured disk' sent second second' ∧
      (∀ events, (first'.run events).settings = (second'.run events).settings) ∧
      (first.documents = second.documents → first.encoding = second.encoding →
        first.capabilities = second.capabilities → first' = second') := by
  intro first second first' second'
  have governed : Session.Governed first' second' := Session.governed_step_configured project files sent
  have reconfigured : Session.Reconfigured disk sent first first' := Session.reconfigured_step first disk sent
  have reconfigured' : Session.Reconfigured disk' sent second second' := Session.reconfigured_step second disk' sent
  refine ⟨governed.settings, reconfigured, reconfigured', fun events => (governed.run events).settings, ?_⟩
  intro documents encoding capabilities
  refine governed.eq documents ?_ encoding capabilities
  show (⟨first.cache.capacity, []⟩ : Cache) = ⟨second.cache.capacity, []⟩
  rw [Session.capacity_perform_actions, Session.capacity_perform_actions]

/-- The configuration of a shop, once as its only file and once beside a file that is no configuration. -/
def shopDisk (others : List (String × String)) : Disk :=
  Settings.diskOf (("/shop/lqls.toml", "max_properties_in_hover = 3") :: others)

/-- A template is open and a hover in the cache, the last configuration could not be loaded, and settings wait to be
read. -/
def troubledPast : List Action :=
  [ .setRoot (some "/shop"),
    .message (shopDisk []) (.opened "file:///shop/card.liquid" "liquid" ⟨"{{ cart | size }}", 1⟩),
    .message (shopDisk []) (.configured (.object [("maxPropertiesInHover", .string "many")])),
    .message (shopDisk []) (.hovered "file:///shop/card.liquid" ⟨0, 11⟩),
    .setOverrides (some (.object [("enabled", .bool false)])) ]

/-- Beside a session of which nothing but the project was set. -/
theorem configured_forgets_troubledPast :
    let disk := shopDisk []
    let disk' := shopDisk [("/shop/theme.toml", "enabled = false")]
    let sent : Json := .object [("liquidInspector", .object [("showTypes", .bool false)])]
    let first := Session.perform {} troubledPast
    let second := Session.perform {} [.setRoot (some "/shop")]
    let first' := (first.step disk (.configured sent)).session
    let second' := (second.step disk' (.configured sent)).session
    first.root = second.root ∧ (∀ root ∈ first.root, Settings.SameFiles root disk disk') ∧
      first.cache.size = 1 ∧ first'.cache.size = 0 ∧ first'.documents.size = 1 ∧
      first'.settings = { showTypes := false, maxProperties := 3 } ∧ first'.settings = second'.settings := by
  intro disk disk' sent first second first' second'
  obtain ⟨shop, cached, documents⟩ :
      first.root = some "/shop" ∧ first.cache.size = 1 ∧ first.documents.size = 1 := by decide +kernel
  have project : first.root = second.root := shop
  have files : ∀ root ∈ first.root, Settings.SameFiles root disk disk' := by
    rintro root (same : first.root = some root)
    obtain rfl : "/shop" = root := Option.some.inj (shop.symm.trans same)
    exact ⟨rfl, by decide +kernel⟩
  obtain ⟨same, reconfigured, -⟩ := configured_forgets troubledPast _ disk disk' sent project files
  exact ⟨project, files, cached, reconfigured.emptied, (congrArg Store.size reconfigured.documents).trans documents,
    by decide +kernel, same⟩

end LiquidHover
