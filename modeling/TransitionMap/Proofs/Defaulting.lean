import TransitionMap.Proofs.Toml.Distinct
import TransitionMap.Settings.Reader

/-!
# Settings are resolved key by key

A setting is the value that a document gives for its key in its section, and a default of its own
where the document gives none (`Resolved`). Defaults are attached to a field, and once more to a
section that is left out. `Settings.resolved_of_field?` does the first, `resolved_of_absent` the
second and `resolved_of_section` both, once for all sections; what a section has to show for it is
that its fields are read one by one, each with the default that it has in the section of all
defaults (`fields_of_map?`, `fields_of_compile?`, `field_of_log?`). Hence no key has a say in what
another one is resolved to, known or not (`keyByKey_of_parse`).
-/

namespace TransitionMap

namespace Settings

open Toml (Members)

/-- What a document says under a key of a section. -/
def Says (document : Members) (name key : String) (v : Toml.Value) : Prop :=
  ∃ origin inner, (name, .table origin inner) ∈ document ∧ (key, v) ∈ inner

/-- A setting is what the document says under its key, and a default if the document says nothing
there. -/
def Resolved {α : Type} (document : Members) (name key : String) (embed : α → Toml.Value)
    (default setting : α) : Prop :=
  (∀ v, Says document name key v → v = embed setting) ∧
    ((∀ v, ¬ Says document name key v) → setting = default)

/-! ## Fields -/

theorem eq_of_text? {v : Toml.Value} {s : String} (h : text? v = some s) : v = .string s := by
  cases v with
  | string t => exact congrArg _ (Option.some.inj h)
  | _ => cases h

theorem eq_of_boolean? {v : Toml.Value} {b : Bool} (h : boolean? v = some b) : v = .boolean b := by
  cases v with
  | boolean c => exact congrArg _ (Option.some.inj h)
  | _ => cases h

theorem eq_of_count? {v : Toml.Value} {n : Nat} (h : count? v = some n) : v = .integer n := by
  cases v with
  | integer i =>
    cases i with
    | ofNat m =>
      obtain ⟨-, hm⟩ := Option.ite_none_right_eq_some.1 h
      exact congrArg _ (congrArg _ (Option.some.inj hm))
    | negSucc m => cases h
  | _ => cases h

section Resolving

variable {α : Type} {document : Members} {name key : String} {embed : α → Toml.Value}
  {default setting : α}

theorem resolved_of_absent (h : document.lookup name = none) :
    Resolved document name key embed default default := by
  refine ⟨?_, fun _ => rfl⟩
  rintro v ⟨origin, inner, hmem, -⟩
  exact absurd (List.mem_map_of_mem hmem) (Toml.Members.lookup_eq_none_iff.1 h)

theorem resolved_of_field? (hdocument : document.Distinct) {origin : Toml.Origin} {inner : Members}
    (hsection : document.lookup name = some (.table origin inner)) {read : Toml.Value → Option α}
    (hread : ∀ {v x}, read v = some x → v = embed x)
    (h : field? inner key default read = some setting) :
    Resolved document name key embed default setting := by
  have hinner := Toml.Members.Distinct.of_table (hdocument.of_lookup hsection)
  -- No section and no key comes twice, so whatever the document says there is what is looked up.
  have hsays : ∀ v, Says document name key v ↔ inner.lookup key = some v := by
    intro v
    rw [← hinner.mem_iff]
    constructor
    · rintro ⟨origin', inner', hmem, hv⟩
      rw [hdocument.mem_iff, hsection] at hmem
      obtain ⟨rfl, rfl⟩ := Toml.Value.table.inj (Option.some.inj hmem)
      exact hv
    · exact fun hv => ⟨origin, inner, hdocument.mem_iff.2 hsection, hv⟩
  simp only [Resolved, hsays]
  rw [field?] at h
  cases hlookup : inner.lookup key with
  | none =>
    rw [hlookup] at h
    exact ⟨by simp, fun _ => (Option.some.inj h).symm⟩
  | some v =>
    rw [hlookup] at h
    refine ⟨fun w hw => ?_, fun hnone => absurd rfl (hnone v)⟩
    rw [← Option.some.inj hw]
    exact hread h

end Resolving

/-! ## Sections -/

theorem forall₂_of_mapM_eq_some {α β : Type} {f : α → Option β} {l : List α} {bs : List β}
    (h : l.mapM f = some bs) : List.Forall₂ (fun a b => f a = some b) l bs := by
  induction l generalizing bs with
  | nil =>
    obtain rfl := Option.some.inj h
    exact .nil
  | cons a l ih =>
    rw [List.mapM_cons] at h
    obtain ⟨b, hb, h⟩ := Option.bind_eq_some_iff.1 h
    obtain ⟨rest, hrest, h⟩ := Option.bind_eq_some_iff.1 h
    obtain rfl := Option.some.inj h
    exact .cons hb (ih hrest)

/-- The texts of a table are those of its fields. -/
theorem fields_of_texts? {fields : List (String × String)} {origin : Toml.Origin}
    {inner : Members} {texts : List String} (h : texts? fields (.table origin inner) = some texts) :
    List.Forall₂ (fun f text => field? inner f.1 f.2 text? = some text) fields texts :=
  forall₂_of_mapM_eq_some (Option.ite_none_right_eq_some.1 h).2

theorem fields_of_map? {origin : Toml.Origin} {inner : Members} {m : MapSettings}
    (h : map? (.table origin inner) = some m) :
    field? inner "pin_basedir" "/sys/fs/bpf" text? = some m.pinBase ∧
      field? inner "name" "ids_inspect_map" text? = some m.name := by
  obtain ⟨texts, htexts, hm⟩ := Option.bind_eq_some_iff.1 h
  obtain _ | ⟨hpinBase, _ | ⟨hname, ⟨⟩⟩⟩ := fields_of_texts? htexts
  obtain rfl := Option.some.inj hm
  exact ⟨hpinBase, hname⟩

theorem field_of_log? {origin : Toml.Origin} {inner : Members} {l : LogSettings}
    (h : log? (.table origin inner) = some l) :
    field? inner "level" "info" text? = some l.level := by
  obtain ⟨texts, htexts, hl⟩ := Option.bind_eq_some_iff.1 h
  obtain _ | ⟨hlevel, ⟨⟩⟩ := fields_of_texts? htexts
  obtain rfl := Option.some.inj hl
  exact hlevel

theorem fields_of_compile? {origin : Toml.Origin} {inner : Members} {c : CompileSettings}
    (h : compile? (.table origin inner) = some c) :
    field? inner "pattern" "(dog)|(cat)" text? = some c.pattern ∧
      field? inner "anchored" true boolean? = some c.options.anchored ∧
      field? inner "minimize" true boolean? = some c.options.minimize ∧
      field? inner "max_states" 65536 count? = some c.maxStates := by
  obtain ⟨pattern, hpattern, h⟩ := Option.bind_eq_some_iff.1 h
  obtain ⟨anchored, hanchored, h⟩ := Option.bind_eq_some_iff.1 h
  obtain ⟨minimize, hminimize, h⟩ := Option.bind_eq_some_iff.1 h
  obtain ⟨maxStates, hmaxStates, h⟩ := Option.bind_eq_some_iff.1 h
  obtain ⟨-, h⟩ := Option.ite_none_right_eq_some.1 h
  obtain rfl := Option.some.inj h
  exact ⟨hpattern, hanchored, hminimize, hmaxStates⟩

/-- The sections of a document that is read as settings. -/
theorem sections_of_ofMembers? {document : Members} {s : Settings}
    (h : ofMembers? document = some s) :
    field? document "map" {} map? = some s.map ∧
      field? document "compile" {} compile? = some s.compile ∧
      field? document "logging" {} log? = some s.log := by
  obtain ⟨map, hmap, h⟩ := Option.bind_eq_some_iff.1 h
  obtain ⟨compile, hcompile, h⟩ := Option.bind_eq_some_iff.1 h
  obtain ⟨log, hlog, h⟩ := Option.bind_eq_some_iff.1 h
  obtain ⟨-, h⟩ := Option.ite_none_right_eq_some.1 h
  obtain rfl := Option.some.inj h
  exact ⟨hmap, hcompile, hlog⟩

/-- Each setting is resolved by its own key. -/
structure KeyByKey (document : Members) (s : Settings) : Prop where
  pinBase : Resolved document "map" "pin_basedir" .string "/sys/fs/bpf" s.map.pinBase
  name : Resolved document "map" "name" .string "ids_inspect_map" s.map.name
  pattern : Resolved document "compile" "pattern" .string "(dog)|(cat)" s.compile.pattern
  anchored : Resolved document "compile" "anchored" .boolean true s.compile.options.anchored
  minimize : Resolved document "compile" "minimize" .boolean true s.compile.options.minimize
  maxStates : Resolved document "compile" "max_states" (fun n : Nat => .integer n) 65536
    s.compile.maxStates
  level : Resolved document "logging" "level" .string "info" s.log.level

/-- The sections are tables or left out. -/
def Sectioned (document : Members) : Prop :=
  ∀ m ∈ document, m.1 ∈ ["map", "compile", "logging"] → ∃ origin inner, m.2 = .table origin inner

variable {document : Members}

/-- A field of a section that is a table or left out. -/
theorem resolved_of_section {α β : Type} {name key : String} {embed : α → Toml.Value}
    {default setting : β} {read : Toml.Value → Option β} {readPart : Toml.Value → Option α}
    (part : β → α) (hdocument : document.Distinct)
    (sectioned : Sectioned document) (hname : name ∈ ["map", "compile", "logging"])
    (h : field? document name default read = some setting)
    (hfield : ∀ {origin inner}, read (.table origin inner) = some setting →
      field? inner key (part default) readPart = some (part setting))
    (hread : ∀ {v x}, readPart v = some x → v = embed x) :
    Resolved document name key embed (part default) (part setting) := by
  rw [field?] at h
  cases hlookup : document.lookup name with
  | none =>
    rw [hlookup] at h
    obtain rfl := Option.some.inj h
    exact resolved_of_absent hlookup
  | some v =>
    rw [hlookup] at h
    obtain ⟨origin, inner, rfl⟩ := sectioned _ (Toml.Members.mem_of_lookup hlookup) hname
    exact resolved_of_field? hdocument hlookup hread (hfield h)

theorem keyByKey_of_parse {text : String} {s : Settings}
    (parsed : Toml.parse? text = some document) (loaded : parse? text = some s)
    (sectioned : Sectioned document) : KeyByKey document s := by
  have hdocument := Toml.distinct_of_parse parsed
  rw [parse?, parsed] at loaded
  obtain ⟨hmap, hcompile, hlog⟩ := sections_of_ofMembers? loaded
  exact {
    pinBase := resolved_of_section MapSettings.pinBase hdocument sectioned (by decide)
      hmap (fun h => (fields_of_map? h).1) eq_of_text?
    name := resolved_of_section MapSettings.name hdocument sectioned (by decide)
      hmap (fun h => (fields_of_map? h).2) eq_of_text?
    pattern := resolved_of_section CompileSettings.pattern hdocument sectioned
      (by decide) hcompile (fun h => (fields_of_compile? h).1) eq_of_text?
    anchored := resolved_of_section (fun c => c.options.anchored) hdocument sectioned
      (by decide) hcompile (fun h => (fields_of_compile? h).2.1) eq_of_boolean?
    minimize := resolved_of_section (fun c => c.options.minimize) hdocument sectioned
      (by decide) hcompile (fun h => (fields_of_compile? h).2.2.1) eq_of_boolean?
    maxStates := resolved_of_section CompileSettings.maxStates hdocument sectioned
      (by decide) hcompile (fun h => (fields_of_compile? h).2.2.2) eq_of_count?
    level := resolved_of_section LogSettings.level hdocument sectioned (by decide) hlog
      field_of_log? eq_of_text? }

end Settings

end TransitionMap
