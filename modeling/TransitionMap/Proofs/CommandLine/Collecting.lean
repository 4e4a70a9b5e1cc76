import Mathlib.Data.List.Basic
import TransitionMap.CommandLine
import TransitionMap.Proofs.Building

/-!
# What is collected from arguments

Arguments are taken one after the other, each as it occurs: an option with its value, a flag without
one. What has been collected at the end tells which arguments occurred (`Given.has_collect`) and
which targets they named, up to their order (`Given.targets_collect`): what may come once only is
refused the second time, and an argument that does not occur leaves its field as it was.
-/

namespace TransitionMap

/-! ## Results without their errors -/

section Results

variable {ε α β : Type}

theorem toOption_eq_some_iff {x : Except ε α} {a : α} : x.toOption = some a ↔ x = .ok a := by
  cases x <;> simp [Except.toOption]

theorem toOption_bind (x : Except ε α) (f : α → Except ε β) :
    (x.bind f).toOption = x.toOption.bind fun a => (f a).toOption := by
  cases x <;> rfl

theorem toOption_map (x : Except ε α) (f : α → β) :
    (x.map f).toOption = x.toOption.map f := by
  cases x <;> rfl

theorem except_bind_assoc {γ : Type} (x : Except ε α) (f : α → Except ε β) (g : β → Except ε γ) :
    (x.bind f).bind g = x.bind fun a => (f a).bind g := bind_assoc x f g

end Results

namespace CommandLine

/-! ## Arguments -/

/-- An argument as it occurs in a command line, with its value if it takes one. -/
abbrev Occurrence := Argument × Option String

/-- The target that an argument names. -/
def Occurrence.target? : Occurrence → Option Target
  | (.dev, some interface) => some (.dev interface)
  | (.map, some path) => some (.map path)
  | (.out, some path) => some (.image path)
  | (.dryRun, none) => some .dryRun
  | _ => none

/-- Whether an argument is among those that occur. -/
def Occurs (a : Argument) (os : List Occurrence) : Prop := ∃ o ∈ os, o.1 = a

namespace Given

/-- Whether an argument has been given. -/
def has (g : Given) : Argument → Bool
  | .pattern => g.pattern.isSome
  | .dfa => g.dfa.isSome
  | .unanchored => g.unanchored
  | .maxStates => g.maxStates.isSome
  | .dev => g.dev.isSome
  | .map => g.map.isSome
  | .out => g.out.isSome
  | .dryRun => g.dryRun
  | .strict => g.strict
  | .image => g.image.isSome
  | .color => g.color.isSome
  | .config => g.config.isSome
  | .verbose => 0 < g.verbosity
  | .quiet => g.quiet
  | .help => false

/-- Takes an argument as it occurs. -/
def receive (g : Given) (o : Occurrence) : Except UsageError Given :=
  match o.2 with
  | some text => g.put o.1 text
  | none => g.flag o.1

theorem once_eq_ok_iff {α : Type} {before after : Option α} {value : Except UsageError α} :
    once before value = .ok after ↔ before = none ∧ ∃ x, value = .ok x ∧ some x = after := by
  cases before with
  | none => simp [once, map_eq_ok_iff]
  | some b => simp [once]

/-- A flag that has not been set before. -/
theorem raised_eq_ok_iff {before : Bool} {g g' : Given} :
    (if before = true then .error .conflict else .ok g : Except UsageError Given) = .ok g' ↔
      before = false ∧ g = g' := by
  cases before <;> simp

theorem eq_of_path?_eq_ok {text path : String} (h : path? text = .ok path) : path = text := by
  rw [path?] at h
  split at h
  · cases h
  · exact (Except.ok.inj h).symm

/-! ## Presence -/

theorem has_put {g g' : Given} {a : Argument} {text : String} (h : g.put a text = .ok g')
    (b : Argument) : g'.has b = true ↔ g.has b = true ∨ b = a := by
  cases a
  case unanchored | dryRun | strict | verbose | quiet | help => cases h
  all_goals
    obtain ⟨after, honce, rfl⟩ := map_eq_ok_iff.1 h
    obtain ⟨hnone, value, -, rfl⟩ := once_eq_ok_iff.1 honce
    cases b <;> simp [has, hnone]

theorem has_flag {g g' : Given} {a : Argument} (h : g.flag a = .ok g') (b : Argument) :
    g'.has b = true ↔ g.has b = true ∨ b = a := by
  cases a
  case unanchored | dryRun | strict | quiet =>
    obtain ⟨hnot, rfl⟩ := raised_eq_ok_iff.1 h
    cases b <;> simp [has, hnot]
  case verbose =>
    obtain rfl := Except.ok.inj h
    cases b <;> simp [has]
  all_goals cases h

/-! ## Targets -/

theorem targets_put {g g' : Given} {a : Argument} {text : String} (h : g.put a text = .ok g') :
    g'.targets.Perm ((Occurrence.target? (a, some text)).toList ++ g.targets) := by
  cases a
  case unanchored | dryRun | strict | verbose | quiet | help => cases h
  all_goals
    obtain ⟨after, honce, rfl⟩ := map_eq_ok_iff.1 h
    obtain ⟨hnone, value, hvalue, rfl⟩ := once_eq_ok_iff.1 honce
  case dev =>
    obtain rfl := Except.ok.inj hvalue
    simp [targets, hnone, Occurrence.target?]
  case map =>
    obtain rfl := eq_of_path?_eq_ok hvalue
    simp [targets, hnone, Occurrence.target?]
  -- Targets are listed by their kinds, so an image comes behind others that are given later.
  case out =>
    obtain rfl := eq_of_path?_eq_ok hvalue
    simp only [targets, hnone, Occurrence.target?, Option.map_some, Option.map_none,
      Option.toList_some, Option.toList_none, List.append_nil, List.append_assoc _ [_]]
    exact List.perm_middle
  all_goals exact .refl _

theorem targets_flag {g g' : Given} {a : Argument} (h : g.flag a = .ok g') :
    g'.targets.Perm ((Occurrence.target? (a, none)).toList ++ g.targets) := by
  cases a
  case dryRun =>
    obtain ⟨hnot, rfl⟩ := raised_eq_ok_iff.1 h
    simp [targets, hnot, Occurrence.target?, ← List.append_assoc]
  case unanchored | strict | quiet =>
    obtain ⟨hnot, rfl⟩ := raised_eq_ok_iff.1 h
    exact .refl _
  case verbose =>
    obtain rfl := Except.ok.inj h
    exact .refl _
  all_goals cases h

/-! ## All arguments -/

/-- Takes arguments one after the other, unless one of them is refused. -/
def collect (g : Given) (os : List Occurrence) : Option Given :=
  os.foldlM (fun g o => (g.receive o).toOption) g

theorem collect_cons (g : Given) (o : Occurrence) (os : List Occurrence) :
    g.collect (o :: os) = (g.receive o).toOption.bind fun g => g.collect os := rfl

theorem has_receive {g g' : Given} {o : Occurrence} (h : g.receive o = .ok g') (a : Argument) :
    g'.has a = true ↔ g.has a = true ∨ a = o.1 := by
  obtain ⟨b, value⟩ := o
  cases value with
  | none => exact has_flag h a
  | some text => exact has_put h a

theorem targets_receive {g g' : Given} {o : Occurrence} (h : g.receive o = .ok g') :
    g'.targets.Perm (o.target?.toList ++ g.targets) := by
  obtain ⟨b, value⟩ := o
  cases value with
  | none => exact targets_flag h
  | some text => exact targets_put h

theorem exists_of_collect_cons {g g' : Given} {o : Occurrence} {os : List Occurrence}
    (h : g.collect (o :: os) = some g') : ∃ g₁, g.receive o = .ok g₁ ∧ g₁.collect os = some g' := by
  rw [collect_cons] at h
  obtain ⟨g₁, hreceive, hrest⟩ := Option.bind_eq_some_iff.1 h
  exact ⟨g₁, toOption_eq_some_iff.1 hreceive, hrest⟩

/-- An argument has been given if it occurs. -/
theorem has_collect {g g' : Given} {os : List Occurrence} (h : g.collect os = some g')
    (a : Argument) : g'.has a = true ↔ g.has a = true ∨ Occurs a os := by
  induction os generalizing g with
  | nil =>
    obtain rfl := Option.some.inj h
    simp [Occurs]
  | cons o os ih =>
    obtain ⟨g₁, hreceive, hrest⟩ := exists_of_collect_cons h
    rw [ih hrest, has_receive hreceive, or_assoc, Occurs, Occurs, List.exists_mem_cons_iff,
      eq_comm (a := a)]

/-- The targets are those that the arguments name, each as often as it is named. -/
theorem targets_collect {g g' : Given} {os : List Occurrence} (h : g.collect os = some g') :
    g'.targets.Perm (os.filterMap Occurrence.target? ++ g.targets) := by
  induction os generalizing g with
  | nil =>
    obtain rfl := Option.some.inj h
    exact .refl _
  | cons o os ih =>
    obtain ⟨g₁, hreceive, hrest⟩ := exists_of_collect_cons h
    have hhead : (o :: os).filterMap Occurrence.target? =
        o.target?.toList ++ os.filterMap Occurrence.target? := by
      cases ho : o.target? <;> simp [ho]
    calc List.Perm g'.targets (os.filterMap Occurrence.target? ++ g₁.targets) := ih hrest
      List.Perm _ (os.filterMap Occurrence.target? ++ (o.target?.toList ++ g.targets)) :=
        (targets_receive hreceive).append_left _
      List.Perm _ (o.target?.toList ++ (os.filterMap Occurrence.target? ++ g.targets)) :=
        List.perm_append_comm_assoc _ _ _
      _ = (o :: os).filterMap Occurrence.target? ++ g.targets := by
        rw [hhead, List.append_assoc]

end Given

end CommandLine

end TransitionMap
