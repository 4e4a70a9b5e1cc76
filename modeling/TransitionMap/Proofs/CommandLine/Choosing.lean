import TransitionMap.Proofs.CommandLine.Spelling

/-!
# One source and one target

A command line that is accepted has passed the checks (`Given.spec_of_invocation`): it contradicts
nothing, so at most one target has been collected, and `compile` wants one (`Given.exists_target`).
Since targets are collected as the arguments name them, there is exactly one argument that names a
target (`exists_split_of_target`), however it is written and wherever it stands. What excludes each
other is absent in the same way (`parse_unambiguous`).
-/

namespace TransitionMap.CommandLine

/-- The arguments that name a target. -/
def Argument.isTarget : Argument → Bool
  | dev | map | out | dryRun => true
  | _ => false

/-- Options occur with a value, flags without one. -/
theorem Spells.isSome_value {v : Verb} {cs : List Char} {words : List String}
    {os : List Occurrence} (h : Spells v cs words os) :
    ∀ o ∈ os, o.2.isSome = o.1.takesValue := by
  induction h with
  | nil => simp
  | patterns words => simp [Argument.takesValue]
  | pattern plain rest ih => simpa [Argument.takesValue] using ih
  | letters nonempty single rest ih => exact ih
  | longFlag named htakes rest ih => simpa [htakes] using ih
  | flag named htakes rest ih => simpa [htakes] using ih
  | longNext named htakes plain rest ih => simpa [htakes] using ih
  | longEquals named htakes rest ih => simpa [htakes] using ih
  | next named htakes plain rest ih => simpa [htakes] using ih
  | equals named htakes rest ih => simpa [htakes] using ih
  | attached named htakes nonempty separate rest ih => simpa [htakes] using ih

theorem Occurrence.isTarget_of_target?_eq_none {o : Occurrence}
    (hvalue : o.2.isSome = o.1.takesValue) (h : o.target? = none) : o.1.isTarget = false := by
  obtain ⟨a, value⟩ := o
  cases a <;> cases value <;> simp_all [Argument.takesValue, Argument.isTarget, Occurrence.target?]

namespace Given

variable {g : Given}

theorem contradicts_eq_false_iff :
    g.contradicts = false ↔
      g.targets.length ≤ 1 ∧ ¬ (g.has .dfa ∧ g.has .pattern) ∧
        ¬ (g.has .image ∧ (g.has .pattern ∨ g.has .dfa)) ∧ ¬ (g.has .quiet ∧ g.has .verbose) := by
  simp only [contradicts, has, Bool.or_eq_false_iff, Bool.and_eq_false_iff, decide_eq_false_iff_not,
    not_and_or, not_or, Bool.not_eq_true, Nat.not_lt, decide_eq_true_eq, and_assoc]

/-- What is accepted has passed the checks and makes a command, whatever settings file is named. -/
theorem spec_of_invocation {v : Verb} {named : Option String} {i : Invocation}
    (h : g.invocation v named = .ok i) :
    g.fault? v = none ∧ g.command? v = some i.command := by
  have hwith : ∃ config, g.invocationWith v config = .ok i := by
    unfold invocation at h
    split at h
    case h_1 path _ => exact ⟨some path, h⟩
    case h_2 =>
      obtain ⟨path, -, h⟩ := exists_of_bind_eq_ok h
      exact ⟨some path, h⟩
    case h_3 => exact ⟨none, h⟩
  obtain ⟨config, hconfig⟩ := hwith
  unfold invocationWith at hconfig
  split at hconfig
  case h_1 => cases hconfig
  case h_2 hnone =>
    obtain rfl := Except.ok.inj hconfig
    exact ⟨hnone, (Option.some_get _).symm⟩

/-- Where there is one target only, it is the one that is compiled for. -/
theorem exists_target {c : Command} (hone : g.targets.length ≤ 1)
    (h : g.command? .compile = some c) :
    ∃ target, g.targets = [target] ∧ g.target? = some target ∧
      c = .compile g.source target g.strict := by
  obtain ⟨target, htarget, rfl⟩ := Option.map_eq_some_iff.1 h
  refine ⟨target, ?_, htarget, rfl⟩
  rw [target?_eq_head?] at htarget
  obtain ⟨rest, hrest⟩ := List.head?_eq_some_iff.1 htarget
  rw [hrest] at hone ⊢
  rw [List.eq_nil_of_length_eq_zero (Nat.le_zero.1 (Nat.le_of_succ_le_succ hone))]

end Given

/-- What is accepted begins with the name of a command. -/
theorem spec_of_parse {named : Option String} {words : List String} {i : Invocation}
    (h : Invocation.parse named words = .ok i) :
    ∃ word rest v g, words = word :: rest ∧ Verb.ofName? word = some v ∧
      Given.ofWords v rest = .ok g ∧ g.invocation v named = .ok i := by
  cases words with
  | nil => cases h
  | cons word rest =>
    rw [Invocation.parse] at h
    cases hverb : Verb.ofName? word with
    | none =>
      rw [hverb] at h
      cases h
    | some v =>
      rw [hverb] at h
      obtain ⟨g, hgiven, hi⟩ := exists_of_bind_eq_ok h
      exact ⟨word, rest, v, g, rfl, hverb, hgiven, hi⟩

/-- The one target among arguments is named by one of them, and by no other. -/
theorem exists_split_of_target {os : List Occurrence} {target : Target}
    (hvalue : ∀ o ∈ os, o.2.isSome = o.1.takesValue)
    (h : os.filterMap Occurrence.target? = [target]) :
    ∃ before o after, os = before ++ o :: after ∧ o.target? = some target ∧
      ∀ p ∈ before ++ after, p.1.isTarget = false := by
  obtain ⟨before, o, after, rfl, hbefore, ho, hafter⟩ := List.filterMap_eq_cons_iff.1 h
  refine ⟨before, o, after, rfl, ho, fun p hp => ?_⟩
  refine Occurrence.isTarget_of_target?_eq_none (hvalue p ?_) ?_
  · rcases List.mem_append.1 hp with hp | hp <;> simp [hp]
  · rcases List.mem_append.1 hp with hp | hp
    · exact hbefore p hp
    · exact List.filterMap_eq_nil_iff.1 hafter p hp

/-- An accepted command line is never ambiguous, whatever settings file the environment names. It
has passed the checks, and from what it gives a command is made without coming to the case that has
no answer. Of the arguments that name a target, `compile` has exactly one, in one place, and no
other target has been collected, so that there is one to compile for and it is the one that this
argument names with its value. No command has both a pattern and a description, nor silence and more
to be logged, nor an image and a source beside it. -/
theorem parse_unambiguous {named : Option String} {words : List String} {i : Invocation}
    (accepted : Invocation.parse named words = .ok i) :
    ∃ word rest v g, words = word :: rest ∧ Verb.ofName? word = some v ∧
      Given.ofWords v rest = .ok g ∧ g.fault? v = none ∧ g.command? v = some i.command ∧
      (∃ os, Spells v [] rest os) ∧
      ∀ os, Spells v [] rest os →
        (v = .compile → ∃ target, g.targets = [target] ∧ g.target? = some target ∧
          i.command = .compile g.source target g.strict ∧
          ∃ before o after, os = before ++ o :: after ∧ o.target? = some target ∧
            ∀ p ∈ before ++ after, p.1.isTarget = false) ∧
        ¬ (Occurs .pattern os ∧ Occurs .dfa os) ∧
        ¬ (Occurs .quiet os ∧ Occurs .verbose os) ∧
        ¬ (Occurs .image os ∧ (Occurs .pattern os ∨ Occurs .dfa os)) := by
  obtain ⟨word, rest, v, g, rfl, hverb, hgiven, hinvocation⟩ := spec_of_parse accepted
  obtain ⟨hchecked, hcommand⟩ := Given.spec_of_invocation hinvocation
  obtain ⟨hone, hsource, himage, hquiet⟩ :=
    Given.contradicts_eq_false_iff.1 (Given.fault?_eq_none_iff.1 hchecked).1
  refine ⟨word, rest, v, g, rfl, hverb, hgiven, hchecked, hcommand, exists_spells hgiven,
    fun os hos => ?_⟩
  have hcollect : Given.collect {} os = some g := by
    rw [← hos.ofWords_eq, hgiven, Except.toOption]
  have hhas : ∀ a, g.has a = true ↔ Occurs a os := fun a => by
    rw [Given.has_collect hcollect]
    cases a <;> simp [Given.has]
  simp only [hhas] at hsource himage hquiet
  refine ⟨?_, fun h => hsource h.symm, hquiet, himage⟩
  rintro rfl
  obtain ⟨target, htargets, htarget, hi⟩ := Given.exists_target hone hcommand
  refine ⟨target, htargets, htarget, hi, exists_split_of_target hos.isSome_value ?_⟩
  have hperm := Given.targets_collect hcollect
  rw [htargets] at hperm
  simpa [Given.targets] using List.perm_singleton.1 hperm.symm

/-- The interface is the word behind a flag and the letter of its option; the pattern begins with a
hyphen. -/
theorem parse_unambiguous_letters :
    let rest := ["-vd", "eth0", "--", "-a"]
    let i : Invocation :=
      ⟨some "t", 1, false, .compile { origin := .pattern "-a" } (.dev "eth0") false⟩
    Invocation.parse (some "t") ("compile" :: rest) = .ok i ∧
      ∀ os, Spells .compile [] rest os →
        (∃ before o after, os = before ++ o :: after ∧ o.target? = some (.dev "eth0") ∧
          ∀ p ∈ before ++ after, p.1.isTarget = false) ∧
        ¬ (Occurs .quiet os ∧ Occurs .verbose os) := by
  intro rest i
  have accepted : Invocation.parse (some "t") ("compile" :: rest) = .ok i := by
    simp only [rest, i]
    cbv
  refine ⟨accepted, fun os hos => ?_⟩
  obtain ⟨word, rest', v, g, hwords, hverb, -, -, -, -, hreading⟩ := parse_unambiguous accepted
  obtain ⟨rfl, rfl⟩ := List.cons.inj hwords
  obtain rfl := Option.some.inj hverb
  obtain ⟨htarget, -, hquiet, -⟩ := hreading os hos
  obtain ⟨target, -, -, hcommand, hsplit⟩ := htarget rfl
  obtain ⟨-, rfl, -⟩ := Command.compile.inj hcommand
  exact ⟨hsplit, hquiet⟩

end TransitionMap.CommandLine
