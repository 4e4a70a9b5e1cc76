import Mathlib.Data.List.TakeWhile
import TransitionMap.Proofs.CommandLine.Collecting

/-!
# What words spell

A command line may write the same argument in many ways: with a long name or a letter, letters in
one word, values behind an equals sign, right behind the letter or in the next word, patterns
between options or behind two hyphens. `Spells` says which arguments words stand for, as a grammar
that does not look at what has been given before.

Reading the words, in contrast, holds back the argument given last until its value is there and
looks at it only when the next one comes. `Progress.Collects` relates the two: from whatever has
been taken before, the rest of the words succeeds as taking its arguments one by one does. Each way
of writing keeps this (`Progress.collects_of_spells`), and words that are accepted are always
spelled in one of these ways (`Progress.spelled_of_finish`), so that accepting words is collecting
the arguments they spell (`ofWords_eq_ok_iff`).
-/

namespace TransitionMap.CommandLine

/-- A word that stands for itself: a hyphen alone, or one without a hyphen in front. -/
def IsPlain (word : String) : Prop := word = "-" ∨ word.toList.head? ≠ some '-'

/-- The words behind a command, with the letters that are left of a word with one hyphen in front of
them, spell a list of arguments. An option has its value in its own word or in the next one, which
must be plain then; behind two hyphens every word is a pattern. -/
inductive Spells (v : Verb) : List Char → List String → List Occurrence → Prop
  | nil : Spells v [] [] []
  | patterns (words : List String) :
      Spells v [] ("--" :: words) (words.map fun word => (.pattern, some word))
  | pattern {word : String} {words : List String} {os : List Occurrence} (plain : IsPlain word)
      (rest : Spells v [] words os) : Spells v [] (word :: words) ((.pattern, some word) :: os)
  | longFlag {a : Argument} {name : String} {words : List String} {os : List Occurrence}
      (named : v.long? name = some a) (flag : a.takesValue = false) (rest : Spells v [] words os) :
      Spells v [] (("--" ++ name) :: words) ((a, none) :: os)
  | longNext {a : Argument} {name value : String} {words : List String} {os : List Occurrence}
      (named : v.long? name = some a) (option : a.takesValue = true) (plain : IsPlain value)
      (rest : Spells v [] words os) :
      Spells v [] (("--" ++ name) :: value :: words) ((a, some value) :: os)
  | longEquals {a : Argument} {name value : String} {words : List String} {os : List Occurrence}
      (named : v.long? name = some a) (option : a.takesValue = true)
      (rest : Spells v [] words os) :
      Spells v [] (("--" ++ (name ++ "=" ++ value)) :: words) ((a, some value) :: os)
  | letters {text : String} {words : List String} {os : List Occurrence} (nonempty : text ≠ "")
      (single : text.toList.head? ≠ some '-') (rest : Spells v text.toList words os) :
      Spells v [] (("-" ++ text) :: words) os
  | flag {a : Argument} {c : Char} {cs : List Char} {words : List String} {os : List Occurrence}
      (named : v.short? c = some a) (flag : a.takesValue = false) (rest : Spells v cs words os) :
      Spells v (c :: cs) words ((a, none) :: os)
  | next {a : Argument} {c : Char} {value : String} {words : List String} {os : List Occurrence}
      (named : v.short? c = some a) (option : a.takesValue = true) (plain : IsPlain value)
      (rest : Spells v [] words os) :
      Spells v [c] (value :: words) ((a, some value) :: os)
  | equals {a : Argument} {c : Char} {value : String} {words : List String} {os : List Occurrence}
      (named : v.short? c = some a) (option : a.takesValue = true)
      (rest : Spells v [] words os) :
      Spells v (c :: '=' :: value.toList) words ((a, some value) :: os)
  | attached {a : Argument} {c : Char} {value : String} {words : List String}
      {os : List Occurrence} (named : v.short? c = some a) (option : a.takesValue = true)
      (nonempty : value ≠ "") (separate : value.toList.head? ≠ some '=')
      (rest : Spells v [] words os) :
      Spells v (c :: value.toList) words ((a, some value) :: os)

/-! ## Words -/

theorem exists_cons_of_ne {text : String} (h : text ≠ "") : ∃ c cs, text.toList = c :: cs :=
  List.exists_cons_of_ne_nil fun hnil => h (String.toList_eq_nil_iff.1 hnil)

/-- How a word begins. -/
theorem word_cases (word : String) :
    word = "--" ∨ (∃ name, name ≠ "" ∧ word = "--" ++ name) ∨
      (∃ text, text ≠ "" ∧ text.toList.head? ≠ some '-' ∧ word = "-" ++ text) ∨ IsPlain word := by
  have hword : word = String.ofList word.toList := String.ofList_toList.symm
  rcases hlist : word.toList with _ | ⟨c, cs⟩
  · exact .inr (.inr (.inr (.inr (by simp [hlist]))))
  by_cases hc : c = '-'
  swap
  · exact .inr (.inr (.inr (.inr (by simpa [hlist] using hc))))
  subst hc
  rcases cs with _ | ⟨d, ds⟩
  · exact .inr (.inr (.inr (.inl (by rw [hword, hlist]))))
  by_cases hd : d = '-'
  swap
  · refine .inr (.inr (.inl ⟨String.ofList (d :: ds), by simp, by simpa using hd, ?_⟩))
    rw [← String.toList_inj, hlist]
    simp
  subst hd
  rcases ds with _ | ⟨e, es⟩
  · exact .inl (by rw [hword, hlist])
  · refine .inr (.inl ⟨String.ofList (e :: es), by simp, ?_⟩)
    rw [← String.toList_inj, hlist]
    simp

theorem long?_spec {v : Verb} {name : String} {a : Argument} (h : v.long? name = some a) :
    name ≠ "" ∧ '=' ∉ name.toList := by
  have hname : a.longName? = some name := by simpa using List.find?_some h
  cases a <;> simp only [Argument.longName?, Option.some.injEq, reduceCtorEq] at hname <;>
    subst hname <;> decide

namespace Progress

/-- The value of the argument given last is still to come. -/
def Waits (p : Progress) : Prop := ∃ a, p.pending = some (a, none)

theorem Waits.settle_eq {p : Progress} (h : p.Waits) : p.settle = .error .invalidValue := by
  obtain ⟨a, ha⟩ := h
  rw [settle, ha]

theorem not_waits_of_settle {p : Progress} {g : Given} (h : p.settle = .ok g) : ¬ p.Waits := by
  intro hwaits
  rw [hwaits.settle_eq] at h
  cases h

/-! ## Taking words -/

variable {v : Verb} {p : Progress}

/-- What words give after what has been taken. -/
def finish (v : Verb) (plain : Bool) (words : List String) (p : Progress) :
    Except UsageError Given := (scan v plain p words).bind settle

theorem finish_patterns (words : List String) :
    p.finish v false ("--" :: words) = p.finish v true words := by
  simp [finish, scan]

theorem finish_long {name : String} (h : name ≠ "") (words : List String) :
    p.finish v false (("--" ++ name) :: words) =
      (p.long v name.toList).bind (finish v false words) := by
  obtain ⟨c, cs, hname⟩ := exists_cons_of_ne h
  have hlist : ("--" ++ name).toList = '-' :: '-' :: c :: cs := by simp [hname]
  rw [finish, scan, hlist, hname]
  exact except_bind_assoc _ _ _

theorem finish_letters {text : String} (nonempty : text ≠ "")
    (single : text.toList.head? ≠ some '-') (words : List String) :
    p.finish v false (("-" ++ text) :: words) =
      (p.short v text.toList).bind (finish v false words) := by
  obtain ⟨c, cs, htext⟩ := exists_cons_of_ne nonempty
  have hlist : ("-" ++ text).toList = '-' :: c :: cs := by simp [htext]
  have hc : c ≠ '-' := by simpa [htext] using single
  have hscan : scan v false p (("-" ++ text) :: words) =
      (p.short v (c :: cs)).bind fun p => scan v false p words := by
    rw [scan, hlist]
    simp [hc]
  rw [finish, hscan, htext]
  exact except_bind_assoc _ _ _

theorem scan_plain {word : String} (h : IsPlain word) (words : List String) :
    scan v false p (word :: words) =
      match p.pending with
      | some (a, none) => scan v false { p with pending := some (a, some word) } words
      | _ => (p.unnamed word).bind fun p => scan v false p words := by
  rw [scan, if_neg Bool.false_ne_true]
  rcases h with rfl | hhead
  · rfl
  · cases hlist : word.toList with
    | nil => rfl
    | cons c cs =>
      have hc : c ≠ '-' := by simpa [hlist] using hhead
      split
      case h_4 => rfl
      all_goals
        rename_i heq
        exact absurd (List.cons.inj heq).1 hc

theorem finish_value {g : Given} {a : Argument} {value : String} (h : IsPlain value)
    (words : List String) :
    finish v false (value :: words) ⟨g, some (a, none)⟩ =
      finish v false words ⟨g, some (a, some value)⟩ := by
  rw [finish, scan_plain h]
  rfl

theorem finish_unnamed (hp : ¬ p.Waits) {word : String} (h : IsPlain word) (words : List String) :
    p.finish v false (word :: words) = (p.unnamed word).bind (finish v false words) := by
  rw [finish, scan_plain h]
  split
  · exact absurd ⟨_, ‹_›⟩ hp
  · exact except_bind_assoc _ _ _

theorem finish_pattern (word : String) (words : List String) :
    p.finish v true (word :: words) = (p.unnamed word).bind (finish v true words) := by
  rw [finish, scan]
  exact except_bind_assoc _ _ _

/-! ## Taking arguments -/

/-- An argument whose value is at hand, or that has none, is taken at once. -/
theorem take_whole {a : Argument} {value : Option String} (h : value.isSome = a.takesValue) :
    p.take a value = p.settle.bind fun g =>
      (g.receive (a, value)).map fun given => { given } := by
  rw [take, ← h]
  cases value <;> rfl

theorem take_next {a : Argument} (h : a.takesValue = true) :
    p.take a none = p.settle.map fun given => { given, pending := some (a, none) } := by
  rw [take, h]
  rfl

/-- Whether a pattern has been given does not depend on whether its value has been looked at. -/
theorem settle_pattern {g : Given} (h : p.settle = .ok g) :
    (p.given.pattern.isSome || p.pending.any (·.1 = .pattern)) = g.pattern.isSome := by
  rcases p with ⟨given, _ | ⟨a, _ | text⟩⟩
  · obtain rfl := Except.ok.inj h
    simp
  · cases h
  · have hhas := Given.has_put h .pattern
    rw [Bool.eq_iff_iff]
    simpa [Given.has, eq_comm (a := a)] using hhas.symm

theorem unnamed_eq (word : String) :
    (p.unnamed word).toOption = p.settle.toOption.bind fun given =>
      if given.pattern.isSome then none
      else some { given, pending := some (.pattern, some word) } := by
  rw [unnamed]
  cases hsettle : p.settle with
  | error e => split <;> rfl
  | ok g =>
    rw [settle_pattern hsettle, Except.toOption, Option.bind_some]
    cases g.pattern.isSome <;> rfl

theorem long_bare {name : String} (h : '=' ∉ name.toList) :
    p.long v name.toList =
      match v.long? name with
      | none => .error .unknownArgument
      | some a => p.take a none := by
  have hname : ∀ c ∈ name.toList, decide (c ≠ '=') = true := fun c hc =>
    decide_eq_true fun heq => h (heq ▸ hc)
  rw [long, List.takeWhile_eq_self_iff.2 hname, List.dropWhile_eq_nil_iff.2 hname,
    String.ofList_toList]
  cases v.long? name <;> simp

theorem long_equals {name : String} (h : '=' ∉ name.toList) (value : String) :
    p.long v (name.toList ++ '=' :: value.toList) =
      match v.long? name with
      | none => .error .unknownArgument
      | some a => if a.takesValue then p.take a (some value) else .error .unexpectedValue := by
  have hname : ∀ c ∈ name.toList, decide (c ≠ '=') = true := fun c hc =>
    decide_eq_true fun heq => h (heq ▸ hc)
  rw [long, List.takeWhile_append_of_pos hname, List.dropWhile_append_of_pos hname]
  cases hlong : v.long? name with
  | none => simp [hlong]
  | some a => cases htakes : a.takesValue <;> simp [hlong, htakes]

theorem short_flag {c : Char} {a : Argument} (h : v.short? c = some a)
    (hflag : a.takesValue = false) (cs : List Char) :
    p.short v (c :: cs) = (p.take a none).bind fun p => p.short v cs := by
  simp [short, h, hflag]

theorem short_next {c : Char} {a : Argument} (h : v.short? c = some a)
    (hoption : a.takesValue = true) : p.short v [c] = p.take a none := by
  simp [short, h, hoption]

theorem short_equals {c : Char} {a : Argument} (h : v.short? c = some a)
    (hoption : a.takesValue = true) (value : String) :
    p.short v (c :: '=' :: value.toList) = p.take a (some value) := by
  simp [short, h, hoption]

theorem short_attached {c : Char} {a : Argument} (h : v.short? c = some a)
    (hoption : a.takesValue = true) {value : String} (nonempty : value ≠ "")
    (separate : value.toList.head? ≠ some '=') :
    p.short v (c :: value.toList) = p.take a (some value) := by
  obtain ⟨d, ds, hvalue⟩ := exists_cons_of_ne nonempty
  have hd : d ≠ '=' := by simpa [hvalue] using separate
  have htext : String.ofList (d :: ds) = value := by rw [← hvalue, String.ofList_toList]
  rw [hvalue, short, h]
  simp [hoption, hd, htext]

/-! ## What is spelled decides -/

/-- Whatever has been taken before, `rest` succeeds as collecting the arguments `os` does. -/
def Collects (rest : Progress → Except UsageError Given) (os : List Occurrence) : Prop :=
  ∀ p : Progress, ¬ p.Waits →
    (rest p).toOption = p.settle.toOption.bind fun g => g.collect os

namespace Collects

variable {rest rest' : Progress → Except UsageError Given} {os : List Occurrence}

theorem congr (h : Collects rest os) (heq : ∀ p : Progress, ¬ p.Waits → rest' p = rest p) :
    Collects rest' os := fun p hp => (congrArg _ (heq p hp)).trans (h p hp)

theorem settle : Collects settle [] := fun _ _ => (Option.bind_fun_some _).symm

/-- The arguments taken so far, with nothing left to look at. -/
theorem of_given (h : Collects rest os) (g : Given) :
    (rest { given := g }).toOption = g.collect os :=
  h { given := g } (by rintro ⟨a, ha⟩; cases ha)

/-- The argument taken last, with its value left to look at. -/
theorem of_pending (h : Collects rest os) (g : Given) (a : Argument) (text : String) :
    (rest ⟨g, some (a, some text)⟩).toOption = g.collect ((a, some text) :: os) :=
  h ⟨g, some (a, some text)⟩ (by rintro ⟨b, hb⟩; cases hb)

theorem unnamed (h : Collects rest os) (word : String) :
    Collects (fun p => (p.unnamed word).bind rest) ((.pattern, some word) :: os) := by
  intro p _
  change ((p.unnamed word).bind rest).toOption = _
  rw [toOption_bind, unnamed_eq, Option.bind_assoc]
  refine Option.bind_congr fun g _ => ?_
  cases hpattern : g.pattern with
  | none => exact h.of_pending g .pattern word
  | some before =>
    -- A second pattern is refused as a word here, and as an argument given twice when collected.
    have hrefused : g.receive (.pattern, some word) = .error .conflict := by
      simp [Given.receive, Given.put, Given.once, hpattern, Except.map]
    rw [Given.collect_cons, hrefused]
    rfl

theorem whole (h : Collects rest os) {a : Argument} {value : Option String}
    (hvalue : value.isSome = a.takesValue) :
    Collects (fun p => (p.take a value).bind rest) ((a, value) :: os) := by
  intro p _
  change ((p.take a value).bind rest).toOption = _
  rw [take_whole hvalue, toOption_bind, toOption_bind, Option.bind_assoc]
  refine Option.bind_congr fun g _ => ?_
  rw [toOption_map, Option.bind_map, Given.collect_cons]
  exact Option.bind_congr fun g' _ => h.of_given g'

theorem flag (h : Collects rest os) {a : Argument} (hflag : a.takesValue = false) :
    Collects (fun p => (p.take a none).bind rest) ((a, none) :: os) := h.whole hflag.symm

theorem value (h : Collects rest os) {a : Argument} (hoption : a.takesValue = true)
    (text : String) :
    Collects (fun p => (p.take a (some text)).bind rest) ((a, some text) :: os) :=
  h.whole hoption.symm

/-- The value of an option is the next word. -/
theorem next {v : Verb} {words : List String} (h : Collects (finish v false words) os)
    {a : Argument} (hoption : a.takesValue = true) {value : String} (plain : IsPlain value) :
    Collects (fun p => (p.take a none).bind (finish v false (value :: words)))
      ((a, some value) :: os) := by
  intro p _
  change ((p.take a none).bind _).toOption = _
  rw [take_next hoption, toOption_bind, toOption_map, Option.bind_map]
  refine Option.bind_congr fun g _ => ?_
  rw [Function.comp_apply, finish_value plain]
  exact h.of_pending g a value

end Collects

/-- Behind two hyphens all words are taken for patterns. -/
theorem collects_patterns (words : List String) :
    Collects (finish v true words) (words.map fun word => (.pattern, some word)) := by
  induction words with
  | nil => exact .settle
  | cons word words ih => exact (ih.unnamed word).congr fun p _ => finish_pattern word words

/-- The arguments that words spell decide what is taken from the words. -/
theorem collects_of_spells {cs : List Char} {words : List String} {os : List Occurrence}
    (h : Spells v cs words os) :
    Collects (fun p => (p.short v cs).bind (finish v false words)) os := by
  induction h with
  | nil => exact .settle
  | patterns words => exact (collects_patterns words).congr fun p _ => finish_patterns words
  | pattern plain rest ih =>
    exact (Collects.unnamed ih _).congr fun p hp => finish_unnamed hp plain _
  | longFlag named flag rest ih =>
    refine (Collects.flag ih flag).congr fun p _ =>
      (finish_long (long?_spec named).1 _).trans ?_
    rw [long_bare (long?_spec named).2, named]
    rfl
  | longNext named option plain rest ih =>
    refine (Collects.next ih option plain).congr fun p _ =>
      (finish_long (long?_spec named).1 _).trans ?_
    rw [long_bare (long?_spec named).2, named]
  | @longEquals a name value words os named option rest ih =>
    have hlist : (name ++ "=" ++ value).toList = name.toList ++ '=' :: value.toList := by simp
    have hname : name ++ "=" ++ value ≠ "" := fun hempty => by
      simpa [hlist] using congrArg String.toList hempty
    refine (Collects.value ih option _).congr fun p _ => (finish_long hname _).trans ?_
    rw [hlist, long_equals (long?_spec named).2, named]
    simp only [option, if_pos]
    rfl
  | letters nonempty single rest ih =>
    exact ih.congr fun p _ => finish_letters nonempty single _
  | flag named flag rest ih =>
    refine (Collects.flag ih flag).congr fun p _ => ?_
    rw [short_flag named flag, except_bind_assoc]
  | next named option plain rest ih =>
    refine (Collects.next ih option plain).congr fun p _ => ?_
    rw [short_next named option]
  | equals named option rest ih =>
    refine (Collects.value ih option _).congr fun p _ => ?_
    rw [short_equals named option]
    rfl
  | attached named option nonempty separate rest ih =>
    refine (Collects.value ih option _).congr fun p _ => ?_
    rw [short_attached named option nonempty separate]
    rfl

/-! ## What is taken is spelled -/

/-- What has been taken before an argument is looked at with it; an option without a value of its
own waits for one. -/
theorem spec_of_take {p' : Progress} {a : Argument} {text : Option String}
    (h : p.take a text = .ok p') :
    ¬ p.Waits ∧ (p'.Waits ↔ a.takesValue = true ∧ text = none) := by
  rw [take] at h
  obtain ⟨g, hsettle, h⟩ := exists_of_bind_eq_ok h
  refine ⟨not_waits_of_settle hsettle, ?_⟩
  cases htakes : a.takesValue with
  | false =>
    rw [htakes] at h
    obtain ⟨g', -, hp'⟩ := exists_of_bind_eq_ok h
    obtain rfl := Except.ok.inj hp'
    simp [Waits]
  | true =>
    rw [htakes] at h
    cases text with
    | none =>
      obtain rfl := Except.ok.inj h
      simp [Waits]
    | some text =>
      obtain ⟨g', -, hp'⟩ := exists_of_bind_eq_ok h
      obtain rfl := Except.ok.inj hp'
      simp [Waits]

/-- A word with two hyphens names an argument, with a value behind an equals sign or without one. -/
theorem cases_of_long {p' : Progress} {word : String} (h : p.long v word.toList = .ok p') :
    (∃ a, v.long? word = some a ∧ p.take a none = .ok p') ∨
      ∃ a name value, v.long? name = some a ∧ a.takesValue = true ∧
        word = name ++ "=" ++ value ∧ p.take a (some value) = .ok p' := by
  by_cases hmem : '=' ∈ word.toList
  · obtain ⟨cs, ds, hsplit, hno⟩ := List.eq_append_cons_of_mem hmem
    have hname : '=' ∉ (String.ofList cs).toList := by simpa using hno
    have hlong := long_equals (v := v) (p := p) hname (String.ofList ds)
    rw [String.toList_ofList, String.toList_ofList, ← hsplit, h] at hlong
    right
    cases hname : v.long? (String.ofList cs) with
    | none =>
      rw [hname] at hlong
      cases hlong
    | some a =>
      rw [hname] at hlong
      cases htakes : a.takesValue with
      | false => simp [htakes] at hlong
      | true =>
        refine ⟨a, _, String.ofList ds, hname, htakes, ?_, by simpa [htakes] using hlong.symm⟩
        rw [← String.toList_inj, hsplit]
        simp
  · rw [long_bare hmem] at h
    cases hname : v.long? word with
    | none =>
      rw [hname] at h
      cases h
    | some a =>
      rw [hname] at h
      exact .inl ⟨a, rfl, h⟩

/-- The first letter behind a hyphen names a flag, with the other letters for themselves, or an
option, with its value in the next word, behind an equals sign or right behind the letter. -/
theorem cases_of_short {p' : Progress} {c : Char} {cs : List Char}
    (h : p.short v (c :: cs) = .ok p') :
    ∃ a, v.short? c = some a ∧
      ((a.takesValue = false ∧ ∃ p₁, p.take a none = .ok p₁ ∧ p₁.short v cs = .ok p') ∨
      (a.takesValue = true ∧ cs = [] ∧ p.take a none = .ok p') ∨
      ∃ value : String, a.takesValue = true ∧
        (cs = '=' :: value.toList ∨
          value ≠ "" ∧ value.toList.head? ≠ some '=' ∧ cs = value.toList) ∧
        p.take a (some value) = .ok p') := by
  cases hname : v.short? c with
  | none =>
    rw [short, hname] at h
    cases h
  | some a =>
    refine ⟨a, rfl, ?_⟩
    cases htakes : a.takesValue with
    | false =>
      rw [short_flag hname htakes] at h
      exact .inl ⟨rfl, exists_of_bind_eq_ok h⟩
    | true =>
      rcases cs with _ | ⟨d, ds⟩
      · rw [short_next hname htakes] at h
        exact .inr (.inl ⟨rfl, rfl, h⟩)
      · by_cases hd : d = '='
        · subst hd
          have htake := short_equals (v := v) (p := p) hname htakes (String.ofList ds)
          rw [String.toList_ofList, h] at htake
          exact .inr (.inr ⟨String.ofList ds, rfl, .inl (by simp), htake.symm⟩)
        · have hnonempty : String.ofList (d :: ds) ≠ "" := by simp
          have hseparate : (String.ofList (d :: ds)).toList.head? ≠ some '=' := by simpa using hd
          have htake := short_attached (v := v) (p := p) hname htakes hnonempty hseparate
          rw [String.toList_ofList, h] at htake
          exact .inr (.inr ⟨_, rfl, .inr ⟨hnonempty, hseparate, by simp⟩, htake.symm⟩)

theorem not_waits_of_short {p' : Progress} {c : Char} {cs : List Char}
    (h : p.short v (c :: cs) = .ok p') : ¬ p.Waits := by
  obtain ⟨a, -, ⟨-, p₁, htake, -⟩ | ⟨-, -, htake⟩ | ⟨value, -, -, htake⟩⟩ := cases_of_short h
  all_goals exact (spec_of_take htake).1

/-- Words spell arguments; where a value is still to come, the first word is the value. -/
def Spelled (v : Verb) (p : Progress) (words : List String) : Prop :=
  (¬ p.Waits → ∃ os, Spells v [] words os) ∧
    (p.Waits → ∃ value rest os, words = value :: rest ∧ IsPlain value ∧ Spells v [] rest os)

theorem spelled_letters {p' : Progress} {words : List String} (hwords : Spelled v p' words)
    {cs : List Char} (hp : ¬ p.Waits) (h : p.short v cs = .ok p') : ∃ os, Spells v cs words os := by
  induction cs generalizing p with
  | nil =>
    obtain rfl := Except.ok.inj h
    exact hwords.1 hp
  | cons c cs ih =>
    obtain ⟨a, named, ⟨flag, p₁, htake, hrest⟩ | ⟨option, rfl, htake⟩ |
      ⟨value, option, hvalue, htake⟩⟩ := cases_of_short h
    · obtain ⟨os, hos⟩ := ih (by simp [(spec_of_take htake).2, flag]) hrest
      exact ⟨_, .flag named flag hos⟩
    · obtain ⟨value, rest, os, rfl, plain, hos⟩ :=
        hwords.2 ((spec_of_take htake).2.2 ⟨option, rfl⟩)
      exact ⟨_, .next named option plain hos⟩
    · obtain ⟨os, hos⟩ := hwords.1 (by simp [(spec_of_take htake).2])
      obtain rfl | ⟨nonempty, separate, rfl⟩ := hvalue
      · exact ⟨_, .equals named option hos⟩
      · exact ⟨_, .attached named option nonempty separate hos⟩

theorem not_waits_of_unnamed {p' : Progress} {word : String} (h : p.unnamed word = .ok p') :
    ¬ p.Waits ∧ ¬ p'.Waits := by
  have hunnamed := unnamed_eq (p := p) word
  rw [h] at hunnamed
  obtain ⟨g, hsettle, hp'⟩ := Option.bind_eq_some_iff.1 hunnamed.symm
  obtain ⟨-, hp'⟩ := Option.ite_none_left_eq_some.1 hp'
  obtain rfl := Option.some.inj hp'
  exact ⟨not_waits_of_settle (toOption_eq_some_iff.1 hsettle), by simp [Waits]⟩

theorem not_waits_of_patterns {words : List String} {g : Given}
    (h : p.finish v true words = .ok g) : ¬ p.Waits := by
  cases words with
  | nil => exact not_waits_of_settle h
  | cons word words =>
    rw [finish_pattern] at h
    obtain ⟨p', hunnamed, -⟩ := exists_of_bind_eq_ok h
    exact (not_waits_of_unnamed hunnamed).1

theorem spelled_long {p' : Progress} {words : List String} (hwords : Spelled v p' words)
    {word : String} (h : p.long v word.toList = .ok p') :
    Spelled v p (("--" ++ word) :: words) := by
  obtain ⟨a, named, htake⟩ | ⟨a, name, value, named, option, rfl, htake⟩ := cases_of_long h
  · obtain ⟨hp, hwaits⟩ := spec_of_take htake
    refine ⟨fun _ => ?_, fun hw => absurd hw hp⟩
    cases htakes : a.takesValue with
    | false =>
      obtain ⟨os, hos⟩ := hwords.1 (by simp [hwaits, htakes])
      exact ⟨_, .longFlag named htakes hos⟩
    | true =>
      obtain ⟨value, rest, os, rfl, plain, hos⟩ := hwords.2 (hwaits.2 ⟨htakes, rfl⟩)
      exact ⟨_, .longNext named htakes plain hos⟩
  · obtain ⟨hp, hwaits⟩ := spec_of_take htake
    refine ⟨fun _ => ?_, fun hw => absurd hw hp⟩
    obtain ⟨os, hos⟩ := hwords.1 (by simp [hwaits])
    exact ⟨_, .longEquals named option hos⟩

/-- Words that are taken spell arguments. -/
theorem spelled_of_finish {words : List String} {g : Given}
    (h : p.finish v false words = .ok g) : Spelled v p words := by
  induction words generalizing p with
  | nil =>
    have hp := not_waits_of_settle h
    exact ⟨fun _ => ⟨[], .nil⟩, fun hw => absurd hw hp⟩
  | cons word words ih =>
    -- How the word begins decides which rule it is spelled by; what waits excludes all but the
    -- last.
    rcases word_cases word with rfl | ⟨name, hname, rfl⟩ | ⟨text, nonempty, single, rfl⟩ | plain
    · rw [finish_patterns] at h
      exact ⟨fun _ => ⟨_, .patterns words⟩, fun hw => absurd hw (not_waits_of_patterns h)⟩
    · rw [finish_long hname] at h
      obtain ⟨p', hlong, hrest⟩ := exists_of_bind_eq_ok h
      exact spelled_long (ih hrest) hlong
    · rw [finish_letters nonempty single] at h
      obtain ⟨p', hshort, hrest⟩ := exists_of_bind_eq_ok h
      obtain ⟨c, cs, htext⟩ := exists_cons_of_ne nonempty
      have hp : ¬ p.Waits := not_waits_of_short (htext ▸ hshort)
      obtain ⟨os, hos⟩ := spelled_letters (ih hrest) hp hshort
      exact ⟨fun _ => ⟨os, .letters nonempty single hos⟩, fun hw => absurd hw hp⟩
    · by_cases hp : p.Waits
      · obtain ⟨given, pending⟩ := p
        obtain ⟨a, rfl⟩ := hp
        rw [finish_value plain] at h
        obtain ⟨os, hos⟩ := (ih h).1 (by simp [Waits])
        exact ⟨fun hnot => absurd ⟨a, rfl⟩ hnot, fun _ => ⟨word, words, os, rfl, plain, hos⟩⟩
      · rw [finish_unnamed hp plain] at h
        obtain ⟨p', hunnamed, hrest⟩ := exists_of_bind_eq_ok h
        obtain ⟨os, hos⟩ := (ih hrest).1 (not_waits_of_unnamed hunnamed).2
        exact ⟨fun _ => ⟨_, .pattern plain hos⟩, fun hw => absurd hw hp⟩

end Progress

/-! ## Whole command lines -/

theorem Spells.ofWords_eq {v : Verb} {words : List String} {os : List Occurrence}
    (h : Spells v [] words os) : (Given.ofWords v words).toOption = Given.collect {} os :=
  (Progress.collects_of_spells h).of_given {}

theorem exists_spells {v : Verb} {words : List String} {g : Given}
    (h : Given.ofWords v words = .ok g) : ∃ os, Spells v [] words os :=
  (Progress.spelled_of_finish (p := {}) h).1 (by simp [Progress.Waits])

/-- What words give is what the arguments give that they spell. -/
theorem ofWords_eq_ok_iff {v : Verb} {words : List String} {g : Given} :
    Given.ofWords v words = .ok g ↔
      ∃ os, Spells v [] words os ∧ Given.collect {} os = some g := by
  constructor
  · intro h
    obtain ⟨os, hos⟩ := exists_spells h
    exact ⟨os, hos, by rw [← hos.ofWords_eq, h, Except.toOption]⟩
  · rintro ⟨os, hos, hcollect⟩
    rw [← hos.ofWords_eq] at hcollect
    exact toOption_eq_some_iff.1 hcollect

end TransitionMap.CommandLine
