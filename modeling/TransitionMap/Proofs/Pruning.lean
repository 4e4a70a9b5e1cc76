import TransitionMap.Machine.Tabled
import TransitionMap.Proofs.Walks

/-!
# Leaving out transitions loses no accepted word

An automaton *prunes* a machine when it has the transitions of the machine but for those to spent
states. If nothing leads out of dead states and none of them reports a match (`Machine.Sealed`), no
word that the machine accepts passes through a spent state (`not_isSpent_of_accepting_after`), so
that the automaton walks every such word, and accepts the same words (`Prunes.accepts_eq`,
`Prunes.keepsWords`).
-/

namespace TransitionMap

/-! ## All bytes -/

theorem mem_allBytes (b : UInt8) : b ∈ allBytes :=
  List.mem_map.2 ⟨b.toNat, List.mem_range.2 b.toNat_lt, UInt8.ofNat_toNat⟩

theorem pairwise_allBytes : allBytes.Pairwise (· < ·) := by
  rw [allBytes, List.pairwise_map]
  refine List.pairwise_lt_range.imp_of_mem fun {i j} hi hj hij => ?_
  have hi := List.mem_range.1 hi
  have hj := List.mem_range.1 hj
  rw [UInt8.lt_iff_toNat_lt, UInt8.toNat_ofNat_of_lt' hi, UInt8.toNat_ofNat_of_lt' hj]
  exact hij

namespace Machine

variable {σ : Type} (m : Machine σ)

/-! ## Runs -/

@[simp] theorem after_nil (s : σ) : m.after s [] = s := rfl

@[simp] theorem after_cons (s : σ) (b : UInt8) (word : Bytes) :
    m.after s (b :: word) = m.after (m.next s (some b)) word := rfl

theorem after_append (s : σ) (u v : Bytes) : m.after s (u ++ v) = m.after (m.after s u) v :=
  List.foldl_append

theorem after_concat (s : σ) (word : Bytes) (b : UInt8) :
    m.after s (word ++ [b]) = m.next (m.after s word) (some b) := m.after_append s word [b]

/-- A state that some word leads to. -/
def Occurs (s : σ) : Prop := ∃ word, s = m.after m.start word

theorem occurs_start : m.Occurs m.start := ⟨[], rfl⟩

variable {m}

theorem Occurs.next {s : σ} (h : m.Occurs s) (b : UInt8) : m.Occurs (m.next s (some b)) := by
  obtain ⟨word, rfl⟩ := h
  exact ⟨word ++ [b], (m.after_concat m.start word b).symm⟩

/-! ## Transitions -/

theorem mem_transitions_iff {dropped : σ → Bool} {s : σ} {b : UInt8} {t : σ} :
    (b, t) ∈ m.transitions dropped s ↔ dropped t = false ∧ t = m.next s (some b) := by
  simp only [transitions, List.mem_filterMap]
  constructor
  · rintro ⟨c, -, hc⟩
    split at hc
    · cases hc
    · obtain ⟨rfl, rfl⟩ := Prod.mk.inj (Option.some.inj hc)
      exact ⟨Bool.eq_false_iff.2 ‹_›, rfl⟩
  · rintro ⟨hkept, rfl⟩
    exact ⟨b, mem_allBytes b, by simp [hkept]⟩

theorem pairwise_transitions (dropped : σ → Bool) (s : σ) :
    (m.transitions dropped s).Pairwise fun t u => t.1 < u.1 := by
  rw [transitions, List.pairwise_filterMap]
  refine pairwise_allBytes.imp fun {b c} hlt t ht u hu => ?_
  simp only [Option.ite_none_left_eq_some, Option.some.injEq] at ht hu
  obtain ⟨-, rfl⟩ := ht
  obtain ⟨-, rfl⟩ := hu
  exact hlt

/-! ## Dead and spent states -/

/-- Nothing leads out of the dead states that occur, and none of them reports a match. -/
structure Sealed (m : Machine σ) : Prop where
  isMatch : ∀ s, m.Occurs s → m.isDead s = true → m.isMatch s = false
  next : ∀ s, m.Occurs s → m.isDead s = true → ∀ x, m.next s x = s

theorem Sealed.after {s : σ} (h : m.Sealed) (hs : m.Occurs s) (hdead : m.isDead s = true)
    (word : Bytes) :
    m.after s word = s := by
  induction word with
  | nil => rfl
  | cons b rest ih => rw [after_cons, h.next s hs hdead, ih]

theorem Sealed.accepting_after {s : σ} (h : m.Sealed) (hs : m.Occurs s) (hdead : m.isDead s = true)
    (word : Bytes) : m.accepting (m.after s word) = false := by
  rw [h.after hs hdead, accepting, h.next s hs hdead, h.isMatch s hs hdead]

/-- A state from which some word is accepted is not spent. -/
theorem not_isSpent_of_accepting_after {s : σ} (h : m.Sealed) (hs : m.Occurs s) {word : Bytes}
    (hacc : m.accepting (m.after s word) = true) : m.isSpent s = false := by
  have halive : m.isDead s = false := by
    by_contra hdead
    rw [h.accepting_after hs (Bool.eq_true_of_not_eq_false hdead)] at hacc
    cases hacc
  rw [isSpent, halive, Bool.false_or, Bool.and_eq_false_iff]
  cases word with
  | nil => exact .inl (by simpa using hacc)
  | cons b rest =>
    refine .inr (Bool.eq_false_iff.2 fun hend => ?_)
    have hdead := List.all_eq_true.1 hend b (mem_allBytes b)
    rw [after_cons, h.accepting_after (hs.next b) hdead] at hacc
    cases hacc

end Machine

/-! ## Pruned automata -/

/-- The automaton of a machine without the transitions to spent states. -/
structure Prunes {σ : Type} (a : Automaton σ) (m : Machine σ) : Prop where
  start : a.start = m.start
  transitions : ∀ s, a.transitions s = m.transitions m.isSpent s
  accepting : ∀ s, a.accepting s = m.accepting s

namespace Prunes

variable {σ : Type} {a : Automaton σ} {m : Machine σ} (h : Prunes a m)
include h

/-- A step goes where the machine goes, and to no spent state. -/
theorem step?_eq_some {s t : σ} {b : UInt8} (hstep : a.step? s b = some t) :
    m.isSpent t = false ∧ t = m.next s (some b) := by
  have hmem := Automaton.step?_eq_some hstep
  rwa [h.transitions, Machine.mem_transitions_iff] at hmem

theorem step?_eq (s : σ) (b : UInt8) :
    a.step? s b =
      if m.isSpent (m.next s (some b)) then none else some (m.next s (some b)) := by
  cases hstep : a.step? s b with
  | none =>
    split
    · rfl
    · refine absurd rfl (Automaton.step?_eq_none_iff.1 hstep (b, m.next s (some b)) ?_)
      rw [h.transitions, Machine.mem_transitions_iff]
      exact ⟨Bool.eq_false_iff.2 ‹_›, rfl⟩
  | some t =>
    obtain ⟨hlive, rfl⟩ := h.step?_eq_some hstep
    rw [if_neg (by simp [hlive])]

/-- What is reached occurs in the machine and, unless it is the start, is not spent. -/
theorem occurs_of_reaches {s : σ} (hs : a.Reaches s) :
    m.Occurs s ∧ (s ≠ a.start → m.isSpent s = false) := by
  induction hs with
  | refl => exact ⟨h.start ▸ m.occurs_start, fun hne => absurd rfl hne⟩
  | tail _ hstep ih =>
    obtain ⟨⟨b, t⟩, hmem, rfl⟩ := List.mem_map.1 hstep
    rw [h.transitions, Machine.mem_transitions_iff] at hmem
    obtain ⟨hlive, rfl⟩ := hmem
    exact ⟨ih.1.next b, fun _ => hlive⟩

/-- A walk that is not stuck is where the machine is. -/
theorem run?_eq_some {s t : σ} {word : Bytes} (hrun : a.run? s word = some t) :
    t = m.after s word := by
  induction word generalizing s with
  | nil => exact (Option.some.inj hrun).symm
  | cons b rest ih =>
    rw [Automaton.run?, h.step?_eq] at hrun
    split at hrun
    · cases hrun
    · exact ih hrun

/-- The walk is not stuck in front of a place where a word is accepted. -/
theorem run?_of_accepting_after {s : σ} (hm : m.Sealed) (hs : m.Occurs s) {word rest : Bytes}
    (hacc : m.accepting (m.after s (word ++ rest)) = true) :
    a.run? s word = some (m.after s word) := by
  induction word generalizing s with
  | nil => rfl
  | cons b word ih =>
    have hlive : m.isSpent (m.next s (some b)) = false :=
      Machine.not_isSpent_of_accepting_after hm (hs.next b) hacc
    rw [Automaton.run?, h.step?_eq, hlive]
    exact ih (hs.next b) hacc

/-- Behind a step no walk is in a spent state. -/
theorem isSpent_of_run? {s t : σ} {word : Bytes} (hword : word ≠ [])
    (hrun : a.run? s word = some t) : m.isSpent t = false := by
  obtain ⟨u, b, rfl⟩ := (List.eq_nil_or_concat word).resolve_left hword
  rw [List.concat_eq_append, Automaton.run?_append] at hrun
  obtain ⟨r, -, hlast⟩ := Option.bind_eq_some_iff.1 hrun
  obtain ⟨q, hstep, hq⟩ := Option.bind_eq_some_iff.1 hlast
  obtain rfl := Option.some.inj hq
  exact (h.step?_eq_some hstep).1

/-- No word is accepted that goes on where a transition is missing. -/
theorem refused_of_step?_eq_none {s : σ} (hm : m.Sealed) (hs : m.Occurs s) {b : UInt8}
    (hstuck : a.step? s b = none) (rest : Bytes) :
    m.accepting (m.after s (b :: rest)) = false := by
  refine Bool.eq_false_iff.2 fun hacc => ?_
  have hlive := Machine.not_isSpent_of_accepting_after hm (hs.next b) hacc
  rw [h.step?_eq, hlive] at hstuck
  cases hstuck

/-- The words accepted are those after which the machine has a match at the end of the input. -/
theorem accepts_eq (hm : m.Sealed) (word : Bytes) :
    a.accepts word = m.accepting (m.after m.start word) := by
  rw [Automaton.accepts, h.start]
  cases hacc : m.accepting (m.after m.start word) with
  | true =>
    have hword : m.accepting (m.after m.start (word ++ [])) = true := by rwa [List.append_nil]
    rw [h.run?_of_accepting_after hm m.occurs_start hword, Option.any_some, h.accepting, hacc]
  | false =>
    cases hrun : a.run? m.start word with
    | none => rfl
    | some t => rw [Option.any_some, h.accepting, h.run?_eq_some hrun, hacc]

end Prunes

/-- The walk of an automaton consumes a word and ends in an accepting state exactly when a machine,
run over the word and then the end of the input, ends in a match state; and as long as the walk is
not stuck, both are in the same state. -/
structure KeepsWords {σ : Type} (a : Automaton σ) (m : Machine σ) : Prop where
  accepts_iff : ∀ word, (∃ s, a.run? a.start word = some s ∧ a.accepting s = true) ↔
    m.isMatch (m.next (m.after m.start word) none) = true
  same : ∀ word s, a.run? a.start word = some s → s = m.after m.start word

namespace Prunes

variable {σ : Type} {a : Automaton σ} {m : Machine σ}

theorem keepsWords (h : Prunes a m) (hm : m.Sealed) : KeepsWords a m where
  accepts_iff word := by
    constructor
    · rintro ⟨s, hrun, hacc⟩
      rw [h.start] at hrun
      rw [h.accepting, h.run?_eq_some hrun] at hacc
      exact hacc
    · intro hmatch
      have hword : m.accepting (m.after m.start (word ++ [])) = true := by
        rw [List.append_nil]
        exact hmatch
      have hrun := h.run?_of_accepting_after hm m.occurs_start hword
      refine ⟨m.after m.start word, ?_, ?_⟩
      · rw [h.start]
        exact hrun
      · rw [h.accepting]
        exact hmatch
  same word s hrun := by
    rw [h.start] at hrun
    exact h.run?_eq_some hrun

end Prunes

/-- Leaving out the transitions to spent states prunes a machine. -/
theorem Machine.prunes_pruned {σ : Type} (m : Machine σ) (states : List σ)
    (start_mem : m.start ∈ states) (closed : ∀ s ∈ states, ∀ x, m.next s x ∈ states)
    (describe : σ → String) :
    Prunes (m.pruned m.isSpent states start_mem closed describe) m where
  start := rfl
  transitions _ := rfl
  accepting _ := rfl

end TransitionMap
