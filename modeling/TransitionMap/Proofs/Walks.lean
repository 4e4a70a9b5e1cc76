import TransitionMap.Proofs.Exploration

/-!
# Walks of an automaton

A step goes along a transition of the state (`step?_eq_some`), or there is none on the byte
(`step?_eq_none_iff`). A word is consumed when its walk has one state for each byte (`run?_eq`),
and then so are its beginnings (`run?_append`, `isSome_run?_of_accepts`).
-/

namespace TransitionMap

namespace Automaton

variable {σ : Type} {a : Automaton σ}

theorem step?_eq_some {s t : σ} {b : UInt8} (h : a.step? s b = some t) :
    (b, t) ∈ a.transitions s := by
  obtain ⟨u, hfind, rfl⟩ := Option.map_eq_some_iff.1 h
  have hb : u.1 = b := by simpa using List.find?_some hfind
  exact hb ▸ List.mem_of_find?_eq_some hfind

theorem step?_eq_none_iff {s : σ} {b : UInt8} :
    a.step? s b = none ↔ ∀ t ∈ a.transitions s, t.1 ≠ b := by
  simp [step?]

theorem Reaches.step {s t : σ} {b : UInt8} (hs : a.Reaches s) (h : a.step? s b = some t) :
    a.Reaches t :=
  hs.target (step?_eq_some h)

theorem run?_append (s : σ) (u v : Bytes) : a.run? s (u ++ v) = (a.run? s u).bind (a.run? · v) := by
  induction u generalizing s with
  | nil => rfl
  | cons b u ih =>
    rw [List.cons_append, run?, run?]
    cases a.step? s b with
    | none => rfl
    | some t => exact ih t

/-- A walk is not stuck in front of what it accepts. -/
theorem isSome_run?_of_accepts {u word : Bytes} (hbegins : u <+: word) (h : a.accepts word = true) :
    (a.run? a.start u).isSome = true := by
  obtain ⟨v, rfl⟩ := hbegins
  rw [accepts, run?_append] at h
  cases hrun : a.run? a.start u with
  | none => simp [hrun] at h
  | some t => rfl

/-- The places of a word that a walk comes to in an accepting state. -/
def acceptedAt (a : Automaton σ) (word : Bytes) : Set Nat :=
  {i | i ≤ word.length ∧ a.accepts (word.take i) = true}

/-- A word is consumed when the walk has one state for each of its bytes; it ends in the last of
them. -/
theorem run?_eq (s : σ) (word : Bytes) :
    a.run? s word =
      if (a.walkFrom s word).length = word.length then (s :: a.walkFrom s word).getLast?
      else none := by
  induction word generalizing s with
  | nil => rfl
  | cons b rest ih =>
    rw [run?, walkFrom]
    cases hstep : a.step? s b with
    | none => rfl
    | some t => simp [ih t]

theorem accepts_iff_of_ne_nil {word : Bytes} (hne : word ≠ []) :
    a.accepts word = true ↔ (a.walkFrom a.start word).length = word.length ∧
      (a.walkFrom a.start word).getLast?.any a.accepting = true := by
  rw [accepts, run?_eq]
  split
  case isTrue hlength =>
    have hwalk : a.walkFrom a.start word ≠ [] := by
      rw [← List.length_pos_iff, hlength]
      exact List.length_pos_iff.2 hne
    simp [List.getLast?_cons_of_ne_nil hwalk, hlength]
  case isFalse hlength => simp [hlength]

end Automaton

end TransitionMap
