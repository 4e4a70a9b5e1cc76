import TransitionMap.Proofs.Exploration

/-!
# Automata that cover others

An automaton *covers* another along a map of states when every transition out of the image of a
state is the image of a transition of the state. Then it reaches every state that the other reaches
(`Automaton.Covers.exists_reaches`), and so no fewer states
(`Automaton.Covers.length_enumerate_le`). An automaton *condenses* another when it accepts the same
words and has no more states that can be reached.
-/

namespace TransitionMap

namespace Automaton

variable {σ τ : Type}

/-- Every walk of `b` is the image of a walk of `a`. -/
structure Covers (a : Automaton σ) (b : Automaton τ) (f : σ → τ) : Prop where
  start : b.start = f a.start
  lift : ∀ s, a.Reaches s → ∀ x u, (x, u) ∈ b.transitions (f s) →
    ∃ t, (x, t) ∈ a.transitions s ∧ f t = u

namespace Covers

variable {a : Automaton σ} {b : Automaton τ} {f : σ → τ}

theorem exists_reaches (h : a.Covers b f) {u : τ} (hu : b.Reaches u) :
    ∃ s, a.Reaches s ∧ f s = u := by
  induction hu with
  | refl => exact ⟨a.start, .refl, h.start.symm⟩
  | tail _ hstep ih =>
    obtain ⟨s, hs, rfl⟩ := ih
    obtain ⟨⟨x, u⟩, hmem, rfl⟩ := List.mem_map.1 hstep
    obtain ⟨t, ht, rfl⟩ := h.lift s hs x u hmem
    exact ⟨t, hs.target ht, rfl⟩

variable [DecidableEq σ] [Hashable σ] [DecidableEq τ] [Hashable τ]

theorem length_enumerate_le (h : a.Covers b f) : b.enumerate.length ≤ a.enumerate.length := by
  have hsub : b.enumerate ⊆ a.enumerate.map f := by
    intro u hu
    obtain ⟨s, hs, rfl⟩ := h.exists_reaches ((b.mem_enumerate_iff u).1 hu)
    exact List.mem_map_of_mem ((a.mem_enumerate_iff s).2 hs)
  have hlength := (b.nodup_enumerate.subperm hsub).length_le
  rwa [List.length_map] at hlength

end Covers

/-- A walk consumes a word and ends in an accepting state in both automata or in none, and `b` has
no more states that can be reached than `a`. -/
structure Condenses [DecidableEq σ] [Hashable σ] [DecidableEq τ] [Hashable τ] (b : Automaton τ)
    (a : Automaton σ) : Prop where
  accepts_iff : ∀ word, (∃ s, b.run? b.start word = some s ∧ b.accepting s = true) ↔
    ∃ s, a.run? a.start word = some s ∧ a.accepting s = true
  length_enumerate_le : b.enumerate.length ≤ a.enumerate.length

end Automaton

end TransitionMap
