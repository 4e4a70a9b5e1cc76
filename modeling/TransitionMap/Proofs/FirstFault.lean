import Mathlib.Data.List.Induction
import Mathlib.Data.List.Nodup

/-!
# The first fault in a list

Going through a list, what holds of the empty list is kept up to a first element that breaks it
(`exists_first_break`). So a list that has a repetition, or an element without some property, has a
first one: what comes before it is free of faults (`exists_first_repeat`, `exists_first_not`).
-/

namespace TransitionMap

theorem exists_first_break {α : Type} {p : List α → Prop} {l : List α} (nil : p []) (h : ¬ p l) :
    ∃ earlier a later, l = earlier ++ a :: later ∧ p earlier ∧ ¬ p (earlier ++ [a]) := by
  induction l using List.reverseRecOn with
  | nil => exact absurd nil h
  | append_singleton l a ih =>
    by_cases hl : p l
    · exact ⟨l, a, [], rfl, hl, h⟩
    · obtain ⟨earlier, b, later, rfl, hearlier, hb⟩ := ih hl
      exact ⟨earlier, b, later ++ [a], by simp, hearlier, hb⟩

theorem exists_first_repeat {α β : Type} {f : α → β} {l : List α}
    (h : ¬ (l.map f).Nodup) :
    ∃ earlier a later, l = earlier ++ a :: later ∧ (earlier.map f).Nodup ∧ f a ∈ earlier.map f := by
  obtain ⟨earlier, a, later, hl, hnodup, ha⟩ :=
    exists_first_break (p := fun l => (l.map f).Nodup) List.nodup_nil h
  refine ⟨earlier, a, later, hl, hnodup, ?_⟩
  by_contra hmem
  refine ha ?_
  rw [List.map_append]
  exact hnodup.append (List.nodup_singleton _) (by simpa using hmem)

theorem exists_first_not {α : Type} {p : α → Prop} {l : List α} (h : ¬ ∀ a ∈ l, p a) :
    ∃ before a after, l = before ++ a :: after ∧ (∀ b ∈ before, p b) ∧ ¬ p a := by
  obtain ⟨before, a, after, hl, hbefore, ha⟩ :=
    exists_first_break (p := fun l => ∀ a ∈ l, p a) (by simp) h
  refine ⟨before, a, after, hl, hbefore, fun hp => ha ?_⟩
  simpa [or_imp, forall_and] using And.intro hbefore hp

end TransitionMap
