import TransitionMap.Proofs.Consuming
import TransitionMap.Proofs.Numbering
import TransitionMap.Proofs.Renaming

/-!
# Counting accepting states in a table

A table knows an accepting state only as the target of entries that carry the accepting flag.
Counted by their numbers, these are the accepting states that some transition leads to
(`Automaton.acceptingTargets_entries`), because different states have different numbers. All
reachable states but the start are led to, so no accepting state is missed except, possibly, the
start (`Automaton.accepting_eq_of_entered`, `Automaton.accepting_eq_insert`).
`Table.acceptingTargets_of_plan` puts both together.
-/

namespace TransitionMap

namespace Table

/-- The numbers that entries with the accepting flag lead to. -/
theorem acceptingTargets_eq_card (t : Table) :
    t.acceptingTargets =
      ((t.entries.filter (·.value.accepting)).map (·.value.state)).toFinset.card := by
  rw [acceptingTargets, OrderedSet.size_eq_length, OrderedSet.length_ofList]

theorem acceptingTargets_le_size (t : Table) : t.acceptingTargets ≤ t.size := by
  rw [acceptingTargets_eq_card]
  calc _ ≤ ((t.entries.filter (·.value.accepting)).map (·.value.state)).length :=
        List.toFinset_card_le _
    _ ≤ t.size := by
        rw [List.length_map]
        exact List.length_filter_le _ _

end Table

namespace Automaton

variable {σ : Type}

theorem Entered.reaches {a : Automaton σ} {s : σ} (h : a.Entered s) : a.Reaches s := by
  obtain ⟨r, hr, hmem⟩ := h
  exact Relation.ReflTransGen.tail hr hmem

/-! ## The accepting states that are led to -/

/-- An accepting start that no transition leads to is the one accepting state that is not led
to. -/
theorem accepting_eq_insert {a : Automaton σ} (h : a.accepting a.start) :
    {s | a.Reaches s ∧ a.accepting s} = insert a.start {s | a.Entered s ∧ a.accepting s} := by
  ext s
  constructor
  · rintro ⟨hs, haccepting⟩
    exact hs.entered.imp id fun hentered => ⟨hentered, haccepting⟩
  · rintro (rfl | ⟨hentered, haccepting⟩)
    · exact ⟨.refl, h⟩
    · exact ⟨hentered.reaches, haccepting⟩

theorem accepting_eq_of_entered {a : Automaton σ} (h : a.accepting a.start → a.Entered a.start) :
    {s | a.Reaches s ∧ a.accepting s} = {s | a.Entered s ∧ a.accepting s} := by
  ext s
  refine and_congr_left fun haccepting => ⟨fun hs => ?_, Entered.reaches⟩
  rcases hs.entered with rfl | hentered
  · exact h haccepting
  · exact hentered

variable [DecidableEq σ] [Hashable σ] {a : Automaton σ}

theorem finite_reaches (a : Automaton σ) : {s | a.Reaches s}.Finite :=
  a.enumerate.finite_toSet.subset fun s hs => (a.mem_enumerate_iff s).2 hs

/-- An entry carries the flag of the state it leads to. -/
theorem mem_acceptingNumbers_iff {n : StateId} :
    n ∈ (a.entries.filter (·.value.accepting)).map (·.value.state) ↔
      ∃ s, (a.Entered s ∧ a.accepting s) ∧ a.number s = n := by
  simp only [List.mem_map, List.mem_filter, mem_entries]
  constructor
  · rintro ⟨e, ⟨⟨r, hr, t, ht, rfl⟩, haccepting⟩, rfl⟩
    refine ⟨t.2, ⟨⟨r, hr, List.mem_map_of_mem ht⟩, ?_⟩, rfl⟩
    rwa [← accepting_value (a := a)]
  · rintro ⟨s, ⟨⟨r, hr, hmem⟩, haccepting⟩, rfl⟩
    obtain ⟨t, ht, rfl⟩ := List.mem_map.1 hmem
    refine ⟨a.entry r t, ⟨⟨r, hr, t, ht, rfl⟩, ?_⟩, rfl⟩
    exact (accepting_value t.2).trans haccepting

/-- Different states have different numbers, so the numbers count the states. -/
theorem acceptingTargets_entries (hsize : a.enumerate.length ≤ StateId.count) (stateCount : Nat) :
    (Table.mk a.entries stateCount).acceptingTargets =
      {s | a.Entered s ∧ a.accepting s}.ncard := by
  have himage : a.number '' {s | a.Entered s ∧ a.accepting s} =
      (((a.entries.filter (·.value.accepting)).map (·.value.state)).toFinset : Set StateId) := by
    ext n
    rw [Finset.mem_coe, List.mem_toFinset, mem_acceptingNumbers_iff]
    rfl
  have hinjective : Set.InjOn a.number {s | a.Entered s ∧ a.accepting s} := by
    intro s hs t ht heq
    exact number_injective hsize ((a.mem_enumerate_iff s).2 hs.1.reaches)
      ((a.mem_enumerate_iff t).2 ht.1.reaches) heq
  rw [Table.acceptingTargets_eq_card, ← Set.ncard_coe_finset, ← himage,
    hinjective.ncard_image]

end Automaton

namespace Table

variable {σ : Type} [DecidableEq σ] [Hashable σ] {a : Automaton σ}

/-- The number of accepting targets that checking reports is that of the accepting states that can
be reached; only a start that accepts and that no reachable state has a transition to is not counted
with them. It is never more than the number of states, nor than that of entries. -/
theorem acceptingTargets_of_plan {maxStates : Nat} {table : Table}
    (planned : plan a maxStates = .ok table) :
    (a.accepting a.start ∧ ¬ a.Entered a.start →
      table.acceptingTargets + 1 = {s | a.Reaches s ∧ a.accepting s}.ncard) ∧
    (¬ (a.accepting a.start ∧ ¬ a.Entered a.start) →
      table.acceptingTargets = {s | a.Reaches s ∧ a.accepting s}.ncard) ∧
    table.acceptingTargets ≤ table.stateCount ∧ table.acceptingTargets ≤ table.size := by
  obtain ⟨rfl, hsize, -⟩ := eq_of_plan_eq_ok planned
  have hcount := Automaton.acceptingTargets_entries hsize a.enumerate.length
  have hsubset : {s | a.Entered s ∧ a.accepting s} ⊆ {s | a.Reaches s} :=
    fun s hs => hs.1.reaches
  refine ⟨fun ⟨haccepting, hnot⟩ => ?_, fun h => ?_, ?_, acceptingTargets_le_size _⟩
  · rw [hcount, Automaton.accepting_eq_insert haccepting,
      Set.ncard_insert_of_notMem (fun hmem => hnot hmem.1) (a.finite_reaches.subset hsubset)]
  · rw [hcount, Automaton.accepting_eq_of_entered fun haccepting =>
      not_not.1 fun hnot => h ⟨haccepting, hnot⟩]
  · rw [hcount]
    exact (Set.ncard_le_ncard hsubset a.finite_reaches).trans_eq a.length_enumerate.symm

/-- Both states accept, but no transition leads back to the start. -/
theorem acceptingTargets_of_left_start :
    let a := (Arena.mk #[⟨none, true, [(97, 1), (98, 1)]⟩, ⟨none, true, []⟩] 0).toAutomaton
    let table : Table := ⟨[⟨⟨0, 97, 0⟩, ⟨1, 1⟩⟩, ⟨⟨0, 98, 0⟩, ⟨1, 1⟩⟩], 2⟩
    plan a 10 = .ok table ∧ a.accepting a.start ∧ ¬ a.Entered a.start ∧
      table.acceptingTargets + 1 = {s | a.Reaches s ∧ a.accepting s}.ncard ∧
      table.acceptingTargets ≤ 2 := by
  intro a table
  have planned : plan a 10 = .ok table := by
    simp only [a]
    cbv
  have haccepting : a.accepting a.start := rfl
  have hnot : ¬ a.Entered a.start := by
    rintro ⟨_ | _ | r, -, hmem⟩
    · exact absurd hmem (by decide)
    · exact absurd hmem (by decide)
    · exact absurd hmem List.not_mem_nil
  have hcounts := acceptingTargets_of_plan planned
  exact ⟨planned, haccepting, hnot, hcounts.1 ⟨haccepting, hnot⟩, hcounts.2.2.1⟩

end Table

end TransitionMap
