import TransitionMap.Proofs.Building

/-!
# The numbers of states are dense

The states of a list are numbered from zero in the order in which they first come, and no number is
left out.

* `OrderedSet.getElem?_ofList`: where an element stands among those of a list, each counted once;
* `StateIds.id?_eq_some_iff_state?`: numbers and states lead to each other;
* `StateIds.numbers_pairs`, `StateIds.pairs_eq_filterMap`: the pairs have all numbers in their
  order, because every position fits a state field;
* `StateIds.assign_dense_bijection`: so a list is numbered densely, or has too many states.
-/

namespace TransitionMap

namespace OrderedSet

variable {α : Type} [DecidableEq α] [Hashable α]

/-- In front of an element stand those that have come before it, each once. -/
theorem getElem?_ofList {before : List α} {a : α} (after : List α) (first : a ∉ before) :
    (ofList (before ++ a :: after)).toList[before.toFinset.card]? = some a := by
  have hfresh : a ∉ (ofList before).toList := fun hmem => first ((mem_ofList before a).1 hmem)
  have hlist : ofList (before ++ a :: after) = ((ofList before).insert a).insertAll after :=
    ofList_append before (a :: after)
  have hlast : ((ofList before).insert a).toList[before.toFinset.card]? = some a := by
    rw [toList_insert, if_neg hfresh, ← length_ofList]
    exact List.getElem?_concat_length
  rw [hlist]
  exact getElem?_mono (prefix_insertAll _ after) hlast

end OrderedSet

namespace StateIds

variable {σ : Type} [DecidableEq σ] [Hashable σ] (ids : StateIds σ)

/-! ## States and numbers -/

theorem state?_eq (id : StateId) : ids.state? id = ids.states.toList[id.toNat]? :=
  OrderedSet.get?_eq _ _

theorem id?_eq_some_iff_state? (s : σ) (id : StateId) :
    ids.id? s = some id ↔ ids.state? id = some s := by
  rw [id?_eq_some_iff, state?_eq]

theorem id?_eq_none_iff (s : σ) : ids.id? s = none ↔ s ∉ ids.states.toList := by
  rw [← Option.not_isSome_iff_eq_none, isSome_id?_iff]

theorem state?_eq_none_iff (id : StateId) : ids.state? id = none ↔ ids.size ≤ id.toNat := by
  rw [state?_eq, List.getElem?_eq_none_iff, ← OrderedSet.size_eq_length]
  rfl

/-! ## Pairs -/

/-- A position of a numbered state is a number. -/
theorem ofIndex?_of_mem {p : σ × Nat} (h : p ∈ ids.states.toList.zipIdx) :
    StateId.ofIndex? p.2 = some (UInt16.ofNat p.2) ∧ (UInt16.ofNat p.2).toNat = p.2 := by
  have hle := ids.length_le
  have hlt := List.snd_lt_of_mem_zipIdx h
  have hfits : p.2 < StateId.count := by omega
  exact ⟨if_pos hfits, toNat_ofNat hfits⟩

theorem numbers_pairs : ids.pairs.map (fun p => p.1.toNat) = List.range ids.size := by
  have hpositions : ids.pairs.map (fun p => p.1.toNat) = ids.states.toList.zipIdx.map Prod.snd := by
    rw [pairs, List.map_map]
    exact List.map_congr_left fun p hp => (ids.ofIndex?_of_mem hp).2
  rw [hpositions, List.zipIdx_map_snd, ← List.range_eq_range', ← OrderedSet.size_eq_length]
  rfl

/-- No pair is lost when positions are turned into numbers. -/
theorem pairs_eq_filterMap : ids.pairs =
    ids.states.toList.zipIdx.filterMap fun (s, i) => (StateId.ofIndex? i).map (·, s) := by
  have hmap : ids.states.toList.zipIdx.filterMap (fun (s, i) => (StateId.ofIndex? i).map (·, s)) =
      ids.states.toList.zipIdx.filterMap fun p => some (UInt16.ofNat p.2, p.1) := by
    refine List.filterMap_congr fun p hp => ?_
    change (StateId.ofIndex? p.2).map (·, p.1) = some (UInt16.ofNat p.2, p.1)
    rw [(ids.ofIndex?_of_mem hp).1]
    rfl
  rw [hmap, List.filterMap_eq_map']
  rfl

/-! ## Numbering a list -/

theorem assign_of_many {states : List σ} {limit : Nat}
    (many : min limit 65536 < states.toFinset.card) :
    assign states limit = .error ⟨states.toFinset.card, min limit 65536⟩ := by
  have hsize : (OrderedSet.ofList states).size = states.toFinset.card := by
    rw [OrderedSet.size_eq_length, OrderedSet.length_ofList]
  have hnot : ¬ (OrderedSet.ofList states).size ≤ admitted limit := by
    rw [hsize]
    exact Nat.not_le.2 many
  rw [assign, ofSet, dif_neg hnot, hsize]
  rfl

theorem assign_of_few {states : List σ} {limit : Nat}
    (few : states.toFinset.card ≤ min limit 65536) :
    ∃ ids, assign states limit = .ok ids ∧ ids.states = OrderedSet.ofList states := by
  have hle : (OrderedSet.ofList states).size ≤ admitted limit := by
    rw [OrderedSet.size_eq_length, OrderedSet.length_ofList]
    exact few
  exact ⟨⟨OrderedSet.ofList states, Nat.le_trans hle (Nat.min_le_right _ _)⟩, dif_pos hle, rfl⟩

/-- A list of states is numbered unless it has more distinct ones than the limit and a state field
admit; then their number and that bound are reported. Numbers and states lead to each other: the
numbers are those below the number of distinct states, and the states those of the list. A state has
as many distinct states in front of its number as in front of its first place in the list. The pairs
go through all numbers in their order, and none of them is lost for want of a number. -/
theorem assign_dense_bijection (states : List σ) (limit : Nat) :
    (min limit 65536 < states.toFinset.card →
      assign states limit = .error ⟨states.toFinset.card, min limit 65536⟩) ∧
    (states.toFinset.card ≤ min limit 65536 → ∃ ids, assign states limit = .ok ids ∧
      ids.size = states.toFinset.card ∧
      (∀ s id, ids.id? s = some id ↔ ids.state? id = some s) ∧
      (∀ s, ids.id? s = none ↔ s ∉ states) ∧
      (∀ id, ids.state? id = none ↔ states.toFinset.card ≤ id.toNat) ∧
      (∀ before s after, states = before ++ s :: after → s ∉ before →
        ∃ id, ids.id? s = some id ∧ id.toNat = before.toFinset.card) ∧
      ids.pairs.map (fun p => p.1.toNat) = List.range states.toFinset.card ∧
      (∀ id s, (id, s) ∈ ids.pairs ↔ ids.id? s = some id) ∧
      ids.pairs =
        ids.states.toList.zipIdx.filterMap fun (s, i) => (StateId.ofIndex? i).map (·, s)) := by
  refine ⟨assign_of_many, fun few => ?_⟩
  obtain ⟨ids, hassign, hstates⟩ := assign_of_few few
  have hsize : ids.size = states.toFinset.card := by
    rw [size, hstates, OrderedSet.size_eq_length, OrderedSet.length_ofList]
  refine ⟨ids, hassign, hsize, ids.id?_eq_some_iff_state?, fun s => ?_, fun id => ?_, ?_, ?_,
    ids.mem_pairs_iff, ids.pairs_eq_filterMap⟩
  · rw [id?_eq_none_iff, hstates, OrderedSet.mem_ofList]
  · rw [state?_eq_none_iff, hsize]
  · rintro before s after rfl first
    have hplace := OrderedSet.getElem?_ofList after first
    rw [← hstates] at hplace
    have hlt := (List.getElem?_eq_some_iff.1 hplace).1
    have hle := ids.length_le
    have hnumber : (UInt16.ofNat before.toFinset.card).toNat = before.toFinset.card :=
      toNat_ofNat (by omega)
    refine ⟨UInt16.ofNat before.toFinset.card, ?_, hnumber⟩
    rw [id?_eq_some_iff, hnumber]
    exact hplace
  · rw [numbers_pairs, hsize]

end StateIds

end TransitionMap
