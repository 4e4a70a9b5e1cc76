import Mathlib.Data.List.Forall2
import TransitionMap.Proofs.FirstFault
import TransitionMap.Proofs.Numbering

/-!
# The first fault that a build comes to

A numbering need not have anything to do with what an automaton can reach: it may leave out states
that transitions lead to, and have some that nothing leads to, in any order. A build goes through
the numbered states in the order of their numbers, and through the transitions of each
(`Table.arcs`). It stops at the first one that repeats a byte of its state or leads to a state
without a number (`Table.FirstFault`), and otherwise makes one entry of each (`Table.EntryOf`).

* `Table.clean_or_fault`: the transitions of a state are clean up to a first fault;
* `Table.build_eq_error_iff`: the error is that of the first fault;
* `Table.build_eq_ok`: what a build that succeeds has gone through;
* `Table.build_reports_first_fault`: the two together.
-/

namespace TransitionMap.Table

variable {σ : Type} [DecidableEq σ] [Hashable σ]

/-- The transitions of the numbered states, each with the number of its source, in the order in
which a build comes to them. -/
def arcs (a : Automaton σ) (ids : StateIds σ) : List (StateId × UInt8 × σ) :=
  ids.pairs.flatMap fun p => (a.transitions p.2).map (p.1, ·)

/-- The first transition that is not clean, and what is wrong with it. -/
inductive FirstFault (a : Automaton σ) (ids : StateIds σ) : CompileError → Prop
  | found {before after : List (StateId × σ)} {id : StateId} {s : σ}
      {earlier later : List (UInt8 × σ)} {t : UInt8 × σ} {e : CompileError}
      (numbered : ids.pairs = before ++ (id, s) :: after)
      (clean : ∀ p ∈ before, CleanState a ids p.2)
      (transitions : a.transitions s = earlier ++ t :: later) (clean' : Clean ids [] earlier)
      (fault : Fault a ids id s (earlier.map Prod.fst) t e) : FirstFault a ids e

/-- The entry of a transition: the number of its source and its byte lead to the number of its
target, and to whether that accepts. -/
structure EntryOf (a : Automaton σ) (ids : StateIds σ) (arc : StateId × UInt8 × σ) (e : Entry) :
    Prop where
  key : e.key = { state := arc.1, unit := arc.2.1, padding := 0 }
  target : ids.state? e.value.state = some arc.2.2
  flag : e.value.finalState = if a.accepting arc.2.2 then 1 else 0

variable {a : Automaton σ} {ids : StateIds σ}

/-! ## Faults -/

theorem Clean.concat {ts : List (UInt8 × σ)} {t : UInt8 × σ} (h : Clean ids [] ts)
    (fresh : t.1 ∉ ts.map Prod.fst) (known : (ids.id? t.2).isSome) : Clean ids [] (ts ++ [t]) where
  nodup := by
    rw [List.map_append]
    exact h.nodup.append (List.nodup_singleton _) (by simpa using fresh)
  fresh u _ := List.not_mem_nil
  known u hu := by
    rcases List.mem_append.1 hu with hu | hu
    · exact h.known u hu
    · obtain rfl := List.mem_singleton.1 hu
      exact known

theorem clean_or_fault (a : Automaton σ) (ids : StateIds σ) (id : StateId) (s : σ)
    (ts : List (UInt8 × σ)) :
    Clean ids [] ts ∨ ∃ earlier t later e, ts = earlier ++ t :: later ∧ Clean ids [] earlier ∧
      Fault a ids id s (earlier.map Prod.fst) t e := by
  by_cases h : Clean ids [] ts
  · exact .inl h
  · have hnil : Clean ids [] [] := ⟨List.nodup_nil, by simp, by simp⟩
    obtain ⟨earlier, t, later, rfl, clean, broken⟩ := exists_first_break hnil h
    refine .inr ⟨earlier, t, later, ?_⟩
    by_cases hmem : t.1 ∈ earlier.map Prod.fst
    · exact ⟨_, rfl, clean, .repeated hmem⟩
    · cases hid : ids.id? t.2 with
      | none => exact ⟨_, rfl, clean, .unknown hmem hid⟩
      | some target => exact absurd (clean.concat hmem (by rw [hid]; rfl)) broken

theorem clean_or_firstFault (a : Automaton σ) (ids : StateIds σ) :
    (∀ p ∈ ids.pairs, CleanState a ids p.2) ∨ ∃ e, FirstFault a ids e := by
  by_cases h : ∀ p ∈ ids.pairs, CleanState a ids p.2
  · exact .inl h
  · obtain ⟨before, ⟨id, s⟩, after, numbered, clean, hs⟩ := exists_first_not h
    rcases clean_or_fault a ids id s (a.transitions s) with
      hclean | ⟨earlier, t, later, e, transitions, clean', fault⟩
    · exact absurd hclean hs
    · exact .inr ⟨e, .found numbered clean transitions clean' fault⟩

theorem FirstFault.build_eq {e : CompileError} (h : FirstFault a ids e) :
    build a ids = .error e := by
  cases h with
  | found numbered clean transitions clean' fault =>
    exact build_of_fault numbered clean transitions clean' fault

theorem build_eq_error_iff {e : CompileError} : build a ids = .error e ↔ FirstFault a ids e := by
  refine ⟨fun h => ?_, FirstFault.build_eq⟩
  rcases clean_or_firstFault a ids with clean | ⟨e', he'⟩
  · rw [build_of_clean clean] at h
    cases h
  · obtain rfl := Except.error.inj (h.symm.trans he'.build_eq)
    exact he'

/-- A clean state has neither kind of fault at any of its transitions. -/
theorem CleanState.not_fault {s : σ} (h : CleanState a ids s) {earlier later : List (UInt8 × σ)}
    {t : UInt8 × σ} (transitions : a.transitions s = earlier ++ t :: later) :
    ¬ (t.1 ∈ earlier.map Prod.fst ∨ ids.id? t.2 = none) := by
  rintro (hmem | hnone)
  · have hnodup := h.nodup
    rw [transitions, List.map_append, List.map_cons, List.nodup_append] at hnodup
    exact hnodup.2.2 t.1 hmem t.1 List.mem_cons_self rfl
  · have hknown := h.known t (by simp [transitions])
    rw [hnone] at hknown
    cases hknown

theorem FirstFault.exists_fault {e : CompileError} (h : FirstFault a ids e) :
    ∃ p ∈ ids.pairs, ∃ earlier t later, a.transitions p.2 = earlier ++ t :: later ∧
      (t.1 ∈ earlier.map Prod.fst ∨ ids.id? t.2 = none) := by
  cases h with
  | @found before after id s earlier later t e numbered clean transitions clean' fault =>
    refine ⟨(id, s), by simp [numbered], earlier, t, later, transitions, ?_⟩
    cases fault with
    | repeated hmem => exact .inl hmem
    | unknown hfresh hnone => exact .inr hnone

/-! ## Entries -/

theorem build_eq_ok {table : Table} (h : build a ids = .ok table) :
    (∀ p ∈ ids.pairs, CleanState a ids p.2) ∧
      table = ⟨(arcs a ids).map fun arc => entryOf a ids arc.1 arc.2, ids.size⟩ := by
  rcases clean_or_firstFault a ids with clean | ⟨e, he⟩
  · rw [build_of_clean clean] at h
    refine ⟨clean, ?_⟩
    rw [← Except.ok.inj h, arcs, List.map_flatMap]
    simp only [List.map_map, Function.comp_def]
  · rw [he.build_eq] at h
    cases h

theorem mem_arcs {arc : StateId × UInt8 × σ} :
    arc ∈ arcs a ids ↔ ∃ p ∈ ids.pairs, ∃ t ∈ a.transitions p.2, (p.1, t) = arc := by
  simp only [arcs, List.mem_flatMap, List.mem_map]

theorem entryOf_spec (clean : ∀ p ∈ ids.pairs, CleanState a ids p.2) {arc : StateId × UInt8 × σ}
    (harc : arc ∈ arcs a ids) : EntryOf a ids arc (entryOf a ids arc.1 arc.2) := by
  obtain ⟨p, hp, t, ht, rfl⟩ := mem_arcs.1 harc
  obtain ⟨target, htarget⟩ := Option.isSome_iff_exists.1 ((clean p hp).known t ht)
  refine ⟨rfl, ?_, rfl⟩
  rw [← StateIds.id?_eq_some_iff_state?, htarget]
  simp only [entryOf, htarget, Option.getD_some, Value.leadingTo]

theorem nodup_keys_arcs (clean : ∀ p ∈ ids.pairs, CleanState a ids p.2) :
    ((arcs a ids).map fun arc => (entryOf a ids arc.1 arc.2).key).Nodup := by
  have hids : (ids.pairs.map Prod.fst).Nodup := by
    refine List.Nodup.of_map UInt16.toNat ?_
    rw [List.map_map]
    exact ids.numbers_pairs ▸ List.nodup_range
  rw [arcs, List.map_flatMap, List.nodup_flatMap]
  constructor
  · intro p hp
    refine List.Nodup.of_map Key.unit ?_
    rw [List.map_map, List.map_map]
    exact (clean p hp).nodup
  · refine (List.pairwise_map.1 hids).imp fun {p q} hne key hkey hkey' => ?_
    simp only [List.map_map, List.mem_map] at hkey hkey'
    obtain ⟨t, -, rfl⟩ := hkey
    obtain ⟨u, -, hu⟩ := hkey'
    exact hne (congrArg Key.state hu).symm

/-- The numbered states stand in the order of their numbers. A build fails exactly when some
transition of theirs repeats a byte of an earlier one of its state, or leads to a state without a
number. The error is that of the first such transition, in the order of the numbers and of each
state's transitions; if it has both faults, the repetition counts. Otherwise the table has one entry
for each transition of the numbered states, in this order. No two entries share a key, and entries
that lead to the same number have the same flag. -/
theorem build_reports_first_fault (a : Automaton σ) (ids : StateIds σ) :
    (ids.pairs.map (fun p => p.1.toNat) = List.range ids.size ∧
      ∀ id s, (id, s) ∈ ids.pairs ↔ ids.id? s = some id) ∧
    ((∃ e, build a ids = .error e) ↔
      ∃ p ∈ ids.pairs, ∃ earlier t later, a.transitions p.2 = earlier ++ t :: later ∧
        (t.1 ∈ earlier.map Prod.fst ∨ ids.id? t.2 = none)) ∧
    (∀ e, build a ids = .error e ↔ FirstFault a ids e) ∧
    ∀ table, build a ids = .ok table →
      table.stateCount = ids.size ∧ List.Forall₂ (EntryOf a ids) (arcs a ids) table.entries ∧
      (table.entries.map Entry.key).Nodup ∧
      ∀ d ∈ table.entries, ∀ e ∈ table.entries, d.value.state = e.value.state →
        d.value.finalState = e.value.finalState := by
  refine ⟨⟨ids.numbers_pairs, ids.mem_pairs_iff⟩, ⟨?_, ?_⟩, fun e => build_eq_error_iff,
    fun table h => ?_⟩
  · rintro ⟨e, he⟩
    exact (build_eq_error_iff.1 he).exists_fault
  · rintro ⟨p, hp, earlier, t, later, transitions, fault⟩
    rcases clean_or_firstFault a ids with clean | ⟨e, he⟩
    · exact absurd fault ((clean p hp).not_fault transitions)
    · exact ⟨e, he.build_eq⟩
  · obtain ⟨clean, rfl⟩ := build_eq_ok h
    refine ⟨rfl, ?_, ?_, ?_⟩
    · exact List.forall₂_map_right_iff.2 (List.forall₂_same.2 fun arc => entryOf_spec clean)
    · rw [List.map_map]
      exact nodup_keys_arcs clean
    · intro d hd e he hsame
      obtain ⟨arc, harc, rfl⟩ := List.mem_map.1 hd
      obtain ⟨arc', harc', rfl⟩ := List.mem_map.1 he
      have hd := entryOf_spec clean harc
      have he := entryOf_spec clean harc'
      have htarget : arc.2.2 = arc'.2.2 := by
        rw [← Option.some.injEq, ← hd.target, ← he.target, hsame]
      rw [hd.flag, he.flag, htarget]

end TransitionMap.Table
