import Mathlib.Data.List.Nodup
import TransitionMap.Pattern
import TransitionMap.Proofs.Building
import TransitionMap.Proofs.FirstFault
import TransitionMap.Proofs.Pruning

/-!
# What planning comes to

`PlanOutcome` lists the three ways in which planning an automaton can end: too many reachable
states, two transitions on one byte, or the table of all transitions of the reachable states.

* `PlanOutcome.plan_eq`: each of them is what `Table.plan` answers;
* `exists_outcome`: one of them always applies;
* `plan_eq_iff`: hence planning ends exactly as described;
* `nodup_keys`, `key_state_lt`, `value_state_lt`: no two entries of a table share a key, and all its
  numbers are below the number of states;
* `pairwise_rank_entries`: if each state has its transitions in the order of their bytes, as the
  states of a pattern have, the entries come in the order of their keys.
-/

namespace TransitionMap

namespace Automaton

variable {σ : Type} (a : Automaton σ)

/-- A state with at most one transition on each byte. -/
def Deterministic (s : σ) : Prop := ((a.transitions s).map Prod.fst).Nodup

instance (s : σ) : Decidable (a.Deterministic s) := inferInstanceAs (Decidable (List.Nodup _))

/-- A state with its transitions in the order of their bytes, one for each. -/
def Ordered (s : σ) : Prop := (a.transitions s).Pairwise fun t u => t.1 < u.1

theorem Ordered.deterministic {a : Automaton σ} {s : σ} (h : a.Ordered s) : a.Deterministic s := by
  rw [Deterministic, List.Nodup, List.pairwise_map]
  exact h.imp fun hlt => UInt8.ne_of_lt hlt

variable [DecidableEq σ] [Hashable σ]

/-! ## The entries of an automaton -/

/-- The number of a reachable state: its place in the enumeration. -/
def number (s : σ) : StateId := UInt16.ofNat (a.enumerate.idxOf s)

/-- What an entry says about the state it leads to. -/
def value (t : σ) : Value := { finalState := if a.accepting t then 1 else 0, state := a.number t }

/-- The entry of a transition. -/
def entry (s : σ) (t : UInt8 × σ) : Entry :=
  ⟨{ state := a.number s, unit := t.1, padding := 0 }, a.value t.2⟩

/-- One entry per transition: the states as they are enumerated, the transitions of each in
order. -/
def entries : List Entry := a.enumerate.flatMap fun s => (a.transitions s).map (a.entry s)

variable {a}

theorem mem_entries {e : Entry} :
    e ∈ a.entries ↔ ∃ s, a.Reaches s ∧ ∃ t ∈ a.transitions s, e = a.entry s t := by
  simp only [entries, List.mem_flatMap, List.mem_map, a.mem_enumerate_iff]
  exact exists_congr fun s => and_congr_right fun _ => exists_congr fun t =>
    and_congr_right fun _ => eq_comm

theorem toNat_number (hsize : a.enumerate.length ≤ StateId.count) {s : σ} (h : s ∈ a.enumerate) :
    (a.number s).toNat = a.enumerate.idxOf s := by
  have hlt := List.idxOf_lt_length_of_mem h
  exact StateIds.toNat_ofNat (by omega)

theorem number_injective (hsize : a.enumerate.length ≤ StateId.count) {s t : σ}
    (hs : s ∈ a.enumerate) (ht : t ∈ a.enumerate) (h : a.number s = a.number t) : s = t := by
  rw [← List.idxOf_inj hs, ← toNat_number hsize hs, ← toNat_number hsize ht, h]

theorem number_lt (hsize : a.enumerate.length ≤ StateId.count) {s : σ} (h : a.Reaches s) :
    (a.number s).toNat < a.enumerate.length := by
  rw [toNat_number hsize ((a.mem_enumerate_iff s).2 h)]
  exact List.idxOf_lt_length_of_mem ((a.mem_enumerate_iff s).2 h)

theorem number_start : a.number a.start = 0 := by
  obtain ⟨rest, hrest⟩ := List.head?_eq_some_iff.1 a.enumerate_head?
  rw [number, hrest, List.idxOf_cons_self]
  rfl

theorem key_state_lt (hsize : a.enumerate.length ≤ StateId.count) {e : Entry} (h : e ∈ a.entries) :
    e.key.state.toNat < a.enumerate.length := by
  obtain ⟨s, hs, t, ht, rfl⟩ := mem_entries.1 h
  exact number_lt hsize hs

theorem value_state_lt (hsize : a.enumerate.length ≤ StateId.count) {e : Entry}
    (h : e ∈ a.entries) :
    e.value.state.toNat < a.enumerate.length := by
  obtain ⟨s, hs, t, ht, rfl⟩ := mem_entries.1 h
  exact number_lt hsize (hs.target ht)

theorem nodup_keys (hsize : a.enumerate.length ≤ StateId.count)
    (hdet : ∀ s ∈ a.enumerate, a.Deterministic s) : (a.entries.map Entry.key).Nodup := by
  have hkeys : a.entries.map Entry.key =
      a.enumerate.flatMap fun s => (a.transitions s).map fun t => (a.entry s t).key := by
    simp [entries, List.map_flatMap, Function.comp_def]
  rw [hkeys, List.nodup_flatMap]
  constructor
  · intro s hs
    refine List.Nodup.of_map Key.unit ?_
    rw [List.map_map]
    exact hdet s hs
  · refine a.nodup_enumerate.imp_of_mem fun {s t} hs ht hne => ?_
    rintro key hkey hkey'
    obtain ⟨u, -, rfl⟩ := List.mem_map.1 hkey
    obtain ⟨v, -, hv⟩ := List.mem_map.1 hkey'
    exact hne (number_injective hsize ht hs (congrArg Key.state hv)).symm

theorem pairwise_rank_entries (hsize : a.enumerate.length ≤ StateId.count)
    (hordered : ∀ s ∈ a.enumerate, a.Ordered s) :
    a.entries.Pairwise fun e f => e.key.rank < f.key.rank := by
  rw [entries, List.pairwise_flatMap]
  constructor
  · intro s hs
    rw [List.pairwise_map]
    refine (hordered s hs).imp fun {t u} hlt => ?_
    have := UInt8.lt_iff_toNat_lt.1 hlt
    simp only [entry, Key.rank]
    omega
  · rw [List.pairwise_iff_getElem]
    intro i j hi hj hij e he f hf
    obtain ⟨t, -, rfl⟩ := List.mem_map.1 he
    obtain ⟨u, -, rfl⟩ := List.mem_map.1 hf
    have hs := toNat_number hsize (List.getElem_mem hi)
    have ht := toNat_number hsize (List.getElem_mem hj)
    rw [a.nodup_enumerate.idxOf_getElem] at hs ht
    have := t.1.toNat_lt
    simp only [entry, Key.rank, hs, ht]
    omega

end Automaton

namespace Table

variable {σ : Type} [DecidableEq σ] [Hashable σ] {a : Automaton σ}

/-! ## The numbering that planning uses -/

section Numbering

variable {ids : StateIds σ}

theorem id?_reachable (hids : ids.states = a.reachable) {s : σ} (h : a.Reaches s) :
    ids.id? s = some (a.number s) := by
  have hmem := (a.mem_enumerate_iff s).2 h
  have hsize : a.enumerate.length ≤ StateId.count := by
    have := ids.length_le
    rwa [hids] at this
  rw [ids.id?_eq_some_iff, Automaton.toNat_number hsize hmem, hids]
  exact List.getElem?_idxOf hmem

theorem pairs_reachable (hids : ids.states = a.reachable) :
    ids.pairs = a.enumerate.map fun s => (a.number s, s) := by
  simp only [StateIds.pairs, hids]
  refine List.ext_getElem (by simp [Automaton.enumerate]) fun i hi hj => ?_
  simp only [List.length_map] at hj
  simp [Automaton.number, Automaton.enumerate, a.reachable.nodup_toList.idxOf_getElem]

theorem entryOf_reachable (hids : ids.states = a.reachable) {s : σ} (h : a.Reaches s)
    {t : UInt8 × σ} (ht : t ∈ a.transitions s) : entryOf a ids (a.number s) t = a.entry s t := by
  simp [entryOf, Automaton.entry, Automaton.value, Value.leadingTo,
    id?_reachable hids (h.target ht)]

theorem cleanState_reachable (hids : ids.states = a.reachable) {s : σ} (h : a.Reaches s)
    (hdet : a.Deterministic s) : CleanState a ids s where
  nodup := hdet
  fresh := by simp
  known t ht := by rw [id?_reachable hids (h.target ht)]; rfl

end Numbering

/-! ## Outcomes -/

/-- How planning ends. The reachable states are counted first; then the first of them, in the order
of their numbers, with two transitions on one byte is looked for, and its first transition on a
byte that an earlier one has. -/
inductive PlanOutcome (a : Automaton σ) (maxStates : Nat) : Except CompileError Table → Prop
  | tooMany (many : min maxStates 65536 < {s | a.Reaches s}.ncard) :
      PlanOutcome a maxStates
        (.error (.tooManyStates {s | a.Reaches s}.ncard (min maxStates 65536)))
  | repeated {before after : List σ} {s : σ} {earlier later : List (UInt8 × σ)} {t : UInt8 × σ}
      (few : {s | a.Reaches s}.ncard ≤ min maxStates 65536)
      (enumerated : a.enumerate = before ++ s :: after)
      (deterministic : ∀ r ∈ before, a.Deterministic r)
      (transitions : a.transitions s = earlier ++ t :: later)
      (distinct : (earlier.map Prod.fst).Nodup) (repeats : t.1 ∈ earlier.map Prod.fst) :
      PlanOutcome a maxStates
        (.error (.nonDeterministic (UInt16.ofNat before.length) (a.describe s) t.1))
  | table (few : {s | a.Reaches s}.ncard ≤ min maxStates 65536)
      (deterministic : ∀ s, a.Reaches s → a.Deterministic s) :
      PlanOutcome a maxStates (.ok ⟨a.entries, {s | a.Reaches s}.ncard⟩)

theorem size_reachable : a.reachable.size = {s | a.Reaches s}.ncard := by
  rw [OrderedSet.size_eq_length, ← a.length_enumerate]
  rfl

theorem plan_of_many {maxStates : Nat} (h : min maxStates 65536 < {s | a.Reaches s}.ncard) :
    plan a maxStates =
      .error (.tooManyStates {s | a.Reaches s}.ncard (min maxStates 65536)) := by
  have hnot : ¬ a.reachable.size ≤ admitted maxStates := by
    rw [size_reachable]
    exact Nat.not_le.2 h
  rw [plan, StateIds.ofSet, dif_neg hnot, size_reachable]
  rfl

theorem plan_of_few {maxStates : Nat} (h : {s | a.Reaches s}.ncard ≤ min maxStates 65536) :
    ∃ ids : StateIds σ, ids.states = a.reachable ∧ StateIds.ofSet a.reachable maxStates = .ok ids ∧
      plan a maxStates = build a ids := by
  have hle : a.reachable.size ≤ admitted maxStates := by
    rw [size_reachable]
    exact h
  have hset : StateIds.ofSet a.reachable maxStates =
      .ok ⟨a.reachable, Nat.le_trans hle (Nat.min_le_right _ _)⟩ := by
    rw [StateIds.ofSet, dif_pos hle]
  exact ⟨_, rfl, hset, by rw [plan, hset]⟩

/-- The state with the first repetition decides the error; the states before it are clean. -/
theorem plan_of_repeated {maxStates : Nat} {before after : List σ} {s : σ}
    {earlier later : List (UInt8 × σ)}
    {t : UInt8 × σ} (few : {s | a.Reaches s}.ncard ≤ min maxStates 65536)
    (enumerated : a.enumerate = before ++ s :: after)
    (deterministic : ∀ r ∈ before, a.Deterministic r)
    (transitions : a.transitions s = earlier ++ t :: later)
    (distinct : (earlier.map Prod.fst).Nodup) (repeats : t.1 ∈ earlier.map Prod.fst) :
    plan a maxStates = .error
      (.nonDeterministic (UInt16.ofNat before.length) (a.describe s) t.1) := by
  obtain ⟨ids, hids, -, hplan⟩ := plan_of_few few
  have hreach : ∀ r ∈ a.enumerate, a.Reaches r := fun r => (a.mem_enumerate_iff r).1
  have hs : a.Reaches s := hreach s (by simp [enumerated])
  have hnumber : a.number s = UInt16.ofNat before.length := by
    have hnodup := a.nodup_enumerate
    rw [enumerated, List.nodup_append] at hnodup
    rw [Automaton.number, enumerated, List.idxOf_append_of_notMem fun hmem =>
      hnodup.2.2 s hmem s List.mem_cons_self rfl, List.idxOf_cons_self, Nat.add_zero]
  have hpairs : ids.pairs = before.map (fun r => (a.number r, r)) ++
      (UInt16.ofNat before.length, s) :: after.map fun r => (a.number r, r) := by
    rw [pairs_reachable hids, enumerated, List.map_append, List.map_cons, hnumber]
  rw [hplan]
  refine build_of_fault hpairs (fun p hp => ?_) transitions ⟨distinct, by simp, fun u hu => ?_⟩
    (.repeated repeats)
  · obtain ⟨r, hr, rfl⟩ := List.mem_map.1 hp
    exact cleanState_reachable hids (hreach r (by simp [enumerated, hr])) (deterministic r hr)
  · rw [id?_reachable hids (hs.target (t := u) (by simp [transitions, hu]))]
    rfl

theorem plan_of_deterministic {maxStates : Nat}
    (few : {s | a.Reaches s}.ncard ≤ min maxStates 65536)
    (deterministic : ∀ s, a.Reaches s → a.Deterministic s) :
    plan a maxStates = .ok ⟨a.entries, {s | a.Reaches s}.ncard⟩ := by
  obtain ⟨ids, hids, -, hplan⟩ := plan_of_few few
  have hreach : ∀ r ∈ a.enumerate, a.Reaches r := fun r => (a.mem_enumerate_iff r).1
  have hclean : ∀ p ∈ ids.pairs, CleanState a ids p.2 := fun p hp => by
    rw [pairs_reachable hids] at hp
    obtain ⟨s, hs, rfl⟩ := List.mem_map.1 hp
    exact cleanState_reachable hids (hreach s hs) (deterministic s (hreach s hs))
  have hsize : ids.size = {s | a.Reaches s}.ncard := by
    rw [← size_reachable, ← hids]
    rfl
  rw [hplan, build_of_clean hclean, hsize, pairs_reachable hids, List.flatMap_map,
    Automaton.entries]
  congr 2
  refine List.flatMap_congr fun s hs => List.map_congr_left fun t ht => ?_
  exact entryOf_reachable hids (hreach s hs) ht

theorem PlanOutcome.plan_eq {maxStates : Nat} {result : Except CompileError Table}
    (h : PlanOutcome a maxStates result) : plan a maxStates = result := by
  cases h with
  | tooMany many => exact plan_of_many many
  | repeated few enumerated deterministic transitions distinct repeats =>
    exact plan_of_repeated few enumerated deterministic transitions distinct repeats
  | table few deterministic => exact plan_of_deterministic few deterministic

theorem exists_outcome (a : Automaton σ) (maxStates : Nat) :
    ∃ result, PlanOutcome a maxStates result := by
  by_cases few : {s | a.Reaches s}.ncard ≤ min maxStates 65536
  · by_cases hdet : ∀ s ∈ a.enumerate, a.Deterministic s
    · exact ⟨_, .table few fun s hs => hdet s ((a.mem_enumerate_iff s).2 hs)⟩
    · obtain ⟨before, s, after, enumerated, deterministic, hs⟩ := exists_first_not hdet
      obtain ⟨earlier, t, later, transitions, distinct, repeats⟩ := exists_first_repeat hs
      exact ⟨_, .repeated few enumerated deterministic transitions distinct repeats⟩
  · exact ⟨_, .tooMany (Nat.not_le.1 few)⟩

/-- Planning ends exactly as described. -/
theorem plan_eq_iff (a : Automaton σ) (maxStates : Nat) (result : Except CompileError Table) :
    plan a maxStates = result ↔ PlanOutcome a maxStates result := by
  constructor
  · rintro rfl
    obtain ⟨result, h⟩ := exists_outcome a maxStates
    rwa [h.plan_eq]
  · exact PlanOutcome.plan_eq

/-- The table of a successful plan. -/
theorem eq_of_plan_eq_ok {maxStates : Nat} {table : Table} (h : plan a maxStates = .ok table) :
    table = ⟨a.entries, a.enumerate.length⟩ ∧ a.enumerate.length ≤ StateId.count ∧
      ∀ s ∈ a.enumerate, a.Deterministic s := by
  cases (plan_eq_iff a maxStates _).1 h with
  | table few deterministic =>
    rw [← a.length_enumerate] at few ⊢
    exact ⟨rfl, Nat.le_trans few (Nat.min_le_right _ _),
      fun s hs => deterministic s ((a.mem_enumerate_iff s).1 hs)⟩

/-! ## Patterns -/

/-- The automaton of a pattern has the transitions of a state in the order of their bytes. -/
theorem ordered_of_compile {pattern : String} {options : Pattern.Options} {b : Automaton Nat}
    (h : Pattern.compile pattern options = .ok b) (s : Nat) : b.Ordered s := by
  rw [Pattern.compile] at h
  cases hparse : Pattern.parse pattern with
  | error e =>
    rw [hparse] at h
    cases h
  | ok e =>
    rw [hparse] at h
    cases h
    rw [Automaton.Ordered, Tabled.transitions_toAutomaton]
    exact Machine.pairwise_transitions _ _

/-- The exact outcome of planning: which error and with what it names, or else which table. The
states that are numbered are those that can be reached. -/
theorem plan_outcome (a : Automaton σ) (maxStates : Nat) :
    (a.enumerate.Nodup ∧ ∀ s, s ∈ a.enumerate ↔ a.Reaches s) ∧
    (∀ result, plan a maxStates = result ↔ PlanOutcome a maxStates result) ∧
    (∀ state symbol, plan a maxStates ≠ .error (.unknownTarget state symbol)) ∧
    (∀ cause, plan a maxStates ≠ .error (.invalidStore cause)) ∧
    (∀ table, plan a maxStates = .ok table →
      (table.entries.map Entry.key).Nodup ∧
      ∀ e ∈ table.entries, e.key.state.toNat < table.stateCount ∧
        e.value.state.toNat < table.stateCount) ∧
    (∀ pattern options b, Pattern.compile pattern options = .ok b →
      (∀ state origin symbol, plan b maxStates ≠ .error (.nonDeterministic state origin symbol)) ∧
      ∀ table, plan b maxStates = .ok table →
        table.entries.Pairwise fun e f => e.key.rank < f.key.rank) := by
  refine ⟨⟨a.nodup_enumerate, a.mem_enumerate_iff⟩, plan_eq_iff a maxStates, ?_, ?_, ?_, ?_⟩
  · intro state symbol h
    cases (plan_eq_iff a maxStates _).1 h
  · intro cause h
    cases (plan_eq_iff a maxStates _).1 h
  · intro table h
    obtain ⟨rfl, hsize, hdet⟩ := eq_of_plan_eq_ok h
    exact ⟨Automaton.nodup_keys hsize hdet, fun e he =>
      ⟨Automaton.key_state_lt hsize he, Automaton.value_state_lt hsize he⟩⟩
  · intro pattern options b hb
    have hordered := ordered_of_compile hb
    refine ⟨fun state origin symbol h => ?_, fun table h => ?_⟩
    · cases (plan_eq_iff b maxStates _).1 h with
      | @repeated before after s earlier later t few enumerated deterministic transitions distinct
          repeats =>
        have hdet := (hordered s).deterministic
        rw [Automaton.Deterministic, transitions, List.map_append, List.map_cons,
          List.nodup_append] at hdet
        exact hdet.2.2 t.1 repeats t.1 List.mem_cons_self rfl
    · obtain ⟨rfl, hsize, -⟩ := eq_of_plan_eq_ok h
      exact Automaton.pairwise_rank_entries hsize fun s _ => hordered s

end Table

end TransitionMap
