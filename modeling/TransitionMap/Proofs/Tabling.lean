import TransitionMap.Proofs.Exploration
import TransitionMap.Proofs.Pruning

/-!
# Tables run as the machines they are made from

`Machine.Simulates` relates the states of two machines step by step; machines so related report
matches at the same places (`Machine.Simulates.agree`). The table of a machine simulates it
(`Tabled.simulates_explore`) when its columns tell apart what the machine tells apart and the bound
is large enough for what can be reached. A table whose rows cover all columns is sealed
(`Tabled.Covered.sealed`), so that its automaton loses no accepted word (`Tabled.prunes`).
-/

namespace TransitionMap

namespace Machine

variable {σ τ υ : Type}

/-- Two machines report matches at the same places. -/
structure Agree (m : Machine σ) (n : Machine τ) : Prop where
  isMatch : ∀ word, m.isMatch (m.after m.start word) = n.isMatch (n.after n.start word)
  accepting : ∀ word, m.accepting (m.after m.start word) = n.accepting (n.after n.start word)

theorem Agree.trans {l : Machine σ} {m : Machine τ} {n : Machine υ} (h : Agree l m)
    (h' : Agree m n) :
    Agree l n where
  isMatch word := (h.isMatch word).trans (h'.isMatch word)
  accepting word := (h.accepting word).trans (h'.accepting word)

theorem Agree.symm {m : Machine σ} {n : Machine τ} (h : Agree m n) : Agree n m where
  isMatch word := (h.isMatch word).symm
  accepting word := (h.accepting word).symm

/-- Related states report the same and lead to related states. -/
structure Simulates (m : Machine σ) (n : Machine τ) (R : σ → τ → Prop) : Prop where
  start : R m.start n.start
  next : ∀ s t, R s t → ∀ x, R (m.next s x) (n.next t x)
  isMatch : ∀ s t, R s t → m.isMatch s = n.isMatch t

variable {m : Machine σ} {n : Machine τ} {R : σ → τ → Prop}

theorem Simulates.after (h : Simulates m n R) {s : σ} {t : τ} (hst : R s t) (word : Bytes) :
    R (m.after s word) (n.after t word) := by
  induction word generalizing s t with
  | nil => exact hst
  | cons b word ih => exact ih (h.next s t hst (some b))

theorem Simulates.agree (h : Simulates m n R) : Agree m n where
  isMatch word := h.isMatch _ _ (h.after h.start word)
  accepting word := h.isMatch _ _ (h.next _ _ (h.after h.start word) none)

end Machine

namespace Tabled

/-! ## The automaton of a table -/

theorem after_lt (t : Tabled) {s : Nat} (hs : s < t.size) (word : Bytes) :
    t.toMachine.after s word < t.size := by
  rcases List.eq_nil_or_concat word with rfl | ⟨word, b, rfl⟩
  · exact hs
  · rw [List.concat_eq_append, Machine.after_append]
    exact t.next_lt _ _

theorem lt_of_occurs {t : Tabled} {s : Nat} (h : t.toMachine.Occurs s) : s < t.size := by
  obtain ⟨word, rfl⟩ := h
  exact t.after_lt t.nonempty word

/-- Every row has an entry for each column. -/
def Covered (t : Tabled) : Prop := ∀ s < t.size, ∀ x, t.columns.index x < (t.row s).size

theorem next_eq_of_getElem? {t : Tabled} {s v : Nat} {x : Symbol}
    (h : (t.row s)[t.columns.index x]? = some v) : t.next s x = v := by
  rw [next, Array.getD_eq_getD_getElem?, h, Option.getD_some]

theorem Covered.getElem?_row {t : Tabled} (h : t.Covered) {s : Nat} (hs : s < t.size) (x : Symbol) :
    (t.row s)[t.columns.index x]? = some (t.next s x) := by
  obtain ⟨v, hv⟩ : ∃ v, (t.row s)[t.columns.index x]? = some v :=
    ⟨_, Array.getElem?_eq_getElem (h s hs x)⟩
  rw [next_eq_of_getElem? hv, hv]

theorem Covered.sealed {t : Tabled} (h : t.Covered) : t.toMachine.Sealed where
  isMatch s _ hdead := by
    have hdead : (!t.matchesAt s && _) = true := hdead
    have hmatch : t.matchesAt s = false := by simpa using (Bool.and_eq_true_iff.1 hdead).1
    exact hmatch
  next s hs hdead x := by
    have hdead : (_ && (t.row s).all (· == s)) = true := hdead
    have hrow := Array.all_eq_true_iff_forall_mem.1 (Bool.and_eq_true_iff.1 hdead).2
    exact beq_iff_eq.1 (hrow _ (Array.mem_of_getElem? (h.getElem?_row (lt_of_occurs hs) x)))

theorem prunes (t : Tabled) : Prunes t.toAutomaton t.toMachine where
  start := rfl
  transitions := t.transitions_toAutomaton
  accepting _ := rfl

/-! ## Filling in rows -/

section Fill

variable {σ : Type} [DecidableEq σ] [Hashable σ] {next : σ → List σ}

open OrderedSet

/-- The rows so far hold the numbers of the states that the states with these numbers lead to. -/
structure Filled (next : σ → List σ) (states : OrderedSet σ) (rows : Array (Array Nat)) : Prop where
  size_le : rows.size ≤ states.toList.length
  row : ∀ i < rows.size, ∀ s, states.toList[i]? = some s →
    ∃ row, rows[i]? = some row ∧ row.toList.map (states.toList[·]?) = (next s).map some

theorem filled_push {states : OrderedSet σ} {rows : Array (Array Nat)} {s : σ}
    (h : Filled next states rows) (hs : states.toList[rows.size]? = some s) :
    Filled next (states.insertAll (next s))
      (rows.push ((next s).map fun t =>
        ((states.insertAll (next s)).position? t).getD 0).toArray) where
  size_le := by
    have hlt := (List.getElem?_eq_some_iff.1 hs).1
    have hle := (prefix_insertAll states (next s)).length_le
    rw [Array.size_push]
    omega
  row i hi s' hs' := by
    have hbegins := prefix_insertAll states (next s)
    rw [Array.size_push] at hi
    rcases Nat.lt_or_eq_of_le (Nat.le_of_lt_succ hi) with hi | rfl
    · have hlt := Nat.lt_of_lt_of_le hi h.size_le
      have hold : states.toList[i]? = some states.toList[i] := List.getElem?_eq_getElem hlt
      rw [getElem?_mono hbegins hold] at hs'
      rw [hs'] at hold
      obtain ⟨row, hrow, htargets⟩ := h.row i hi s' hold
      refine ⟨row, by rw [Array.getElem?_push, if_neg (by omega), hrow], ?_⟩
      rw [← htargets]
      refine List.map_congr_left fun v hv => ?_
      have hmem : states.toList[v]? ∈ (next s').map some := htargets ▸ List.mem_map_of_mem hv
      obtain ⟨u, -, hu⟩ := List.mem_map.1 hmem
      rw [← hu, getElem?_mono hbegins hu.symm]
    · rw [getElem?_mono hbegins hs, Option.some.injEq] at hs'
      subst hs'
      refine ⟨_, by rw [Array.getElem?_push, if_pos rfl], ?_⟩
      rw [List.map_map]
      refine List.map_congr_left fun t ht => ?_
      obtain ⟨i, hi⟩ := List.mem_iff_getElem?.1 ((mem_insertAll states (next s) t).2 (.inr ht))
      rw [Function.comp_apply, (position?_eq_some_iff _ t i).2 hi, Option.getD_some, hi]

/-- With enough fuel every state gets its row. -/
theorem filled_fill {start : σ} {support : List σ}
    (hsupport : ∀ a, Reaches next start a → a ∈ support)
    {fuel : Nat} {states : OrderedSet σ} {rows : Array (Array Nat)}
    (filled : Filled next states rows)
    (stage : Stage next start rows.size states) (hfuel : support.length ≤ fuel + rows.size) :
    Filled next (fill next fuel states rows).1 (fill next fuel states rows).2 ∧
      (fill next fuel states rows).2.size = (fill next fuel states rows).1.toList.length ∧
      states.toList <+: (fill next fuel states rows).1.toList := by
  induction fuel generalizing states rows with
  | zero =>
    have hsub : states.toList ⊆ support := fun a ha => hsupport a (stage.sound a ha)
    have hlength := (states.nodup_toList.subperm hsub).length_le
    have hsize : rows.size = states.toList.length := Nat.le_antisymm filled.size_le (by omega)
    exact ⟨filled, hsize, List.prefix_refl _⟩
  | succ fuel ih =>
    rw [fill, get?_eq]
    cases hs : states.toList[rows.size]? with
    | none =>
      exact ⟨filled, Nat.le_antisymm filled.size_le (List.getElem?_eq_none_iff.1 hs),
        List.prefix_refl _⟩
    | some s =>
      have hstage := stage.visit hs
      obtain ⟨hfilled, hsize, hbegins⟩ := ih (filled_push filled hs)
        (by rwa [Array.size_push]) (by rw [Array.size_push]; omega)
      exact ⟨hfilled, hsize, (prefix_insertAll _ _).trans hbegins⟩

variable {m : Machine σ} (columns : Columns) {bound : Nat} {support : List σ}

/-- Symbols in one column lead to the same state. -/
def Distinguishes (columns : Columns) (m : Machine σ) : Prop :=
  ∀ s x, ∃ y, columns.symbols[columns.index x]? = some y ∧ m.next s y = m.next s x

/-- A finite collection of states that is never left. -/
structure Bounds (support : List σ) (m : Machine σ) : Prop where
  start : m.start ∈ support
  next : ∀ s x, m.next s x ∈ support

/-- The states explored, with their numbers, and the rows filled in. -/
def explored (m : Machine σ) (columns : Columns) (bound : Nat) : OrderedSet σ × Array (Array Nat) :=
  fill (fun s => columns.symbols.map (m.next s)) bound (empty.insert m.start) #[]

theorem filled_explored (hbounds : Bounds support m) (hlength : support.length ≤ bound) :
    Filled (fun s => columns.symbols.map (m.next s)) (explored m columns bound).1
        (explored m columns bound).2 ∧
      (explored m columns bound).2.size = (explored m columns bound).1.toList.length ∧
      (explored m columns bound).1.toList[0]? = some m.start := by
  have hsupport : ∀ a, Reaches (fun s => columns.symbols.map (m.next s)) m.start a → a ∈ support :=
    fun a => Reaches.mem_of_closed hbounds.start fun s _ t ht => by
      obtain ⟨x, -, rfl⟩ := List.mem_map.1 ht
      exact hbounds.next s x
  have hempty : Filled (fun s => columns.symbols.map (m.next s)) (empty.insert m.start) #[] :=
    ⟨Nat.zero_le _, fun i hi => absurd hi (Nat.not_lt_zero i)⟩
  obtain ⟨hfilled, hsize, hbegins⟩ := filled_fill hsupport hempty (stage_init _ m.start)
    (Nat.le_trans hlength (Nat.le_add_right bound _))
  refine ⟨hfilled, hsize, getElem?_mono hbegins ?_⟩
  rw [toList_insert]
  rfl

/-- A table is made of the rows that were filled in, whose entries all number states. -/
theorem explore_spec (hbounds : Bounds support m) (hlength : support.length ≤ bound) :
    (explore m columns bound).columns = columns ∧
    (explore m columns bound).size = (explored m columns bound).1.toList.length ∧
    (∀ i s, (explored m columns bound).1.toList[i]? = some s →
      (explore m columns bound).matchesAt i = m.isMatch s ∧
      ((explore m columns bound).row i).toList.map ((explored m columns bound).1.toList[·]?) =
        (columns.symbols.map (m.next s)).map some) := by
  obtain ⟨hfilled, hsize, hstart⟩ := filled_explored columns hbounds hlength
  have hpos : 0 < (explored m columns bound).2.size := by
    rw [hsize]
    exact (List.getElem?_eq_some_iff.1 hstart).1
  have htable : explore m columns bound = ofRows columns (explored m columns bound).2
      ((explored m columns bound).1.items.map m.isMatch) hpos := dif_pos hpos
  rw [htable]
  refine ⟨rfl, by rw [← hsize]; exact Array.size_map, fun i s hs => ⟨?_, ?_⟩⟩
  · have hitem : (explored m columns bound).1.items[i]? = some s := by rwa [← Array.getElem?_toList]
    simp [matchesAt, ofRows, hitem]
  · have hi : i < (explored m columns bound).2.size := by
      rw [hsize]
      exact (List.getElem?_eq_some_iff.1 hs).1
    obtain ⟨row, hrow, htargets⟩ := hfilled.row i hi s hs
    rw [← htargets]
    simp only [Tabled.row, ofRows, Array.getD_eq_getD_getElem?, Array.getElem?_map, hrow,
      Option.map_some, Option.getD_some, Array.toList_map, List.map_map]
    refine List.map_congr_left fun v hv => ?_
    have hmem :
        (explored m columns bound).1.toList[v]? ∈ (columns.symbols.map (m.next s)).map some :=
      htargets ▸ List.mem_map_of_mem hv
    obtain ⟨u, -, hu⟩ := List.mem_map.1 hmem
    have hlt := (List.getElem?_eq_some_iff.1 hu.symm).1
    rw [Function.comp_apply, if_pos (hsize ▸ hlt)]

variable {columns}

/-- The entry of a row is the number of the state that the symbol leads to. -/
theorem getElem?_row_explore (hbounds : Bounds support m) (hlength : support.length ≤ bound)
    (hdistinguishes : Distinguishes columns m) {i : Nat} {s : σ}
    (hs : (explored m columns bound).1.toList[i]? = some s) (x : Symbol) :
    ∃ v, ((explore m columns bound).row i)[(explore m columns bound).columns.index x]? = some v ∧
      (explored m columns bound).1.toList[v]? = some (m.next s x) := by
  obtain ⟨hcolumns, -, hspec⟩ := explore_spec columns hbounds hlength
  obtain ⟨y, hy, hnext⟩ := hdistinguishes s x
  have htargets := congrArg (·[columns.index x]?) (hspec i s hs).2
  simp only [List.getElem?_map, hy, Option.map_some, hnext, Array.getElem?_toList] at htargets
  obtain ⟨v, hv, htarget⟩ := Option.map_eq_some_iff.1 htargets
  exact ⟨v, by rw [hcolumns, hv], htarget⟩

/-- The table of a machine runs as the machine does. -/
theorem simulates_explore (hbounds : Bounds support m) (hlength : support.length ≤ bound)
    (hdistinguishes : Distinguishes columns m) :
    (explore m columns bound).toMachine.Simulates m
      fun i s => (explored m columns bound).1.toList[i]? = some s where
  start := (filled_explored columns hbounds hlength).2.2
  next i s hs x := by
    obtain ⟨v, hv, htarget⟩ := getElem?_row_explore hbounds hlength hdistinguishes hs x
    have hnext : (explore m columns bound).next i x = v := next_eq_of_getElem? hv
    have hmachine : (explore m columns bound).toMachine.next i x =
      (explore m columns bound).next i x := rfl
    rw [hmachine, hnext, htarget]
  isMatch i s hs := ((explore_spec columns hbounds hlength).2.2 i s hs).1

theorem covered_explore (hbounds : Bounds support m) (hlength : support.length ≤ bound)
    (hdistinguishes : Distinguishes columns m) : (explore m columns bound).Covered := by
  intro i hi x
  rw [(explore_spec columns hbounds hlength).2.1] at hi
  obtain ⟨v, hv, -⟩ := getElem?_row_explore hbounds hlength hdistinguishes
    (List.getElem?_eq_getElem hi) x
  exact (Array.getElem?_eq_some_iff.1 hv).1

end Fill

end Tabled

end TransitionMap
