import TransitionMap.Machine.Tabled
import TransitionMap.Proofs.Pruning

/-!
# Columns

`Columns.exists_sample`: the division at some starts gives every byte a column, whose sample lies
on the same side of each start as the byte does. A function of bytes that compares them with the
starts only is therefore the same for all bytes of a column.
-/

namespace TransitionMap

/-! ## The greatest start -/

section Starts

variable (P : Nat → Bool)

/-- The last number with a property below a bound is the greatest one. -/
theorem getLast?_filter_range {n y : Nat} (h : ((List.range n).filter P).getLast? = some y) :
    y < n ∧ ∀ k < n, P k = true → k ≤ y := by
  induction n with
  | zero => cases h
  | succ n ih =>
    rw [List.range_succ, List.filter_append] at h
    cases hn : P n with
    | true =>
      rw [List.filter_cons_of_pos hn, List.filter_nil, List.getLast?_concat, Option.some.injEq] at h
      subst h
      exact ⟨Nat.lt_succ_self n, fun k hk _ => Nat.le_of_lt_succ hk⟩
    | false =>
      rw [List.filter_cons_of_neg (by simp [hn]), List.filter_nil, List.append_nil] at h
      obtain ⟨hy, hgreatest⟩ := ih h
      refine ⟨Nat.lt_succ_of_lt hy, fun k hk hP => hgreatest k ?_ hP⟩
      rcases Nat.lt_or_eq_of_le (Nat.le_of_lt_succ hk) with hk | rfl
      · exact hk
      · rw [hn] at hP
        cases hP

/-- Counting the starts up to a number finds the place of the greatest of them. -/
theorem exists_greatest_start {n b : Nat} (hzero : P 0 = true) (hb : b < n) :
    ∃ y, ((List.range n).filter P)[((List.range (b + 1)).filter P).length - 1]? = some y ∧
      y ≤ b ∧ ∀ k ≤ b, P k = true → k ≤ y := by
  obtain ⟨m, rfl⟩ : ∃ m, n = b + 1 + m := Nat.exists_eq_add_of_le (Nat.succ_le_of_lt hb)
  have hne : (List.range (b + 1)).filter P ≠ [] :=
    List.ne_nil_of_mem (List.mem_filter.2 ⟨List.mem_range.2 (Nat.succ_pos b), hzero⟩)
  obtain ⟨y, hy⟩ := Option.isSome_iff_exists.1 (List.getLast?_isSome.2 hne)
  obtain ⟨hlt, hgreatest⟩ := getLast?_filter_range P hy
  refine ⟨y, ?_, Nat.le_of_lt_succ hlt, fun k hk => hgreatest k (Nat.lt_succ_of_le hk)⟩
  have hpos := List.length_pos_iff.2 hne
  rw [List.range_add, List.filter_append, List.getElem?_append_left (by omega),
    ← List.getLast?_eq_getElem?, hy]

end Starts

namespace Columns

/-! ## The division -/

/-- Where a column begins. -/
def isStart (starts : List Nat) (i : Nat) : Bool := i = 0 || starts.contains i

/-- One more mark. -/
theorem toList_mark {n : Nat} {marks : Array Bool} {f : Nat → Bool}
    (h : marks.toList = (List.range n).map f) (k : Nat) :
    (marks.setIfInBounds k true).toList = (List.range n).map fun i => decide (i = k) || f i := by
  apply List.ext_getElem?
  intro i
  rw [Array.toList_setIfInBounds, h, List.getElem?_set, List.getElem?_map, List.getElem?_map]
  by_cases hlt : i < n
  · by_cases hk : k = i
    · simp [hlt, hk]
    · simp [hlt, hk, Ne.symm hk]
  · rw [List.getElem?_eq_none (by simpa using hlt)]
    simpa using fun hk : k = i => hk ▸ Nat.le_of_not_lt hlt

/-- The marks that the division sets on the bytes. -/
theorem toList_marks (n : Nat) (starts : List Nat) :
    (starts.foldl (fun (a : Array Bool) i => a.setIfInBounds i true)
      ((Array.replicate n false).setIfInBounds 0 true)).toList =
        (List.range n).map (isStart starts) := by
  induction starts using List.reverseRecOn with
  | nil =>
    have hnone : (Array.replicate n false).toList = (List.range n).map fun _ => false := by simp
    rw [List.foldl_nil, toList_mark hnone]
    exact List.map_congr_left fun i _ => by simp [isStart]
  | append_singleton starts k ih =>
    rw [List.foldl_append, List.foldl_cons, List.foldl_nil, toList_mark ih]
    refine List.map_congr_left fun i _ => ?_
    rw [Bool.eq_iff_iff]
    simp only [isStart, Bool.or_eq_true, decide_eq_true_eq, List.contains_iff_mem, List.mem_append,
      List.mem_singleton]
    tauto

/-- The columns that are counted from marks. -/
theorem foldl_columns (marks : List Bool) :
    let acc := marks.foldl
      (fun (acc : Array Nat × Nat) start =>
        let count := if start then acc.2 + 1 else acc.2
        (acc.1.push (count - 1), count)) (#[], 0)
    acc.1.toList = (List.range marks.length).map (fun i => (marks.take (i + 1)).count true - 1) ∧
      acc.2 = marks.count true := by
  induction marks using List.reverseRecOn with
  | nil => exact ⟨rfl, rfl⟩
  | append_singleton marks start ih =>
    obtain ⟨hcolumns, hcount⟩ := ih
    simp only [List.foldl_append, List.foldl_cons, List.foldl_nil]
    have hnew : (if start then marks.count true + 1 else marks.count true) =
        (marks ++ [start]).count true := by
      cases start <;> simp
    rw [hcount, hnew]
    refine ⟨?_, rfl⟩
    rw [Array.toList_push, hcolumns, List.length_append, List.length_singleton, List.range_succ,
      List.map_append, List.map_singleton]
    congr 1
    · refine List.map_congr_left fun i hi => ?_
      rw [List.take_append_of_le_length (List.mem_range.1 hi)]
    · rw [List.take_of_length_le (by simp)]

theorem column_ofStarts (starts : List Nat) (b : UInt8) :
    (ofStarts starts).column b =
      ((List.range (b.toNat + 1)).filter (isStart starts)).length - 1 := by
  have hlt := b.toNat_lt
  have hcolumns := (foldl_columns ((List.range 256).map (isStart starts))).1
  rw [← toList_marks 256 starts, Array.foldl_toList] at hcolumns
  rw [column, Array.getD_eq_getD_getElem?, ← Array.getElem?_toList]
  unfold ofStarts
  rw [hcolumns, toList_marks]
  simp only [List.length_map, List.length_range, List.getElem?_map, List.getElem?_range hlt,
    Option.map_some, Option.getD_some, ← List.map_take, List.take_range,
    Nat.min_eq_left (Nat.succ_le_of_lt hlt)]
  rw [List.count_eq_countP, List.countP_map, List.countP_eq_length_filter]
  simp [Function.comp_def]

theorem samples_ofStarts (starts : List Nat) :
    (ofStarts starts).samples = ((List.range 256).filter (isStart starts)).map UInt8.ofNat := by
  have hmark : ∀ i ∈ List.range 256, (List.range 256 |>.map (isStart starts))[i]?.getD false =
      isStart starts i := fun i hi => by
    simp [List.mem_range.1 hi]
  simp only [ofStarts, allBytes, List.filter_map]
  congr 1
  refine List.filter_congr fun i hi => ?_
  have htoNat : (UInt8.ofNat i).toNat = i := UInt8.toNat_ofNat_of_lt' (List.mem_range.1 hi)
  rw [Function.comp_apply, htoNat, Array.getD_eq_getD_getElem?, ← Array.getElem?_toList,
    toList_marks, hmark i hi]

/-- The sample of the column of a byte lies on the same side of each start. -/
theorem exists_sample (starts : List Nat) (b : UInt8) :
    ∃ y, (ofStarts starts).samples[(ofStarts starts).column b]? = some y ∧
      ∀ k ∈ starts, k ≤ y.toNat ↔ k ≤ b.toNat := by
  obtain ⟨y, hy, hle, hgreatest⟩ := exists_greatest_start (isStart starts) rfl b.toNat_lt
  have hlt : y < 256 := Nat.lt_of_le_of_lt hle b.toNat_lt
  refine ⟨UInt8.ofNat y, ?_, fun k hk => ?_⟩
  · rw [column_ofStarts, samples_ofStarts, List.getElem?_map, hy, Option.map_some]
  · rw [UInt8.toNat_ofNat_of_lt' hlt]
    refine ⟨fun h => Nat.le_trans h hle, fun h => hgreatest k h ?_⟩
    simp [isStart, hk]

end Columns

end TransitionMap
