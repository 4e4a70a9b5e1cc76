import Mathlib.Data.List.Nodup
import TransitionMap.Proofs.Records

/-!
# Entries in key order

Sorting puts entries in the order of state and byte and leaves those of one state and byte in the
order they come in (`stablySorted_sortByKey`). A merge sort keeps the elements of a class in order
if it counts them all as equal (`filter_mergeSort`).
-/

namespace TransitionMap

theorem filter_mergeSort {α : Type} {le : α → α → Bool} (p : α → Bool) (l : List α)
    (trans : ∀ a b c, le a b = true → le b c = true → le a c = true)
    (total : ∀ a b, (le a b || le b a) = true)
    (equal : ∀ a ∈ l, ∀ b ∈ l, p a = true → p b = true → le a b = true) :
    (l.mergeSort le).filter p = l.filter p := by
  have hclass : (l.filter p).Pairwise fun a b => le a b = true := by
    refine List.pairwise_of_forall_mem_list fun a ha b hb => ?_
    rw [List.mem_filter] at ha hb
    exact equal a ha.1 b hb.1 ha.2 hb.2
  have hsub : (l.filter p).Sublist (l.mergeSort le) :=
    List.sublist_mergeSort trans total hclass List.filter_sublist
  have hfiltered := hsub.filter p
  rw [List.filter_filter] at hfiltered
  simp only [Bool.and_self] at hfiltered
  have hlength := ((List.mergeSort_perm l le).filter p).length_eq
  exact (hfiltered.eq_of_length hlength.symm).symm

/-- A list holds the entries of another in the order of state and byte, and those of one state and
byte in the order they come in the other. -/
structure StablySorted (entries sorted : List Entry) : Prop where
  perm : sorted.Perm entries
  ordered : sorted.Pairwise fun d e =>
    d.key.state < e.key.state ∨ (d.key.state = e.key.state ∧ d.key.unit ≤ e.key.unit)
  stable : ∀ (state : StateId) (unit : UInt8),
    sorted.filter (fun e => e.key.state = state ∧ e.key.unit = unit) =
      entries.filter fun e => e.key.state = state ∧ e.key.unit = unit

theorem Key.state_lt_or_of_rank_le {k l : Key} (h : k.rank ≤ l.rank) :
    k.state < l.state ∨ (k.state = l.state ∧ k.unit ≤ l.unit) := by
  have hk := k.unit.toNat_lt
  have hl := l.unit.toNat_lt
  have hk' := k.padding.toNat_lt
  have hl' := l.padding.toNat_lt
  simp only [rank] at h
  rw [UInt16.lt_iff_toNat_lt, ← UInt16.toNat_inj, UInt8.le_iff_toNat_le]
  omega

theorem Key.state_lt_or_of_rank_lt {k l : Key} (hpadding : k.padding = l.padding)
    (h : k.rank < l.rank) : k.state < l.state ∨ (k.state = l.state ∧ k.unit < l.unit) := by
  have hk := k.unit.toNat_lt
  have hl := l.unit.toNat_lt
  have hl' := l.padding.toNat_lt
  simp only [rank, hpadding] at h
  rw [UInt16.lt_iff_toNat_lt, ← UInt16.toNat_inj, UInt8.lt_iff_toNat_lt]
  omega

theorem Key.rank_injective {k l : Key} (h : k.rank = l.rank) : k = l := by
  have hk := k.unit.toNat_lt
  have hl := l.unit.toNat_lt
  have hk' := k.padding.toNat_lt
  have hl' := l.padding.toNat_lt
  obtain ⟨state, unit, padding⟩ := k
  obtain ⟨state', unit', padding'⟩ := l
  simp only [rank] at h hk hl hk' hl'
  rw [Key.mk.injEq, ← UInt16.toNat_inj, ← UInt8.toNat_inj, ← UInt8.toNat_inj]
  omega

namespace Entry

theorem perm_sortByKey (entries : List Entry) : (sortByKey entries).Perm entries :=
  List.mergeSort_perm _ _

theorem rank_le_trans (d e f : Entry) (h : decide (d.key.rank ≤ e.key.rank) = true)
    (h' : decide (e.key.rank ≤ f.key.rank) = true) : decide (d.key.rank ≤ f.key.rank) = true := by
  rw [decide_eq_true_eq] at h h' ⊢
  exact Nat.le_trans h h'

theorem rank_le_total (d e : Entry) :
    (decide (d.key.rank ≤ e.key.rank) || decide (e.key.rank ≤ d.key.rank)) = true := by
  rw [Bool.or_eq_true, decide_eq_true_eq, decide_eq_true_eq]
  exact Nat.le_total _ _

theorem length_sortByKey (entries : List Entry) : (sortByKey entries).length = entries.length :=
  (perm_sortByKey entries).length_eq

theorem pairwise_sortByKey (entries : List Entry) :
    (sortByKey entries).Pairwise fun d e => d.key.rank ≤ e.key.rank :=
  (List.pairwise_mergeSort rank_le_trans rank_le_total entries).imp of_decide_eq_true

theorem sortByKey_sortByKey (entries : List Entry) :
    sortByKey (sortByKey entries) = sortByKey entries :=
  List.mergeSort_of_pairwise (List.pairwise_mergeSort rank_le_trans rank_le_total entries)

/-- Entries of distinct keys have one order. -/
theorem sortByKey_eq_of_perm {entries entries' : List Entry} (h : entries.Perm entries')
    (distinct : (entries.map Entry.key).Nodup) : sortByKey entries = sortByKey entries' := by
  have hperm : (sortByKey entries).Perm (sortByKey entries') :=
    (perm_sortByKey entries).trans (h.trans (perm_sortByKey entries').symm)
  refine List.Perm.eq_of_pairwise (fun d e hd he hle hge => ?_) (pairwise_sortByKey entries)
    (pairwise_sortByKey entries') hperm
  have hrank : d.key.rank = e.key.rank := Nat.le_antisymm hle hge
  have hd' : d ∈ entries := (perm_sortByKey entries).mem_iff.1 hd
  have he' : e ∈ entries := h.mem_iff.2 ((perm_sortByKey entries').mem_iff.1 he)
  exact List.inj_on_of_nodup_map distinct hd' he' (Key.rank_injective hrank)

theorem pairwise_lt_sortByKey {entries : List Entry} (distinct : (entries.map Entry.key).Nodup) :
    (sortByKey entries).Pairwise fun d e => d.key.rank < e.key.rank := by
  have hkeys : ((sortByKey entries).map Entry.key).Nodup :=
    ((perm_sortByKey entries).map Entry.key).nodup_iff.2 distinct
  have hne := List.pairwise_map.1 hkeys
  refine ((pairwise_sortByKey entries).and hne).imp fun h => ?_
  exact Nat.lt_of_le_of_ne h.1 fun hrank => h.2 (Key.rank_injective hrank)

theorem stablySorted_sortByKey {entries : List Entry} (h : ∀ e ∈ entries, e.key.padding = 0) :
    StablySorted entries (sortByKey entries) where
  perm := perm_sortByKey entries
  ordered := (pairwise_sortByKey entries).imp Key.state_lt_or_of_rank_le
  stable state unit := by
    apply filter_mergeSort _ _ rank_le_trans rank_le_total
    intro d hd e he hd' he'
    simp only [decide_eq_true_eq] at hd' he' ⊢
    simp only [Key.rank, hd'.1, hd'.2, he'.1, he'.2, h d hd, h e he, Nat.le_refl]

end Entry

end TransitionMap
