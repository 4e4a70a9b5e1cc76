import Mathlib.Data.List.TakeWhile
import Mathlib.Order.Bounds.Basic
import TransitionMap.Proofs.Pattern.Settling

/-!
# The first match of a thread program

Threads behind one that has ended a match are dropped, but nothing is dropped before the first
match: without assertions, a word with no proper beginning that ends a match ends one exactly when
a thread can read it from the start (`Program.accepting_after_iff`). So the first place where a
match ends is the first one where a word has been read (`Program.isLeast_accepting_iff`).
-/

namespace TransitionMap.Pattern

open Relation (ReflTransGen)

/-! ## The least number with a property -/

section Least

variable {A B : Nat → Prop} (h : ∀ i, (∀ j < i, ¬ A j) → (A i ↔ B i))
include h

theorem forall_not_iff (i : Nat) : (∀ j < i, ¬ A j) ↔ ∀ j < i, ¬ B j := by
  induction i with
  | zero => simp
  | succ i ih =>
    simp only [Nat.forall_lt_succ_right]
    rw [← ih]
    exact and_congr_right fun hnone => not_congr (h i hnone)

/-- Properties that agree up to the first number with one of them begin at the same number. -/
theorem isLeast_congr (i : Nat) : IsLeast {i | A i} i ↔ IsLeast {i | B i} i := by
  have hleast : ∀ C : Nat → Prop, IsLeast {i | C i} i ↔ C i ∧ ∀ j < i, ¬ C j := fun C => by
    refine and_congr_right fun _ => ⟨fun hi j hj hC => Nat.not_le_of_lt hj (hi hC),
      fun hi j hC => ?_⟩
    by_contra hj
    exact hi j (Nat.lt_of_not_le hj) hC
  rw [hleast, hleast, ← forall_not_iff h, and_comm, and_comm (a := B i)]
  exact and_congr_right (h i)

end Least

namespace Program

variable {p : Program} {holds : Assertion → Bool}

/-- Where no thread is left, none comes back. -/
theorem step_of_nodes_eq_nil {t : Threads} (ht : t.nodes = []) (x : Symbol) :
    (t.step p x).matched = false ∧ (t.step p x).nodes = [] := by
  have hinformed : t.informed p x = [] := by
    simp [Threads.informed, ht]
  cases x with
  | none => simp [Threads.step, hinformed]
  | some b => simp [Threads.step, Threads.ofTargets, hinformed, settle, advance]

/-! ## Reading behind what leads on -/

theorem Reads.lt_size {n i : Nat} {w : Bytes} (h : p.Reads n i w) : i < p.size := by
  cases h with
  | accept hi => exact (Array.getElem?_eq_some_iff.1 hi).1
  | lead hlead _ => exact hlead.lt_size
  | byte hbyte _ =>
    by_contra hge
    simp [target?, Array.getElem?_eq_none (Nat.le_of_not_lt hge)] at hbyte

/-- Whatever can be read behind a node can be read from where a thread comes to it. -/
theorem LeadsTo.reads {i j n : Nat} {w : Bytes} (h : p.LeadsTo holds i j) (hread : p.Reads n j w) :
    ∃ m, p.Reads m i w := by
  induction h using ReflTransGen.head_induction_on with
  | refl => exact ⟨n, hread⟩
  | head hlead _ ih =>
    obtain ⟨m, hm⟩ := ih
    exact ⟨m + 1, .lead (hlead.imp fun _ _ => rfl) hm⟩

theorem exists_reads_nil_iff {i : Nat} :
    (∃ n, p.Reads n i []) ↔ ∃ j, p.LeadsTo (fun _ => true) i j ∧ p[j]? = some .accept := by
  constructor
  · rintro ⟨n, hread⟩
    generalize hw : ([] : Bytes) = w at hread
    induction hread with
    | accept hi => exact ⟨_, .refl, hi⟩
    | lead hlead _ ih =>
      obtain ⟨j, hled, hj⟩ := ih hw
      exact ⟨j, .head hlead hled, hj⟩
    | byte => cases hw
  · rintro ⟨j, hled, hj⟩
    exact hled.reads (.accept hj : p.Reads 0 j [])

theorem exists_reads_cons_iff {i : Nat} {b : UInt8} {w : Bytes} :
    (∃ n, p.Reads n i (b :: w)) ↔
      ∃ j k, p.LeadsTo (fun _ => true) i j ∧ p.target? b j = some k ∧ ∃ n, p.Reads n k w := by
  constructor
  · rintro ⟨n, hread⟩
    generalize hw : b :: w = v at hread
    induction hread with
    | accept => cases hw
    | lead hlead _ ih =>
      obtain ⟨j, k, hled, hbyte, hk⟩ := ih hw
      exact ⟨j, k, .head hlead hled, hbyte, hk⟩
    | byte hbyte hread _ =>
      obtain ⟨rfl, rfl⟩ := List.cons.inj hw
      exact ⟨_, _, .refl, hbyte, _, hread⟩
  · rintro ⟨j, k, hled, hbyte, n, hread⟩
    exact hled.reads (.byte hbyte hread)

/-- What a thread can read behind a byte, a thread in front of the byte could read with it. -/
theorem exists_reads_of_step {t : Threads} (ht : Threads.Settled p t) {b : UInt8} {i n : Nat}
    {w : Bytes} (hi : i ∈ (t.step p (some b)).nodes) (hread : p.Reads n i w) :
    ∃ j ∈ t.nodes, ∃ m, p.Reads m j (b :: w) := by
  obtain ⟨-, k, hk, hled⟩ := mem_settle_iff.1 hi
  obtain ⟨m, hm⟩ := hled.reads hread
  obtain ⟨j, hj, hbyte⟩ := List.mem_filterMap.1 hk
  have hinformed := (List.takeWhile_prefix _).subset hj
  obtain ⟨-, i', hi', hled'⟩ := ht.mem_informed_iff.1 hinformed
  exact ⟨i', hi', hled'.reads (.byte hbyte hm)⟩

/-- Whatever a thread can read behind a word can be read with it from the start. -/
theorem exists_reads_of_after {entry i n : Nat} {u w : Bytes}
    (hi : i ∈ ((p.toMachine entry).after (p.toMachine entry).start u).nodes)
    (hread : p.Reads n i w) :
    ∃ m, p.Reads m entry (u ++ w) := by
  induction u using List.reverseRecOn generalizing i n w with
  | nil =>
    obtain ⟨-, thread, hthread, hled⟩ := mem_settle_iff.1 hi
    obtain rfl := List.mem_singleton.1 hthread
    exact hled.reads hread
  | append_singleton u b ih =>
    rw [Machine.after_append] at hi
    obtain ⟨j, hj, m, hm⟩ := exists_reads_of_step (p.settled_after entry u) hi hread
    rw [List.append_assoc]
    exact ih hj hm

/-- When a match is reported, a word that ends one has been read from the start. -/
theorem exists_reads_of_matched {entry : Nat} {u : Bytes} {x : Symbol}
    (h : (((p.toMachine entry).after (p.toMachine entry).start u).step p x).matched = true) :
    ∃ n, p.Reads n entry u := by
  obtain ⟨i, hi, j, hled, haccept⟩ := (p.settled_after entry u).matched_step_iff.1 h
  obtain ⟨n, hn⟩ := hled.reads (.accept haccept : p.Reads 0 j [])
  rw [← List.append_nil u]
  exact exists_reads_of_after hi hn

/-! ## Programs without assertions -/

section Free

variable (hfree : ∀ i, p.assertion? i = none)
include hfree

theorem leads_of_free {holds' : Assertion → Bool} {i j : Nat} (h : p.Leads holds i j) :
    p.Leads holds' i j := by
  rcases h with ⟨k, hi⟩ | ⟨k, hi⟩ | ⟨a, hi, -⟩
  · exact .first k hi
  · exact .second k hi
  · have hnone := hfree i
    simp [assertion?, hi] at hnone

theorem leadsTo_of_free {holds' : Assertion → Bool} {i j : Nat} (h : p.LeadsTo holds i j) :
    p.LeadsTo holds' i j :=
  ReflTransGen.mono (fun _ _ => leads_of_free hfree) i j h

theorem informed_of_free (t : Threads) (x : Symbol) : t.informed p x = t.nodes :=
  Threads.informed_eq_nodes (fun i _ => hfree i) x

/-- As long as no match has ended, what threads can read behind a byte is what they could read. -/
theorem reads_step_iff {t : Threads} (ht : Threads.Settled p t)
    (hnone : (t.step p none).matched = false) (b : UInt8) (w : Bytes) :
    (∃ i ∈ (t.step p (some b)).nodes, ∃ n, p.Reads n i w) ↔
      ∃ i ∈ t.nodes, ∃ n, p.Reads n i (b :: w) := by
  have hkept : (t.nodes.takeWhile fun i => !p.isAccept i) = t.nodes := by
    have hall : t.nodes.any p.isAccept = false := by
      rw [← informed_of_free hfree t none]
      exact hnone
    refine List.takeWhile_eq_self_iff.2 fun i hi => ?_
    rw [Bool.eq_false_iff.2 (List.any_eq_false.1 hall i hi), Bool.not_false]
  have hnodes : (t.step p (some b)).nodes =
      p.settle (Before.ofByte b).settles (t.nodes.filterMap (p.target? b)) := by
    simp only [Threads.step, Threads.ofTargets, informed_of_free hfree, hkept]
  constructor
  · rintro ⟨i, hi, n, hread⟩
    exact exists_reads_of_step ht hi hread
  · rintro ⟨i, hi, hread⟩
    rw [hnodes]
    obtain ⟨j, k, hled, hbyte, n, hk⟩ := exists_reads_cons_iff.1 hread
    have hjmem : j ∈ t.nodes := by
      rw [← informed_of_free hfree t none]
      have hlt : j < p.size := (Reads.byte hbyte hk).lt_size
      exact ht.mem_informed_iff.2 ⟨hlt, i, hi, leadsTo_of_free hfree hled⟩
    have hkmem := List.mem_filterMap.2 ⟨j, hjmem, hbyte⟩
    exact ⟨k, mem_settle_iff.2 ⟨hk.lt_size, k, hkmem, .refl⟩, n, hk⟩

theorem accepting_after_of_settled {entry : Nat} {t : Threads} (ht : Threads.Settled p t)
    (w : Bytes) (hnone : ∀ u v, w = u ++ v → v ≠ [] →
      (p.toMachine entry).accepting ((p.toMachine entry).after t u) = false) :
    (p.toMachine entry).accepting ((p.toMachine entry).after t w) = true ↔
      ∃ i ∈ t.nodes, ∃ n, p.Reads n i w := by
  induction w generalizing t with
  | nil =>
    refine ht.matched_step_iff.trans ?_
    simp only [exists_reads_nil_iff]
    refine exists_congr fun i => and_congr_right fun _ => exists_congr fun j =>
      and_congr_left fun _ => ?_
    exact ⟨leadsTo_of_free hfree, leadsTo_of_free hfree⟩
  | cons b w ih =>
    rw [Machine.after_cons]
    refine (ih (Threads.settled_step t (some b)) fun u v hw hv => ?_).trans ?_
    · exact hnone (b :: u) v (by rw [hw, List.cons_append]) hv
    · exact reads_step_iff hfree ht (hnone [] (b :: w) rfl (List.cons_ne_nil b w)) b w

/-- A word that no match has ended in ends one exactly when it can be read from the start. -/
theorem accepting_after_iff (entry : Nat) (w : Bytes)
    (hnone : ∀ u v, w = u ++ v → v ≠ [] →
      (p.toMachine entry).accepting ((p.toMachine entry).after (p.toMachine entry).start u) =
        false) :
    (p.toMachine entry).accepting ((p.toMachine entry).after (p.toMachine entry).start w) = true ↔
      ∃ n, p.Reads n entry w := by
  refine (accepting_after_of_settled hfree (p.settled_after entry []) w hnone).trans ?_
  constructor
  · rintro ⟨i, hi, n, hread⟩
    exact exists_reads_of_after (u := []) hi hread
  · rintro ⟨n, hread⟩
    have hmem := List.mem_singleton_self entry
    exact ⟨entry, mem_settle_iff.2 ⟨hread.lt_size, entry, hmem, .refl⟩, n, hread⟩

/-- The shortest beginning that a match ends in is the shortest one that can be read. -/
theorem isLeast_accepting_iff (entry : Nat) (w : Bytes) (i : Nat) :
    IsLeast {i | i ≤ w.length ∧
        (p.toMachine entry).accepting
          ((p.toMachine entry).after (p.toMachine entry).start (w.take i)) = true} i ↔
      IsLeast {i | i ≤ w.length ∧ ∃ n, p.Reads n entry (w.take i)} i := by
  refine isLeast_congr (fun i hnone => and_congr_right fun hi => ?_) i
  refine accepting_after_iff hfree entry (w.take i) fun u v huv hv => ?_
  have hlength : u.length + v.length = i := by
    rw [← List.length_append, ← huv, List.length_take, Nat.min_eq_left hi]
  have hpos := List.length_pos_iff.2 hv
  have hu : u = w.take u.length := by
    rw [← Nat.min_eq_left (show u.length ≤ i by omega), ← List.take_take, huv, List.take_left]
  refine Bool.eq_false_iff.2 fun hacc => hnone u.length (by omega) ⟨by omega, ?_⟩
  rwa [← hu]

end Free

end Program

end TransitionMap.Pattern
