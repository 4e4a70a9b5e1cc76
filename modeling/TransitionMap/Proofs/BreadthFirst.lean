import Mathlib.Data.Prod.Lex
import Mathlib.Data.Set.Finite.Basic
import Mathlib.Order.Lattice.Nat
import TransitionMap.Proofs.Exploration

/-!
# Exploration is breadth first

The elements that exploration finds are the start and the successors of these very elements, in
their order and each once (`OrderedSet.Unfolds`). From this alone follows the order:

* `OrderedSet.Unfolds.exists_earlier`: what leads to an element comes behind something that leads to
  the elements in front of it;
* `OrderedSet.Unfolds.exists_le_steps`: no element takes more steps than one behind it;
* `Automaton.enumerate_breadth_first`: so an automaton is enumerated by distance and, after the
  start, by first discovery.
-/

namespace TransitionMap

theorem eq_take_append_cons_drop {α : Type} {l : List α} {i : Nat} {a : α} (h : l[i]? = some a) :
    l = l.take i ++ a :: l.drop (i + 1) := by
  obtain ⟨hlt, rfl⟩ := List.getElem?_eq_some_iff.1 h
  rw [← List.drop_eq_getElem_cons, List.take_append_drop]

namespace OrderedSet

variable {α : Type}

/-- What can be reached in so many steps. -/
inductive ReachesIn (next : α → List α) (start : α) : Nat → α → Prop
  | start : ReachesIn next start 0 start
  | step {n : Nat} {a b : α} : ReachesIn next start n a → b ∈ next a →
      ReachesIn next start (n + 1) b

/-- The element at the first position of a list has `b` at the second one among its successors. -/
def LeadsAt (next : α → List α) (order : List α) (b : α) (p : ℕ ×ₗ ℕ) : Prop :=
  ∃ a, order[(ofLex p).1]? = some a ∧ (next a)[(ofLex p).2]? = some b

variable {next : α → List α} {start : α}

theorem ReachesIn.reaches {n : Nat} {a : α} (h : ReachesIn next start n a) :
    Reaches next start a := by
  induction h with
  | start => exact .refl
  | step _ hb ih => exact ih.tail hb

theorem Reaches.exists_reachesIn {a : α} (h : Reaches next start a) :
    ∃ n, ReachesIn next start n a := by
  induction h with
  | refl => exact ⟨0, .start⟩
  | tail _ hb ih =>
    obtain ⟨n, hn⟩ := ih
    exact ⟨n + 1, hn.step hb⟩

/-- The successors of all elements are those up to one of them, this one, and those behind it. -/
theorem flatMap_eq_append_cons {order : List α} {a c : α} {k l : Nat} (ha : order[k]? = some a)
    (hc : (next a)[l]? = some c) :
    order.flatMap next = ((order.take k).flatMap next ++ (next a).take l) ++
      c :: ((next a).drop (l + 1) ++ (order.drop (k + 1)).flatMap next) := by
  calc order.flatMap next
      = (order.take k ++ a :: order.drop (k + 1)).flatMap next := by
        rw [← eq_take_append_cons_drop ha]
    _ = (order.take k).flatMap next ++ (next a ++ (order.drop (k + 1)).flatMap next) := by
        rw [List.flatMap_append, List.flatMap_cons]
    _ = (order.take k).flatMap next ++ (((next a).take l ++ c :: (next a).drop (l + 1)) ++
          (order.drop (k + 1)).flatMap next) := by
        rw [← eq_take_append_cons_drop hc]
    _ = _ := by simp only [List.append_assoc, List.cons_append]

variable [DecidableEq α] [Hashable α]

/-! ## Unfolding -/

/-- A list of the start and the successors of the elements in front of a position, in their order
and each once. -/
def UnfoldsTo (next : α → List α) (start : α) (cursor : Nat) (order : List α) : Prop :=
  order = (ofList (start :: (order.take cursor).flatMap next)).toList

/-- A list of the start and the successors of its own elements, in their order and each once. -/
def Unfolds (next : α → List α) (start : α) (order : List α) : Prop :=
  order = (ofList (start :: order.flatMap next)).toList

theorem toList_insertAll_congr {s t : OrderedSet α} (h : s.toList = t.toList) (as : List α) :
    (s.insertAll as).toList = (t.insertAll as).toList := by
  induction as generalizing s t with
  | nil => exact h
  | cons a as ih =>
    refine ih (s := s.insert a) (t := t.insert a) ?_
    rw [toList_insert, toList_insert, h]

theorem unfoldsTo_init (next : α → List α) (start : α) :
    UnfoldsTo next start 0 (empty.insert start).toList := rfl

theorem UnfoldsTo.visit {cursor : Nat} {s : OrderedSet α} {a : α}
    (h : UnfoldsTo next start cursor s.toList) (ha : s.toList[cursor]? = some a) :
    UnfoldsTo next start (cursor + 1) (s.insertAll (next a)).toList := by
  have hlt := (List.getElem?_eq_some_iff.1 ha).1
  have htake : (s.insertAll (next a)).toList.take (cursor + 1) = s.toList.take cursor ++ [a] := by
    obtain ⟨rest, hrest⟩ := prefix_insertAll s (next a)
    rw [← hrest, List.take_append_of_le_length hlt, List.take_add_one, ha, Option.toList_some]
  have hsplit : start :: (s.toList.take cursor ++ [a]).flatMap next =
      (start :: (s.toList.take cursor).flatMap next) ++ next a := by simp
  rw [UnfoldsTo, htake, hsplit, ofList_append]
  exact toList_insertAll_congr h (next a)

theorem Visits.unfolds {cursor : Nat} {s last : OrderedSet α} (h : Visits next cursor s last)
    (hs : UnfoldsTo next start cursor s.toList) : Unfolds next start last.toList := by
  induction h with
  | done hnone =>
    rw [get?_eq, List.getElem?_eq_none_iff] at hnone
    rwa [UnfoldsTo, List.take_of_length_le hnone] at hs
  | visit hsome _ ih =>
    rw [get?_eq] at hsome
    exact ih (hs.visit hsome)

/-! ## The order of an unfolding -/

namespace Unfolds

variable {order : List α} (h : Unfolds next start order)
include h

theorem nodup : order.Nodup := by
  rw [h]
  exact nodup_toList _

theorem mem_iff (a : α) : a ∈ order ↔ a = start ∨ ∃ b ∈ order, a ∈ next b := by
  conv_lhs => rw [h]
  rw [mem_ofList, List.mem_cons, List.mem_flatMap]

theorem mem_of_reaches {a : α} (ha : Reaches next start a) : a ∈ order :=
  ha.mem_of_closed ((h.mem_iff start).2 (.inl rfl)) fun b hb c hc =>
    (h.mem_iff c).2 (.inr ⟨b, hb, hc⟩)

theorem getElem?_zero : order[0]? = some start := by
  have hbegins := prefix_insertAll (empty.insert start) (order.flatMap next)
  have hfirst : (empty.insert start).toList[0]? = some start := by simp [toList_insert]
  rw [h]
  exact getElem?_mono hbegins hfirst

theorem exists_leadsAt {a : α} (ha : a ∈ order) (hne : a ≠ start) :
    ∃ p, LeadsAt next order a p := by
  rcases (h.mem_iff a).1 ha with rfl | ⟨b, hb, hab⟩
  · exact absurd rfl hne
  · obtain ⟨i, hi⟩ := List.mem_iff_getElem?.1 hb
    obtain ⟨k, hk⟩ := List.mem_iff_getElem?.1 hab
    exact ⟨toLex (i, k), b, hi, hk⟩

/-- What leads to an element comes behind something that leads to an element in front of it. -/
theorem exists_earlier {b c : α} {i j : Nat} (hb : order[i]? = some b) (hc : order[j]? = some c)
    (hij : i < j) (hne : b ≠ start) {q : ℕ ×ₗ ℕ} (hq : LeadsAt next order c q) :
    ∃ p < q, LeadsAt next order b p := by
  obtain ⟨a, ha, hk⟩ := hq
  set k := (ofLex q).1
  set l := (ofLex q).2
  have hlist : order = (ofList ((start :: ((order.take k).flatMap next ++ (next a).take l)) ++
      c :: ((next a).drop (l + 1) ++ (order.drop (k + 1)).flatMap next))).toList := by
    rw [List.cons_append, ← flatMap_eq_append_cons ha hk]
    exact h
  have hmem : b ∈ start :: ((order.take k).flatMap next ++ (next a).take l) := by
    rw [hlist] at hb hc
    exact mem_of_lt_position hc hij hb
  rcases List.mem_append.1 ((List.mem_cons.1 hmem).resolve_left hne) with hearlier | hearlier
  · obtain ⟨a', ha', hba'⟩ := List.mem_flatMap.1 hearlier
    obtain ⟨k', hk'⟩ := List.mem_iff_getElem?.1 ha'
    obtain ⟨l', hl'⟩ := List.mem_iff_getElem?.1 hba'
    rw [List.getElem?_take, Option.ite_none_right_eq_some] at hk'
    exact ⟨toLex (k', l'), Prod.Lex.lt_iff.2 (.inl hk'.1), a', hk'.2, hl'⟩
  · obtain ⟨l', hl'⟩ := List.mem_iff_getElem?.1 hearlier
    rw [List.getElem?_take, Option.ite_none_right_eq_some] at hl'
    exact ⟨toLex (k, l'), Prod.Lex.lt_iff.2 (.inr ⟨rfl, hl'.1⟩), a, ha, hl'.2⟩

/-- No element takes more steps than one behind it. -/
theorem exists_le_steps {n : Nat} {b c : α} {i j : Nat} (hc : ReachesIn next start n c)
    (hi : order[i]? = some b) (hj : order[j]? = some c) (hij : i ≤ j) :
    ∃ m ≤ n, ReachesIn next start m b := by
  -- the steps to `c`, not its place, lead the induction: its predecessor may stand behind it
  induction hc generalizing i j b with
  | start =>
    have hlt := (List.getElem?_eq_some_iff.1 h.getElem?_zero).1
    have hzero : 0 = j := (List.getElem?_inj hlt h.nodup).1 (h.getElem?_zero.trans hj.symm)
    obtain rfl : i = 0 := by omega
    rw [h.getElem?_zero, Option.some.injEq] at hi
    exact ⟨0, Nat.le_refl 0, hi ▸ .start⟩
  | @step n a c ha hac ih =>
    by_cases hstart : b = start
    · exact ⟨0, Nat.zero_le _, hstart ▸ .start⟩
    rcases Nat.lt_or_eq_of_le hij with hlt | rfl
    · obtain ⟨k, hk⟩ := List.mem_iff_getElem?.1 (h.mem_of_reaches ha.reaches)
      obtain ⟨l, hl⟩ := List.mem_iff_getElem?.1 hac
      obtain ⟨p, hp, a', ha', hab⟩ :=
        h.exists_earlier hi hj hlt hstart (q := toLex (k, l)) ⟨a, hk, hl⟩
      have hle : (ofLex p).1 ≤ k := by
        rcases Prod.Lex.lt_iff.1 hp with hlt | ⟨heq, -⟩
        · exact Nat.le_of_lt hlt
        · exact Nat.le_of_eq heq
      obtain ⟨m, hm, ha'⟩ := ih ha' hk hle
      exact ⟨m + 1, by omega, ha'.step (List.mem_of_getElem? hab)⟩
    · rw [hi, Option.some.injEq] at hj
      exact ⟨n + 1, Nat.le_refl _, hj ▸ ha.step hac⟩

end Unfolds

end OrderedSet

namespace Automaton

variable {σ : Type}

/-- What so many transitions lead to. -/
def ReachesIn (a : Automaton σ) (n : Nat) (s : σ) : Prop :=
  OrderedSet.ReachesIn a.targets a.start n s

/-- The least number of transitions from the start to a state, zero if there is none. -/
noncomputable def distance (a : Automaton σ) (s : σ) : Nat := sInf {n | a.ReachesIn n s}

theorem isLeast_distance {a : Automaton σ} {s : σ} (h : a.Reaches s) :
    IsLeast {n | a.ReachesIn n s} (a.distance s) :=
  ⟨Nat.sInf_mem h.exists_reachesIn, fun _ hn => Nat.sInf_le hn⟩

/-- It is enough that finitely many states can be reached. -/
theorem exists_of_finite {start : σ} {transitions : σ → List (UInt8 × σ)}
    (finite : {s | OrderedSet.Reaches (fun s => (transitions s).map Prod.snd) start s}.Finite)
    (accepting : σ → Bool) (describe : σ → String) :
    ∃ a : Automaton σ, a.start = start ∧ a.transitions = transitions ∧
      a.accepting = accepting ∧ a.describe = describe := by
  have hmem : ∀ s, s ∈ finite.toFinset.toList ↔
      OrderedSet.Reaches (fun s => (transitions s).map Prod.snd) start s := by simp
  have hclosed : ∀ s ∈ finite.toFinset.toList, ∀ t ∈ transitions s,
      t.2 ∈ finite.toFinset.toList := by
    intro s hs t ht
    rw [hmem] at hs ⊢
    exact hs.tail (List.mem_map_of_mem ht)
  exact ⟨{ start, transitions, accepting, describe,
           bound := finite.toFinset.toList.length
           bounded := ⟨_, Nat.le_refl _, (hmem start).2 .refl, hclosed⟩ }, rfl, rfl, rfl, rfl⟩

variable [DecidableEq σ] [Hashable σ]

/-- The transition at the second place of the state at the first place of the enumeration leads to
`t`. -/
def LeadsAt (a : Automaton σ) (t : σ) (p : ℕ ×ₗ ℕ) : Prop :=
  OrderedSet.LeadsAt a.targets a.enumerate t p

theorem visits_enumerate (a : Automaton σ) :
    OrderedSet.Visits a.targets 0 (OrderedSet.empty.insert a.start) a.reachable := by
  obtain ⟨support, hbound, hstart, hclosed⟩ := a.bounded
  refine OrderedSet.visits_reachable hbound hstart fun s hs t ht => ?_
  obtain ⟨u, hu, rfl⟩ := List.mem_map.1 ht
  exact hclosed s hs u hu

theorem unfolds_enumerate (a : Automaton σ) :
    OrderedSet.Unfolds a.targets a.start a.enumerate :=
  a.visits_enumerate.unfolds (OrderedSet.unfoldsTo_init a.targets a.start)

theorem pairwise_distance (a : Automaton σ) :
    a.enumerate.Pairwise fun s t => a.distance s ≤ a.distance t := by
  rw [List.pairwise_iff_getElem]
  intro i j hi hj hij
  have hreach := (a.mem_enumerate_iff _).1 (List.getElem_mem hj)
  obtain ⟨m, hm, hsteps⟩ := a.unfolds_enumerate.exists_le_steps (isLeast_distance hreach).1
    (List.getElem?_eq_getElem hi) (List.getElem?_eq_getElem hj) (Nat.le_of_lt hij)
  exact Nat.le_trans (Nat.sInf_le hsteps) hm

theorem getElem?_tail_ne_start (a : Automaton σ) {i : Nat} {s : σ}
    (h : a.enumerate.tail[i]? = some s) : a.enumerate[i + 1]? = some s ∧ s ≠ a.start := by
  rw [List.getElem?_tail] at h
  refine ⟨h, ?_⟩
  rintro rfl
  have hlt := (List.getElem?_eq_some_iff.1 h).1
  have hzero := a.unfolds_enumerate.getElem?_zero
  have heq : i + 1 = 0 :=
    (List.getElem?_inj hlt a.nodup_enumerate).1 (h.trans hzero.symm)
  omega

/-- Behind the start, every state has a first transition that leads to it. -/
theorem exists_isLeast_leadsAt (a : Automaton σ) {t : σ} (ht : t ∈ a.enumerate.tail) :
    ∃ p, IsLeast {p | a.LeadsAt t p} p := by
  obtain ⟨i, hi⟩ := List.mem_iff_getElem?.1 ht
  obtain ⟨hplace, hne⟩ := a.getElem?_tail_ne_start hi
  have hsome : {p | a.LeadsAt t p}.Nonempty :=
    a.unfolds_enumerate.exists_leadsAt (List.mem_of_getElem? hplace) hne
  obtain ⟨p, hp, hleast⟩ := WellFounded.has_min wellFounded_lt _ hsome
  exact ⟨p, hp, fun q hq => not_lt.1 (hleast q hq)⟩

theorem pairwise_leadsAt (a : Automaton σ) :
    a.enumerate.tail.Pairwise fun s t => ∀ p q,
      IsLeast {p | a.LeadsAt s p} p → IsLeast {q | a.LeadsAt t q} q → p < q := by
  rw [List.pairwise_iff_getElem]
  intro i j hi hj hij p q hp hq
  obtain ⟨hs, hne⟩ := a.getElem?_tail_ne_start (List.getElem?_eq_getElem hi)
  obtain ⟨ht, -⟩ := a.getElem?_tail_ne_start (List.getElem?_eq_getElem hj)
  obtain ⟨r, hr, hleads⟩ :=
    a.unfolds_enumerate.exists_earlier hs ht (Nat.succ_lt_succ hij) hne hq.1
  exact lt_of_le_of_lt (hp.2 hleads) hr

/-- Enumeration ends for every automaton of which finitely many states can be reached, when its
visits come to the end of what they have found, and does not depend on the bound. It lists the
states that can be reached, the start first and each once, by their distance from the start; and
those behind the start by the first transition that leads to them, that is by the least pair of the
place of its source in the list and of its own place in the source. -/
theorem enumerate_breadth_first :
    (∀ (start : σ) (transitions : σ → List (UInt8 × σ)) (accepting : σ → Bool)
      (describe : σ → String),
      {s | OrderedSet.Reaches (fun s => (transitions s).map Prod.snd) start s}.Finite →
      ∃ a : Automaton σ, a.start = start ∧ a.transitions = transitions ∧
        a.accepting = accepting ∧ a.describe = describe) ∧
    ∀ a : Automaton σ,
      (∀ found, OrderedSet.Visits a.targets 0 (OrderedSet.empty.insert a.start) found ↔
        found = a.reachable) ∧
      a.enumerate.Nodup ∧ a.enumerate.head? = some a.start ∧
      (∀ s, s ∈ a.enumerate ↔ a.Reaches s) ∧
      (∀ s ∈ a.enumerate, IsLeast {n | a.ReachesIn n s} (a.distance s)) ∧
      (a.enumerate.Pairwise fun s t => a.distance s ≤ a.distance t) ∧
      (∀ t ∈ a.enumerate.tail, ∃ p, IsLeast {p | a.LeadsAt t p} p) ∧
      a.enumerate.tail.Pairwise fun s t => ∀ p q,
        IsLeast {p | a.LeadsAt s p} p → IsLeast {q | a.LeadsAt t q} q → p < q := by
  refine ⟨fun start transitions accepting describe finite =>
    exists_of_finite finite accepting describe, fun a => ?_⟩
  refine ⟨fun found => ⟨fun h => h.unique a.visits_enumerate, ?_⟩, a.nodup_enumerate,
    a.enumerate_head?, a.mem_enumerate_iff,
    fun s hs => isLeast_distance ((a.mem_enumerate_iff s).1 hs), a.pairwise_distance,
    fun t => a.exists_isLeast_leadsAt, a.pairwise_leadsAt⟩
  rintro rfl
  exact a.visits_enumerate

end Automaton

end TransitionMap
