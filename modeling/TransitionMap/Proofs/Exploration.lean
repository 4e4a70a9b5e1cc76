import Mathlib.Data.Set.Card
import Mathlib.Logic.Relation
import TransitionMap.Automaton

/-!
# Exploration finds what can be reached

Proved here, for any successor function:

* `OrderedSet.mem_insertAll`, `OrderedSet.prefix_insertAll`: what insertions add, and that they
  leave the earlier elements at their positions;
* `OrderedSet.visits_reachable`, `OrderedSet.mem_reachable_iff`: when the bound is the length of a
  list that holds the start and is closed under successors, exploration visits all that it finds,
  and finds exactly what can be reached;
* `Automaton.mem_enumerate_iff`, `Automaton.length_enumerate`: the enumeration of an automaton
  lists its reachable states, each once, and has as many elements as there are such states.
-/

namespace TransitionMap

theorem getElem?_mono {α : Type} {l l' : List α} (h : l <+: l') {i : Nat} {a : α}
    (hi : l[i]? = some a) : l'[i]? = some a := by
  have hlt := (List.getElem?_eq_some_iff.1 hi).1
  rw [List.prefix_iff_getElem?.1 h i hlt, ← List.getElem?_eq_getElem, hi]

namespace OrderedSet

variable {α : Type}

/-- What can be reached from `start` by going to successors. -/
def Reaches (next : α → List α) (start : α) : α → Prop :=
  Relation.ReflTransGen (fun a b => b ∈ next a) start

theorem Reaches.mem_of_closed {next : α → List α} {start : α} {support : List α}
    (hstart : start ∈ support)
    (hclosed : ∀ a ∈ support, ∀ b ∈ next a, b ∈ support) {a : α} (h : Reaches next start a) :
    a ∈ support := by
  induction h with
  | refl => exact hstart
  | tail _ hb ih => exact hclosed _ ih _ hb

variable [DecidableEq α] [Hashable α]

/-! ## Insertions -/

theorem prefix_insert (s : OrderedSet α) (a : α) : s.toList <+: (s.insert a).toList := by
  rw [toList_insert]
  split
  · exact List.prefix_refl _
  · exact List.prefix_append _ _

theorem mem_insertAll (s : OrderedSet α) (as : List α) (b : α) :
    b ∈ (s.insertAll as).toList ↔ b ∈ s.toList ∨ b ∈ as := by
  induction as generalizing s with
  | nil => simp [insertAll]
  | cons a as ih =>
    have h := ih (s.insert a)
    rw [insertAll] at h ⊢
    rw [List.foldl_cons, h, mem_insert, List.mem_cons, or_assoc]

theorem prefix_insertAll (s : OrderedSet α) (as : List α) :
    s.toList <+: (s.insertAll as).toList := by
  induction as generalizing s with
  | nil => exact List.prefix_refl _
  | cons a as ih => exact (prefix_insert s a).trans (ih (s.insert a))

theorem mem_ofList (as : List α) (b : α) : b ∈ (ofList as).toList ↔ b ∈ as := by
  simp [ofList, mem_insertAll]

theorem length_ofList (as : List α) : (ofList as).toList.length = as.toFinset.card := by
  have hsame : (ofList as).toList.toFinset = as.toFinset := by
    ext a
    rw [List.mem_toFinset, List.mem_toFinset, mem_ofList]
  rw [← hsame, List.toFinset_card_of_nodup (nodup_toList _)]

theorem ofList_append (as bs : List α) : ofList (as ++ bs) = (ofList as).insertAll bs :=
  List.foldl_append

theorem position_insert_le (s : OrderedSet α) (a : α) :
    ∃ i ≤ s.toList.length, (s.insert a).toList[i]? = some a := by
  rw [toList_insert]
  split
  case isTrue hmem =>
    obtain ⟨i, hi⟩ := List.mem_iff_getElem?.1 hmem
    exact ⟨i, Nat.le_of_lt (List.getElem?_eq_some_iff.1 hi).1, hi⟩
  case isFalse => exact ⟨s.toList.length, Nat.le_refl _, List.getElem?_concat_length⟩

/-- What stands in front of an element has come before it. -/
theorem mem_of_lt_position {as bs : List α} {a b : α} {i k : Nat}
    (hi : (ofList (as ++ a :: bs)).toList[i]? = some a) (hk : k < i)
    (hb : (ofList (as ++ a :: bs)).toList[k]? = some b) : b ∈ as := by
  have hlist : ofList (as ++ a :: bs) = ((ofList as).insert a).insertAll bs :=
    ofList_append as (a :: bs)
  rw [hlist] at hi hb
  obtain ⟨j, hj, ha⟩ := position_insert_le (ofList as) a
  have hlast := getElem?_mono (prefix_insertAll _ bs) ha
  obtain rfl : j = i := by
    rw [← hi] at hlast
    have hlt := (List.getElem?_eq_some_iff.1 (hlast.trans hi)).1
    exact (List.getElem?_inj hlt (nodup_toList _)).1 hlast
  have hbegins := (prefix_insert (ofList as) a).trans (prefix_insertAll _ bs)
  obtain ⟨c, hc⟩ : ∃ c, (ofList as).toList[k]? = some c :=
    ⟨_, List.getElem?_eq_getElem (Nat.lt_of_lt_of_le hk hj)⟩
  rw [getElem?_mono hbegins hc, Option.some.injEq] at hb
  exact (mem_ofList as b).1 (hb ▸ List.mem_of_getElem? hc)

/-! ## Exploration -/

/-- A stage of the exploration: everything found can be reached, the start is found, and so are the
successors of the elements in front of the cursor. -/
structure Stage (next : α → List α) (start : α) (cursor : Nat) (s : OrderedSet α) : Prop where
  sound : ∀ a ∈ s.toList, Reaches next start a
  start_mem : start ∈ s.toList
  closed : ∀ i < cursor, ∀ a, s.toList[i]? = some a → ∀ b ∈ next a, b ∈ s.toList

theorem stage_init (next : α → List α) (start : α) :
    Stage next start 0 (empty.insert start) where
  sound a ha := by
    rw [mem_insert, toList_empty] at ha
    obtain rfl : a = start := by simpa using ha
    exact .refl
  start_mem := by rw [mem_insert]; exact .inr rfl
  closed i hi := absurd hi (Nat.not_lt_zero i)

/-- One visit: the successors of the element at the cursor are added. -/
theorem Stage.visit {next : α → List α} {start : α} {cursor : Nat} {s : OrderedSet α} {a : α}
    (h : Stage next start cursor s) (ha : s.toList[cursor]? = some a) :
    Stage next start (cursor + 1) (s.insertAll (next a)) where
  sound b hb := by
    rcases (mem_insertAll s (next a) b).1 hb with hb | hb
    · exact h.sound b hb
    · exact (h.sound a (List.mem_of_getElem? ha)).tail hb
  start_mem := (mem_insertAll s (next a) start).2 (.inl h.start_mem)
  closed i hi c hc b hb := by
    rw [mem_insertAll]
    have hlt : cursor < s.toList.length := (List.getElem?_eq_some_iff.1 ha).1
    have hold : s.toList[i]? = some c := by
      rw [← hc, List.prefix_iff_getElem?.1 (prefix_insertAll s (next a)) i (by omega),
        List.getElem?_eq_getElem]
    rcases Nat.lt_or_eq_of_le (Nat.le_of_lt_succ hi) with hi | rfl
    · exact .inl (h.closed i hi c hold b hb)
    · rw [ha] at hold
      exact .inr (Option.some.inj hold ▸ hb)

/-- Visits from a position on until no element is left, however many it takes. -/
inductive Visits (next : α → List α) : Nat → OrderedSet α → OrderedSet α → Prop
  | done {cursor : Nat} {s : OrderedSet α} : s.get? cursor = none → Visits next cursor s s
  | visit {cursor : Nat} {s last : OrderedSet α} {a : α} : s.get? cursor = some a →
      Visits next (cursor + 1) (s.insertAll (next a)) last → Visits next cursor s last

theorem Visits.unique {next : α → List α} {cursor : Nat} {s last last' : OrderedSet α}
    (h : Visits next cursor s last) (h' : Visits next cursor s last') : last = last' := by
  induction h with
  | done hnone =>
    cases h' with
    | done => rfl
    | visit hsome _ =>
      rw [hnone] at hsome
      cases hsome
  | visit hsome _ ih =>
    cases h' with
    | done hnone =>
      rw [hsome] at hnone
      cases hnone
    | visit hsome' hrest =>
      obtain rfl := Option.some.inj (hsome.symm.trans hsome')
      exact ih hrest

/-- When the visits are over, no successor is missing. -/
theorem Visits.stage {next : α → List α} {start : α} {cursor : Nat} {s last : OrderedSet α}
    (h : Visits next cursor s last) (hs : Stage next start cursor s) :
    ∃ cursor', last.toList.length ≤ cursor' ∧ Stage next start cursor' last := by
  induction h with
  | done hnone =>
    rw [get?_eq] at hnone
    exact ⟨_, List.getElem?_eq_none_iff.1 hnone, hs⟩
  | visit hsome _ ih =>
    rw [get?_eq] at hsome
    exact ih (hs.visit hsome)

/-- With enough visits left for everything that can be reached, exploration goes on to the end. -/
theorem Stage.visits {next : α → List α} {start : α} {cursor : Nat} {s : OrderedSet α}
    {support : List α} (h : Stage next start cursor s) (fuel : Nat)
    (hsupport : ∀ a, Reaches next start a → a ∈ support) (hfuel : support.length ≤ fuel + cursor) :
    Visits next cursor s (explore next fuel cursor s) := by
  induction fuel generalizing cursor s with
  | zero =>
    have hsub : s.toList ⊆ support := fun a ha => hsupport a (h.sound a ha)
    have hlength := (s.nodup_toList.subperm hsub).length_le
    refine .done ?_
    rw [get?_eq, List.getElem?_eq_none_iff]
    omega
  | succ fuel ih =>
    rw [OrderedSet.explore]
    cases ha : s.get? cursor with
    | none => exact .done ha
    | some a =>
      refine .visit ha (ih (h.visit ?_) (by omega))
      rwa [get?_eq] at ha

variable {next : α → List α} {bound : Nat} {start : α}

theorem visits_reachable {support : List α} (hbound : support.length ≤ bound)
    (hstart : start ∈ support) (hclosed : ∀ a ∈ support, ∀ b ∈ next a, b ∈ support) :
    Visits next 0 (empty.insert start) (reachable next bound start) :=
  (stage_init next start).visits bound (fun _ => Reaches.mem_of_closed hstart hclosed) (by omega)

theorem mem_reachable_iff {support : List α} (hbound : support.length ≤ bound)
    (hstart : start ∈ support) (hclosed : ∀ a ∈ support, ∀ b ∈ next a, b ∈ support) (a : α) :
    a ∈ (reachable next bound start).toList ↔ Reaches next start a := by
  obtain ⟨last, hlast, stage⟩ :=
    (visits_reachable hbound hstart hclosed).stage (stage_init next start)
  refine ⟨stage.sound a, Reaches.mem_of_closed stage.start_mem fun b hb c hc => ?_⟩
  obtain ⟨i, hi⟩ := List.mem_iff_getElem?.1 hb
  have hlt := (List.getElem?_eq_some_iff.1 hi).1
  exact stage.closed i (by omega) b hi c hc

theorem prefix_explore (next : α → List α) (fuel cursor : Nat) (s : OrderedSet α) :
    s.toList <+: (explore next fuel cursor s).toList := by
  induction fuel generalizing cursor s with
  | zero => exact List.prefix_refl _
  | succ fuel ih =>
    rw [explore]
    split
    · exact List.prefix_refl _
    · exact (prefix_insertAll _ _).trans (ih _ _)

theorem reachable_head? : (reachable next bound start).toList.head? = some start := by
  obtain ⟨rest, h⟩ := prefix_explore next bound 0 (empty.insert start)
  rw [reachable, ← h, toList_insert]
  rfl

end OrderedSet

namespace Automaton

variable {σ : Type}

/-- What a walk along transitions can come to. -/
def Reaches (a : Automaton σ) : σ → Prop := OrderedSet.Reaches a.targets a.start

theorem Reaches.target {a : Automaton σ} {s : σ} (h : a.Reaches s) {t : UInt8 × σ}
    (ht : t ∈ a.transitions s) : a.Reaches t.2 :=
  Relation.ReflTransGen.tail h (List.mem_map_of_mem ht)

variable [DecidableEq σ] [Hashable σ] (a : Automaton σ)

theorem mem_enumerate_iff (s : σ) : s ∈ a.enumerate ↔ a.Reaches s := by
  obtain ⟨support, hbound, hstart, hclosed⟩ := a.bounded
  refine OrderedSet.mem_reachable_iff hbound hstart (fun s hs t ht => ?_) s
  obtain ⟨u, hu, rfl⟩ := List.mem_map.1 ht
  exact hclosed s hs u hu

theorem nodup_enumerate : a.enumerate.Nodup := a.reachable.nodup_toList

theorem enumerate_head? : a.enumerate.head? = some a.start := OrderedSet.reachable_head?

theorem length_enumerate : a.enumerate.length = {s | a.Reaches s}.ncard := by
  have h : {s | a.Reaches s} = (a.enumerate.toFinset : Set σ) := by
    ext s
    simp [mem_enumerate_iff]
  rw [h, Set.ncard_coe_finset, List.toFinset_card_of_nodup a.nodup_enumerate]

end Automaton

end TransitionMap
