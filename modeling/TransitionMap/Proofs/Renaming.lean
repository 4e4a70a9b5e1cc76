import Mathlib.Data.Set.Function
import TransitionMap.Proofs.Covering
import TransitionMap.Proofs.Planning

/-!
# Renaming states

A *renaming* of an automaton is a bijection of its reachable states to those of another automaton
that takes the start to the start and the transitions of a state, in their order, to those of its
image. Exploration takes no notice of what states are (`OrderedSet.toList_explore_map`), so that
renamed automata are enumerated alike (`Automaton.Renaming.enumerate_eq`) and planning comes to the
same outcome (`Automaton.Renaming.plan_unnamed_eq_error_iff`), and, where the accepting states
agree, to the same table (`Automaton.Renaming.entries_eq`). In the other direction a table says of
an automaton all but the names of its states (`Automaton.renaming_of_entries_eq`).
-/

namespace TransitionMap

/-! ## Exploring renamed elements -/

namespace OrderedSet

variable {α β : Type} [DecidableEq α] [Hashable α] [DecidableEq β] [Hashable β]

section Map

variable {f : α → β} {p : Set α}

theorem toList_insert_map (hf : Set.InjOn f p) {s : OrderedSet α} {t : OrderedSet β} {a : α}
    (hs : ∀ b ∈ s.toList, b ∈ p) (ha : a ∈ p) (h : t.toList = s.toList.map f) :
    (t.insert (f a)).toList = (s.insert a).toList.map f := by
  have hmem : f a ∈ t.toList ↔ a ∈ s.toList := by
    rw [h, List.mem_map]
    constructor
    · rintro ⟨b, hb, heq⟩
      exact hf (hs b hb) ha heq ▸ hb
    · intro hmem
      exact ⟨a, hmem, rfl⟩
  rw [toList_insert, toList_insert]
  by_cases hin : a ∈ s.toList
  · rw [if_pos hin, if_pos (hmem.2 hin), h]
  · rw [if_neg hin, if_neg (mt hmem.1 hin), h, List.map_append, List.map_singleton]

theorem toList_insertAll_map (hf : Set.InjOn f p) {s : OrderedSet α} {t : OrderedSet β}
    {as : List α} (hs : ∀ b ∈ s.toList, b ∈ p) (has : ∀ b ∈ as, b ∈ p)
    (h : t.toList = s.toList.map f) :
    (t.insertAll (as.map f)).toList = (s.insertAll as).toList.map f := by
  induction as generalizing s t with
  | nil => exact h
  | cons a as ih =>
    have ha := has a List.mem_cons_self
    refine ih (s := s.insert a) (t := t.insert (f a)) (fun b hb => ?_)
      (fun b hb => has b (List.mem_cons_of_mem a hb)) (toList_insert_map hf hs ha h)
    rcases (mem_insert s a b).1 hb with hb | rfl
    · exact hs b hb
    · exact ha

/-- Both explorations find the same, visit by visit, as long as `f` keeps apart what the one finds
and takes successors to successors. -/
theorem toList_explore_map {next : α → List α} {next' : β → List β} (hf : Set.InjOn f p)
    (hnext : ∀ a ∈ p, next' (f a) = (next a).map f) (hclosed : ∀ a ∈ p, ∀ b ∈ next a, b ∈ p)
    (fuel cursor : Nat) {s : OrderedSet α} {t : OrderedSet β} (hs : ∀ b ∈ s.toList, b ∈ p)
    (h : t.toList = s.toList.map f) :
    (explore next' fuel cursor t).toList = (explore next fuel cursor s).toList.map f := by
  induction fuel generalizing cursor s t with
  | zero => exact h
  | succ fuel ih =>
    rw [explore, explore, get?_eq, get?_eq, h, List.getElem?_map]
    cases hcursor : s.toList[cursor]? with
    | none => exact h
    | some a =>
      have ha := hs a (List.mem_of_getElem? hcursor)
      have hvisit := toList_insertAll_map hf hs (hclosed a ha) h
      rw [← hnext a ha] at hvisit
      refine ih (cursor + 1) (fun b hb => ?_) hvisit
      rcases (mem_insertAll s (next a) b).1 hb with hb | hb
      · exact hs b hb
      · exact hclosed a ha b hb

end Map

/-- Once everything has been visited, more visits change nothing. -/
theorem reachable_add {next : α → List α} {bound : Nat} {start : α} {support : List α}
    (hbound : support.length ≤ bound) (hstart : start ∈ support)
    (hclosed : ∀ a ∈ support, ∀ b ∈ next a, b ∈ support) (more : Nat) :
    reachable next (bound + more) start = reachable next bound start :=
  (visits_reachable (Nat.le_trans hbound (Nat.le_add_right _ _)) hstart hclosed).unique
    (visits_reachable hbound hstart hclosed)

end OrderedSet

namespace Automaton

variable {σ τ : Type}

/-! ## Renamings -/

/-- A bijection between the reachable states of two automata that takes the start to the start and
the transitions of each state to those of its image, with the same bytes in the same order. -/
structure Renaming (a : Automaton σ) (b : Automaton τ) (f : σ → τ) : Prop where
  bijOn : Set.BijOn f {s | a.Reaches s} {t | b.Reaches t}
  start : b.start = f a.start
  transitions : ∀ s, a.Reaches s →
    b.transitions (f s) = (a.transitions s).map fun t => (t.1, f t.2)

/-- A state that some transition leads to. -/
def Entered (a : Automaton σ) (s : σ) : Prop := ∃ r, a.Reaches r ∧ s ∈ a.targets r

/-- A state and its image accept alike; that the start does counts only if a transition leads to
it. -/
def AcceptsAlike (a : Automaton σ) (b : Automaton τ) (f : σ → τ) : Prop :=
  ∀ s, a.Reaches s → s ≠ a.start ∨ a.Entered s → b.accepting (f s) = a.accepting s

theorem Reaches.entered {a : Automaton σ} {s : σ} (h : a.Reaches s) :
    s = a.start ∨ a.Entered s := by
  cases h with
  | refl => exact .inl rfl
  | tail hr hs => exact .inr ⟨_, hr, hs⟩

/-- It is enough that different reachable states have different images. -/
theorem Renaming.of_injOn {a : Automaton σ} {b : Automaton τ} {f : σ → τ}
    (injOn : Set.InjOn f {s | a.Reaches s}) (start : b.start = f a.start)
    (transitions : ∀ s, a.Reaches s →
      b.transitions (f s) = (a.transitions s).map fun t => (t.1, f t.2)) :
    a.Renaming b f where
  bijOn := by
    refine ⟨fun s hs => ?_, injOn, fun u hu => ?_⟩
    · induction hs with
      | refl => exact start ▸ .refl
      | @tail r s hr hs ih =>
        refine Relation.ReflTransGen.tail ih ?_
        rw [targets, transitions r hr, List.map_map]
        obtain ⟨t, ht, rfl⟩ := List.mem_map.1 hs
        exact List.mem_map_of_mem ht
    · have hcovers : a.Covers b f := ⟨start, fun s hs x u hu => by
        rw [transitions s hs] at hu
        obtain ⟨⟨y, t⟩, ht, heq⟩ := List.mem_map.1 hu
        obtain ⟨rfl, rfl⟩ := Prod.mk.inj heq
        exact ⟨t, ht, rfl⟩⟩
      exact hcovers.exists_reaches hu
  start := start
  transitions := transitions

namespace Renaming

variable {a : Automaton σ} {b : Automaton τ} {f : σ → τ} (h : a.Renaming b f)
include h

theorem targets_eq {s : σ} (hs : a.Reaches s) : b.targets (f s) = (a.targets s).map f := by
  rw [targets, h.transitions s hs, targets, List.map_map, List.map_map]
  rfl

theorem deterministic_iff {s : σ} (hs : a.Reaches s) :
    b.Deterministic (f s) ↔ a.Deterministic s := by
  rw [Deterministic, Deterministic, h.transitions s hs, List.map_map]
  rfl

variable [DecidableEq σ] [Hashable σ] [DecidableEq τ] [Hashable τ]

/-- Renamed states are enumerated in the same order. -/
theorem enumerate_eq : b.enumerate = a.enumerate.map f := by
  obtain ⟨support, hbound, hstart, hclosed⟩ := a.bounded
  obtain ⟨support', hbound', hstart', hclosed'⟩ := b.bounded
  have ha : a.reachable = OrderedSet.reachable a.targets (a.bound + b.bound) a.start := by
    refine (OrderedSet.reachable_add hbound hstart (fun s hs t ht => ?_) b.bound).symm
    obtain ⟨u, hu, rfl⟩ := List.mem_map.1 ht
    exact hclosed s hs u hu
  have hb : b.reachable = OrderedSet.reachable b.targets (a.bound + b.bound) (f a.start) := by
    rw [Nat.add_comm, ← h.start]
    refine (OrderedSet.reachable_add hbound' hstart' (fun s hs t ht => ?_) a.bound).symm
    obtain ⟨u, hu, rfl⟩ := List.mem_map.1 ht
    exact hclosed' s hs u hu
  rw [enumerate, enumerate, ha, hb]
  refine OrderedSet.toList_explore_map (p := {s | a.Reaches s}) h.bijOn.injOn
    (fun s hs => h.targets_eq hs) (fun s hs t ht => Relation.ReflTransGen.tail hs ht) _ _
    (fun s hs => ?_) ?_
  · rw [OrderedSet.mem_insert, OrderedSet.toList_empty] at hs
    obtain rfl : s = a.start := by simpa using hs
    exact Relation.ReflTransGen.refl
  · simp [OrderedSet.toList_insert]

theorem length_enumerate_eq : b.enumerate.length = a.enumerate.length := by
  rw [h.enumerate_eq, List.length_map]

theorem number_eq {s : σ} (hs : a.Reaches s) : b.number (f s) = a.number s := by
  obtain ⟨i, hi⟩ := List.mem_iff_getElem?.1 ((a.mem_enumerate_iff s).2 hs)
  obtain ⟨hlt, rfl⟩ := List.getElem?_eq_some_iff.1 hi
  have hlt' : i < b.enumerate.length := by rwa [h.length_enumerate_eq]
  have himage : b.enumerate[i] = f a.enumerate[i] := by
    simp only [h.enumerate_eq, List.getElem_map]
  rw [number, number, a.nodup_enumerate.idxOf_getElem i hlt, ← himage,
    b.nodup_enumerate.idxOf_getElem i hlt']

/-- Automata that accept alike have the same entries. -/
theorem entries_eq (hflags : a.AcceptsAlike b f) : b.entries = a.entries := by
  rw [entries, entries, h.enumerate_eq, List.flatMap_map]
  refine List.flatMap_congr fun s hs => ?_
  have hs := (a.mem_enumerate_iff s).1 hs
  rw [h.transitions s hs, List.map_map]
  refine List.map_congr_left fun t ht => ?_
  have htarget := hs.target ht
  have haccepting : b.accepting (f t.2) = a.accepting t.2 :=
    hflags t.2 htarget (.inr ⟨s, hs, List.mem_map_of_mem ht⟩)
  simp only [Function.comp_apply, entry, value, h.number_eq hs, h.number_eq htarget, haccepting]

end Renaming

/-! ## Automata recovered from their entries -/

section Recover

variable [DecidableEq σ] [Hashable σ] [DecidableEq τ] [Hashable τ]

/-- The entries with the number of a state are those of its transitions. -/
theorem filter_entries {a : Automaton σ} (hsize : a.enumerate.length ≤ StateId.count) {s : σ}
    (hs : s ∈ a.enumerate) :
    (a.entries.filter fun e => e.key.state = a.number s) = (a.transitions s).map (a.entry s) := by
  have hothers : ∀ l ⊆ a.enumerate, s ∉ l →
      (l.flatMap fun r => (a.transitions r).map (a.entry r)).filter
        (fun e => e.key.state = a.number s) = [] := by
    intro l hl hnot
    rw [List.filter_eq_nil_iff]
    intro e he
    obtain ⟨r, hr, he⟩ := List.mem_flatMap.1 he
    obtain ⟨t, -, rfl⟩ := List.mem_map.1 he
    rw [decide_eq_true_eq]
    intro heq
    exact hnot (number_injective hsize (hl hr) hs heq ▸ hr)
  obtain ⟨before, after, hsplit⟩ := List.append_of_mem hs
  have hnodup := a.nodup_enumerate
  rw [hsplit, List.nodup_append] at hnodup
  rw [hsplit] at hothers
  have hbefore := hothers before (List.subset_append_left _ _)
    fun hmem => hnodup.2.2 s hmem s List.mem_cons_self rfl
  have hafter := hothers after
    (fun r hr => List.mem_append_right _ (List.mem_cons_of_mem s hr))
    (List.nodup_cons.1 hnodup.2.1).1
  have hown : ((a.transitions s).map (a.entry s)).filter (fun e => e.key.state = a.number s) =
      (a.transitions s).map (a.entry s) := by
    rw [List.filter_eq_self]
    intro e he
    obtain ⟨t, -, rfl⟩ := List.mem_map.1 he
    exact decide_eq_true rfl
  rw [entries, hsplit, List.flatMap_append, List.flatMap_cons, List.filter_append,
    List.filter_append, hbefore, hafter, hown, List.nil_append, List.append_nil]

theorem eq_map_of_map_eq_map {α β γ : Type} {l : List α} {l' : List β} {g : α → γ} {g' : β → γ}
    {k : α → β} (h : l'.map g' = l.map g) (hk : ∀ x ∈ l, ∀ y ∈ l', g' y = g x → y = k x) :
    l' = l.map k := by
  induction l generalizing l' with
  | nil => exact List.map_eq_nil_iff.1 h
  | cons x l ih =>
    cases l' with
    | nil => cases h
    | cons y l' =>
      obtain ⟨hhead, htail⟩ := List.cons.inj h
      rw [List.map_cons, hk x List.mem_cons_self y List.mem_cons_self hhead]
      rw [ih htail fun x hx y hy => hk x (List.mem_cons_of_mem _ hx) y (List.mem_cons_of_mem _ hy)]

variable (a : Automaton σ) (b : Automaton τ)

/-- The state of `b` with the number that a state has in `a`. -/
def counterpart (s : σ) : τ := b.enumerate.getD (a.enumerate.idxOf s) b.start

variable {a b}

theorem number_counterpart (hlength : b.enumerate.length = a.enumerate.length) {s : σ}
    (hs : a.Reaches s) :
    counterpart a b s ∈ b.enumerate ∧ b.number (counterpart a b s) = a.number s := by
  have hlt : a.enumerate.idxOf s < b.enumerate.length := by
    rw [hlength]
    exact List.idxOf_lt_length_of_mem ((a.mem_enumerate_iff s).2 hs)
  have heq : counterpart a b s = b.enumerate[a.enumerate.idxOf s] := by
    rw [counterpart, List.getD_eq_getElem?_getD, List.getElem?_eq_getElem hlt, Option.getD_some]
  rw [heq, number, b.nodup_enumerate.idxOf_getElem]
  exact ⟨List.getElem_mem hlt, rfl⟩

/-- Automata with the same entries are renamings of each other. -/
theorem renaming_of_entries_eq (hsize : a.enumerate.length ≤ StateId.count)
    (hlength : b.enumerate.length = a.enumerate.length) (hentries : b.entries = a.entries) :
    a.Renaming b (counterpart a b) ∧ a.AcceptsAlike b (counterpart a b) := by
  have hsize' : b.enumerate.length ≤ StateId.count := by rwa [hlength]
  have hown : ∀ s, a.Reaches s → (b.transitions (counterpart a b s)).map
      (b.entry (counterpart a b s)) = (a.transitions s).map (a.entry s) := by
    intro s hs
    obtain ⟨hmem, hnumber⟩ := number_counterpart hlength hs
    rw [← filter_entries hsize' hmem, ← filter_entries hsize ((a.mem_enumerate_iff s).2 hs),
      hentries, hnumber]
  have htransitions : ∀ s, a.Reaches s → b.transitions (counterpart a b s) =
      (a.transitions s).map fun t => (t.1, counterpart a b t.2) := by
    intro s hs
    refine eq_map_of_map_eq_map (hown s hs) fun t ht u hu heq => ?_
    obtain ⟨hmem, hnumber⟩ := number_counterpart hlength (hs.target ht)
    have hreach := ((b.mem_enumerate_iff _).1 (number_counterpart hlength hs).1).target hu
    have hunit : u.1 = t.1 := congrArg (fun e => e.key.unit) heq
    have htarget : b.number u.2 = a.number t.2 := congrArg (fun e => e.value.state) heq
    rw [← hnumber] at htarget
    have htarget := number_injective hsize' ((b.mem_enumerate_iff _).2 hreach) hmem htarget
    exact Prod.ext hunit htarget
  refine ⟨Renaming.of_injOn (fun s hs t ht heq => ?_) ?_ htransitions, fun s hs hentered => ?_⟩
  · have hnumber := (number_counterpart hlength hs).2
    rw [heq, (number_counterpart hlength ht).2] at hnumber
    exact number_injective hsize ((a.mem_enumerate_iff s).2 hs) ((a.mem_enumerate_iff t).2 ht)
      hnumber.symm
  · obtain ⟨hmem, hnumber⟩ := number_counterpart (b := b) hlength (.refl : a.Reaches a.start)
    rw [number_start, ← b.number_start] at hnumber
    exact number_injective hsize' ((b.mem_enumerate_iff _).2 .refl) hmem hnumber.symm
  · have hentered : a.Entered s := hentered.elim (fun hne => hs.entered.resolve_left hne) id
    obtain ⟨r, hr, hmem⟩ := hentered
    obtain ⟨t, ht, rfl⟩ := List.mem_map.1 hmem
    have hpairs := hown r hr
    rw [htransitions r hr, List.map_map, List.map_inj_left] at hpairs
    have hflag := congrArg (fun e => e.value.finalState) (hpairs t ht)
    simp only [Function.comp_apply, entry, value] at hflag
    cases haccepts : a.accepting t.2 <;> cases haccepts' : b.accepting (counterpart a b t.2) <;>
      simp_all

end Recover

end Automaton

/-! ## Planning -/

/-- The error without the automaton's own name for a state. -/
def CompileError.unnamed : CompileError → CompileError
  | .nonDeterministic state _ symbol => .nonDeterministic state "" symbol
  | e => e

namespace Automaton.Renaming

open Table

variable {σ τ : Type} [DecidableEq σ] [Hashable σ] [DecidableEq τ] [Hashable τ] {a : Automaton σ}
  {b : Automaton τ} {f : σ → τ} (h : a.Renaming b f) {maxStates : Nat}
include h

theorem ncard_eq : {t | b.Reaches t}.ncard = {s | a.Reaches s}.ncard := by
  rw [← b.length_enumerate, ← a.length_enumerate, h.length_enumerate_eq]

/-- What stops the planning of an automaton stops that of a renamed one. -/
theorem exists_plan_eq_error {e : CompileError} (he : plan a maxStates = .error e) :
    ∃ e', plan b maxStates = .error e' ∧ e'.unnamed = e.unnamed := by
  cases (plan_eq_iff a maxStates _).1 he with
  | tooMany many =>
    refine ⟨_, plan_of_many (by rwa [h.ncard_eq]), ?_⟩
    rw [h.ncard_eq]
  | @repeated before after s earlier later t few enumerated deterministic transitions distinct
      repeats =>
    have hreach : ∀ r ∈ a.enumerate, a.Reaches r := fun r => (a.mem_enumerate_iff r).1
    have hfst : ∀ ts : List (UInt8 × σ),
        (ts.map fun t => (t.1, f t.2)).map Prod.fst = ts.map Prod.fst := fun ts => by
      rw [List.map_map]
      rfl
    have henumerated : b.enumerate = before.map f ++ f s :: after.map f := by
      rw [h.enumerate_eq, enumerated, List.map_append, List.map_cons]
    have hdeterministic : ∀ r ∈ before.map f, b.Deterministic r := by
      intro u hu
      obtain ⟨r, hr, rfl⟩ := List.mem_map.1 hu
      rw [h.deterministic_iff (hreach r (by simp [enumerated, hr]))]
      exact deterministic r hr
    have htransitions := h.transitions s (hreach s (by simp [enumerated]))
    rw [transitions, List.map_append, List.map_cons] at htransitions
    refine ⟨_, plan_of_repeated (by rwa [h.ncard_eq]) henumerated hdeterministic htransitions
      (by rwa [hfst]) (by rwa [hfst]), ?_⟩
    rw [List.length_map]
    rfl

theorem exists_plan_eq_ok {t : Table} (ht : plan a maxStates = .ok t) :
    ∃ u, plan b maxStates = .ok u := by
  cases (plan_eq_iff a maxStates _).1 ht with
  | table few deterministic =>
    refine ⟨_, plan_of_deterministic (by rwa [h.ncard_eq]) fun u hu => ?_⟩
    obtain ⟨s, hs, rfl⟩ := h.bijOn.surjOn hu
    exact (h.deterministic_iff hs).2 (deterministic s hs)

/-- Planning renamed automata fails for the same reason. -/
theorem plan_unnamed_eq_error_iff (e : CompileError) :
    (plan b maxStates).mapError CompileError.unnamed = .error e ↔
      (plan a maxStates).mapError CompileError.unnamed = .error e := by
  cases ha : plan a maxStates with
  | error c =>
    obtain ⟨c', hb, hsame⟩ := h.exists_plan_eq_error ha
    rw [hb, Except.mapError, Except.mapError, hsame]
  | ok t =>
    obtain ⟨u, hb⟩ := h.exists_plan_eq_ok ha
    rw [hb]
    constructor
    · intro hok
      cases hok
    · intro hok
      cases hok

/-- Planning renamed automata that accept alike comes to the same. -/
theorem plan_unnamed_eq (hflags : a.AcceptsAlike b f) :
    (plan b maxStates).mapError CompileError.unnamed =
      (plan a maxStates).mapError CompileError.unnamed := by
  cases ha : plan a maxStates with
  | error c =>
    obtain ⟨c', hb, hsame⟩ := h.exists_plan_eq_error ha
    rw [hb, Except.mapError, Except.mapError, hsame]
  | ok t =>
    obtain ⟨u, hb⟩ := h.exists_plan_eq_ok ha
    obtain ⟨rfl, -, -⟩ := eq_of_plan_eq_ok ha
    obtain ⟨rfl, -, -⟩ := eq_of_plan_eq_ok hb
    rw [hb, h.entries_eq hflags, h.length_enumerate_eq]

end Automaton.Renaming

end TransitionMap
