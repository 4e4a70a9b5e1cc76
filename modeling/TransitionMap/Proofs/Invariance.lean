import Mathlib.Data.List.Permutation
import TransitionMap.Proofs.Describing
import TransitionMap.Proofs.Renaming

/-!
# Tables tell automata apart up to the names of their states

Two automata have the same table exactly when one is a renaming of the other, and renamed automata
are refused for the same reason (`Table.plan_tells_apart_up_to_renaming`). In particular a table
depends neither on the numbers of the states of an arena nor on states that cannot be reached
(`Arena.Renumbered`), and in a description neither on the order in which states are declared nor on
their names (`Description.Renamed`).
-/

namespace TransitionMap

open Table

/-! ## Arenas -/

/-- The states of an arena that can be reached stand in another one under other numbers, whatever
else is in the two. -/
structure Arena.Renumbered (p q : Arena) (f : Nat → Nat) : Prop where
  injOn : Set.InjOn f {i | p.toAutomaton.Reaches i}
  start : q.start = f p.start
  transitions : ∀ i, p.toAutomaton.Reaches i →
    (q.state (f i)).transitions = (p.state i).transitions.map fun t => (t.1, f t.2)
  accepting : ∀ i, p.toAutomaton.Reaches i →
    (q.state (f i)).accepting = (p.state i).accepting

theorem Arena.Renumbered.plan_unnamed_eq {p q : Arena} {f : Nat → Nat} (h : p.Renumbered q f)
    (maxStates : Nat) :
    (plan q.toAutomaton maxStates).mapError CompileError.unnamed =
      (plan p.toAutomaton maxStates).mapError CompileError.unnamed := by
  have hrenaming : p.toAutomaton.Renaming q.toAutomaton f :=
    .of_injOn h.injOn h.start h.transitions
  exact hrenaming.plan_unnamed_eq fun i hi _ => h.accepting i hi

/-! ## Descriptions -/

def StateDescription.rename (g : String → String) (s : StateDescription) : StateDescription :=
  { s with name := g s.name, transitions := s.transitions.map fun t => (t.1, g t.2) }

namespace Description

/-- A description with other names for the states, which are declared in any order. -/
structure Renamed (d d' : Description) (g : String → String) : Prop where
  injOn : Set.InjOn g {n | n ∈ d.names}
  start : d'.start = g d.start
  states : d'.states.Perm (d.states.map (·.rename g))

theorem mem_names {d : Description} {n : String} : n ∈ d.names ↔ ∃ s ∈ d.states, s.name = n :=
  List.mem_map

/-- The states that can be reached are declared. -/
theorem WellFormed.exists_of_reaches {d : Description} (h : d.WellFormed) {i : Nat}
    (hi : d.arena.toAutomaton.Reaches i) : ∃ s ∈ d.states, d.names.idxOf s.name = i := by
  induction hi with
  | refl =>
    obtain ⟨s, hs, hname⟩ := mem_names.1 h.start
    exact ⟨s, hs, congrArg d.names.idxOf hname⟩
  | @tail j i _ hstep ih =>
    obtain ⟨s, hs, rfl⟩ := ih
    have htransitions : d.arena.toAutomaton.transitions (d.names.idxOf s.name) =
        (d.placed s).transitions := congrArg ArenaState.transitions (h.state_arena hs)
    rw [Automaton.targets, htransitions, placed, List.map_map] at hstep
    obtain ⟨t, ht, rfl⟩ := List.mem_map.1 hstep
    obtain ⟨r, hr, hname⟩ := mem_names.1 (h.targets s hs t ht)
    exact ⟨r, hr, congrArg d.names.idxOf hname⟩

namespace Renamed

variable {d d' : Description} {g : String → String} (h : d.Renamed d' g)
include h

theorem perm_names : d'.names.Perm (d.names.map g) := by
  have hperm := h.states.map StateDescription.name
  rw [List.map_map] at hperm
  rw [names, names, List.map_map]
  exact hperm

theorem mem_names_of_mem {n : String} (hn : n ∈ d.names) : g n ∈ d'.names :=
  h.perm_names.mem_iff.2 (List.mem_map_of_mem hn)

theorem rename_mem {s : StateDescription} (hs : s ∈ d.states) : s.rename g ∈ d'.states :=
  h.states.mem_iff.2 (List.mem_map_of_mem hs)

theorem wellFormed (hd : d.WellFormed) : d'.WellFormed where
  nodup := h.perm_names.nodup_iff.2 (hd.nodup.map_on fun m hm n hn => h.injOn hm hn)
  start := h.start ▸ h.mem_names_of_mem hd.start
  targets s' hs' t' ht' := by
    obtain ⟨s, hs, rfl⟩ := List.mem_map.1 (h.states.mem_iff.1 hs')
    obtain ⟨t, ht, rfl⟩ := List.mem_map.1 ht'
    exact h.mem_names_of_mem (hd.targets s hs t ht)
  symbols s' hs' t' ht' := by
    obtain ⟨s, hs, rfl⟩ := List.mem_map.1 (h.states.mem_iff.1 hs')
    obtain ⟨t, ht, rfl⟩ := List.mem_map.1 ht'
    exact hd.symbols s hs t ht

/-- A number stands for a name, which has another number under its new name. -/
theorem renumbered (hd : d.WellFormed) :
    d.arena.Renumbered d'.arena fun i => d'.names.idxOf (g (d.names.getD i "")) := by
  have hplace : ∀ n ∈ d.names,
      d'.names.idxOf (g (d.names.getD (d.names.idxOf n) "")) = d'.names.idxOf (g n) := by
    intro n hn
    rw [List.getD_eq_getElem?_getD, List.getElem?_idxOf hn, Option.getD_some]
  have hstate : ∀ s ∈ d.states, d'.arena.state (d'.names.idxOf (g s.name)) =
      d'.placed (s.rename g) := fun s hs => (h.wellFormed hd).state_arena (h.rename_mem hs)
  have hname : ∀ s ∈ d.states, s.name ∈ d.names := fun s hs => List.mem_map_of_mem hs
  refine ⟨fun i hi j hj heq => ?_, ?_, fun i hi => ?_, fun i hi => ?_⟩
  · obtain ⟨s, hs, rfl⟩ := hd.exists_of_reaches hi
    obtain ⟨r, hr, rfl⟩ := hd.exists_of_reaches hj
    simp only [hplace _ (hname s hs), hplace _ (hname r hr)] at heq
    have hsame := (List.idxOf_inj (h.mem_names_of_mem (hname s hs))).1 heq
    rw [h.injOn (hname s hs) (hname r hr) hsame]
  · simp only [arena, hplace _ hd.start, h.start]
  · obtain ⟨s, hs, rfl⟩ := hd.exists_of_reaches hi
    simp only [hplace _ (hname s hs), hstate s hs, hd.state_arena hs, placed,
      StateDescription.rename, List.map_map]
    refine List.map_congr_left fun t ht => ?_
    simp only [Function.comp_apply, hplace _ (hd.targets s hs t ht)]
  · obtain ⟨s, hs, rfl⟩ := hd.exists_of_reaches hi
    simp only [hplace _ (hname s hs), hstate s hs, hd.state_arena hs, placed,
      StateDescription.rename]

theorem exists_toArena_eq_ok {p : Arena} (hp : d.toArena = .ok p) :
    ∃ q, d'.toArena = .ok q ∧ ∀ maxStates,
      (plan q.toAutomaton maxStates).mapError CompileError.unnamed =
        (plan p.toAutomaton maxStates).mapError CompileError.unnamed := by
  obtain ⟨hd, rfl⟩ := toArena_eq_ok_iff.1 hp
  exact ⟨d'.arena, (h.wellFormed hd).toArena_eq, (h.renumbered hd).plan_unnamed_eq⟩

end Renamed

end Description

/-! ## Tables -/

variable {σ τ : Type} [DecidableEq σ] [Hashable σ] [DecidableEq τ] [Hashable τ]

/-- Two automata that have tables have the same one exactly when the reachable states of the one are
those of the other under other names and accept alike, where it does not count whether a start
accepts that no transition leads to. Whatever the states accept, renamed automata are refused for
the same reason, which names the same number and byte. So neither the numbers of an arena nor states
out of reach change a table, nor do the names in a description and the order of its states. -/
theorem Table.plan_tells_apart_up_to_renaming (a : Automaton σ) (b : Automaton τ)
    (maxStates : Nat) :
    (∀ t u, plan a maxStates = .ok t → plan b maxStates = .ok u →
      (t = u ↔ ∃ f, a.Renaming b f ∧ a.AcceptsAlike b f)) ∧
    (∀ f, a.Renaming b f → ∀ e,
      (plan a maxStates).mapError CompileError.unnamed = .error e ↔
        (plan b maxStates).mapError CompileError.unnamed = .error e) ∧
    (∀ p q f, Arena.Renumbered p q f →
      (plan p.toAutomaton maxStates).mapError CompileError.unnamed =
        (plan q.toAutomaton maxStates).mapError CompileError.unnamed) ∧
    (∀ d d' g p, Description.Renamed d d' g → d.toArena = .ok p →
      ∃ q, d'.toArena = .ok q ∧
        (plan p.toAutomaton maxStates).mapError CompileError.unnamed =
          (plan q.toAutomaton maxStates).mapError CompileError.unnamed) := by
  refine ⟨fun t u ht hu => ?_, fun f h e => (h.plan_unnamed_eq_error_iff e).symm,
    fun p q f h => (h.plan_unnamed_eq maxStates).symm, fun d d' g p h hp => ?_⟩
  · obtain ⟨rfl, hsize, -⟩ := eq_of_plan_eq_ok ht
    obtain ⟨rfl, -, -⟩ := eq_of_plan_eq_ok hu
    constructor
    · intro heq
      obtain ⟨hentries, hlength⟩ := Table.mk.inj heq
      exact ⟨_, Automaton.renaming_of_entries_eq hsize hlength.symm hentries.symm⟩
    · rintro ⟨f, h, hflags⟩
      rw [h.entries_eq hflags, h.length_enumerate_eq]
  · obtain ⟨q, hq, hplan⟩ := h.exists_toArena_eq_ok hp
    exact ⟨q, hq, (hplan maxStates).symm⟩

/-- State 1 of the first arena is out of reach, and state 5 stands outside of it, as state 7 does
of the second. The two descriptions declare their states in different orders. -/
theorem Table.plan_of_renumbered_and_renamed :
    let p : Arena := ⟨#[⟨none, false, [(97, 2), (98, 5)]⟩, ⟨none, true, [(97, 0)]⟩,
      ⟨none, true, [(99, 0)]⟩], 0⟩
    let q : Arena := ⟨#[⟨none, true, [(99, 1)]⟩, ⟨none, false, [(97, 0), (98, 7)]⟩], 1⟩
    let f : Nat → Nat := fun i => if i = 0 then 1 else if i = 2 then 0 else 7
    let t : Table := ⟨[⟨⟨0, 97, 0⟩, ⟨1, 1⟩⟩, ⟨⟨0, 98, 0⟩, ⟨0, 2⟩⟩, ⟨⟨1, 99, 0⟩, ⟨0, 0⟩⟩], 3⟩
    let d : Description := ⟨"on", [⟨"on", true, [(.byte 97, "off")]⟩, ⟨"off", false, []⟩]⟩
    let d' : Description := ⟨"1", [⟨"0", false, []⟩, ⟨"1", true, [(.byte 97, "0")]⟩]⟩
    let g : String → String := fun n => if n = "on" then "1" else "0"
    p.Renumbered q f ∧ plan p.toAutomaton 10 = .ok t ∧ plan q.toAutomaton 10 = .ok t ∧
    (∃ f, p.toAutomaton.Renaming q.toAutomaton f ∧ p.toAutomaton.AcceptsAlike q.toAutomaton f) ∧
    (plan p.toAutomaton 2).mapError CompileError.unnamed =
      (plan q.toAutomaton 2).mapError CompileError.unnamed ∧
    d.Renamed d' g ∧ ∃ r, d'.toArena = .ok r ∧
      (plan d.arena.toAutomaton 10).mapError CompileError.unnamed =
        (plan r.toAutomaton 10).mapError CompileError.unnamed := by
  intro p q f t d d' g
  have henumerate : p.toAutomaton.enumerate = [0, 2, 5] := by
    simp only [p]
    cbv
  have hreach : ∀ i, p.toAutomaton.Reaches i → i = 0 ∨ i = 2 ∨ i = 5 := by
    intro i hi
    rw [← p.toAutomaton.mem_enumerate_iff, henumerate] at hi
    simpa using hi
  have hrenumbered : p.Renumbered q f := by
    refine ⟨fun i hi j hj heq => ?_, rfl, fun i hi => ?_, fun i hi => ?_⟩
    · rcases hreach i hi with rfl | rfl | rfl <;> rcases hreach j hj with rfl | rfl | rfl <;>
        simp_all [f]
    · rcases hreach i hi with rfl | rfl | rfl <;> rfl
    · rcases hreach i hi with rfl | rfl | rfl <;> rfl
  have hp : plan p.toAutomaton 10 = .ok t := by
    simp only [p, t]
    cbv
  have hq : plan q.toAutomaton 10 = .ok t := by
    simp only [q, t]
    cbv
  have hrenamed : d.Renamed d' g := by
    have hnames : ∀ n ∈ d.names, n = "on" ∨ n = "off" := fun n hn => by
      simpa [d, Description.names] using hn
    refine ⟨fun m hm n hn heq => ?_, rfl, .swap _ _ _⟩
    rcases hnames m hm with rfl | rfl <;> rcases hnames n hn with rfl | rfl <;> simp_all [g]
  have hd : d.toArena = .ok d.arena := by
    simp only [d]
    cbv
  obtain ⟨hsame, -, -, hdescribed⟩ :=
    plan_tells_apart_up_to_renaming p.toAutomaton q.toAutomaton 10
  obtain ⟨-, -, hrefused, -⟩ := plan_tells_apart_up_to_renaming p.toAutomaton q.toAutomaton 2
  exact ⟨hrenumbered, hp, hq, (hsame t t hp hq).1 rfl, hrefused p q f hrenumbered, hrenamed,
    hdescribed d d' g d.arena hrenamed hd⟩

end TransitionMap
