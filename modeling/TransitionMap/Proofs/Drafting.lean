import Mathlib.Data.List.Basic
import TransitionMap.Automaton.Arena

/-!
# What a draft is built into

A draft takes steps in any order. One that names a state which is not there yet is refused and
changes nothing. What the arena is like in the end is told by the steps alone: by the states that
they add, and for each state by the steps that change it and are not refused (`Draft.taken`).

* `Draft.getElem?_step`, `Draft.getElem?_run`: what a step, and a run, makes of each state;
* `Draft.transitionCount_run`: no transition is lost and none appears twice;
* `Draft.build_run`: the arena that a run of steps builds.
-/

namespace TransitionMap

theorem modify_append_of_lt {α : Type} {l : List α} {i : Nat} (h : i < l.length)
    (f : α → α) (more : List α) : l.modify i f ++ more = (l ++ more).modify i f := by
  obtain ⟨before, a, after, rfl, rfl, hmodify⟩ := List.exists_of_modify f h
  rw [hmodify]
  simp [List.modify_eq_take_cons_drop]

namespace Draft

/-! ## Steps -/

/-- What can be asked of a draft. -/
inductive Step
  | state (name : Option String) (accepting : Bool)
  | transition (source : Nat) (byte : UInt8) (target : Nat)
  | accept (i : Nat) (accepting : Bool)
  deriving DecidableEq, Repr

namespace Step

/-- The state that a step changes, and that must be there. -/
def changed? : Step → Option Nat
  | .state _ _ => none
  | .transition source _ _ => some source
  | .accept i _ => some i

/-- The state that a step adds, as it is then. -/
def added? : Step → Option ArenaState
  | .state name accepting => some { name, accepting }
  | _ => none

/-- The transition that a step adds to the state `i`. -/
def transition? (i : Nat) : Step → Option (UInt8 × Nat)
  | .transition source byte target => if source = i then some (byte, target) else none
  | _ => none

/-- The flag that a step gives to the state `i`. -/
def flag? (i : Nat) : Step → Option Bool
  | .accept j accepting => if j = i then some accepting else none
  | _ => none

def isState (a : Step) : Bool := a.added?.isSome

def isTransition : Step → Bool
  | .transition _ _ _ => true
  | _ => false

theorem transitions_of_added? {a : Step} {s : ArenaState} (h : a.added? = some s) :
    s.transitions = [] := by
  cases a with
  | state name accepting =>
    obtain rfl := Option.some.inj h
    rfl
  | transition source byte target => cases h
  | accept i accepting => cases h

end Step

/-- The draft after a step, unless the step is refused. -/
def step? (d : Draft) : Step → Option Draft
  | .state name accepting => some (d.addState name accepting)
  | .transition source byte target => d.addTransition? source byte target
  | .accept i accepting => d.setAccepting? i accepting

/-- A refused step leaves the draft as it is. -/
def step (d : Draft) (a : Step) : Draft := (d.step? a).getD d

def run (d : Draft) (steps : List Step) : Draft := steps.foldl step d

/-- The step alone if it is not refused. -/
def kept (d : Draft) (a : Step) : List Step := if (d.step? a).isSome then [a] else []

/-- The steps of a run that are not refused. -/
def taken (d : Draft) : List Step → List Step
  | [] => []
  | a :: rest => d.kept a ++ taken (d.step a) rest

/-- The state `i` after some steps: its transitions come in the order of the steps, and its flag is
the last that it is given. -/
def changedBy (i : Nat) (steps : List Step) (s : ArenaState) : ArenaState :=
  { s with
    accepting := (steps.filterMap (Step.flag? i)).getLast?.getD s.accepting
    transitions := s.transitions ++ steps.filterMap (Step.transition? i) }

theorem run_cons (d : Draft) (a : Step) (rest : List Step) :
    d.run (a :: rest) = (d.step a).run rest := rfl

theorem run_concat (d : Draft) (steps : List Step) (a : Step) :
    d.run (steps ++ [a]) = (d.run steps).step a := by
  rw [run, List.foldl_append]
  rfl

theorem changedBy_nil (i : Nat) (s : ArenaState) : changedBy i [] s = s := by
  simp [changedBy]

theorem changedBy_append (i : Nat) (earlier later : List Step) (s : ArenaState) :
    changedBy i (earlier ++ later) s = changedBy i later (changedBy i earlier s) := by
  simp [changedBy, List.filterMap_append, List.getLast?_append, Option.getD_or]

theorem changedBy_state (i : Nat) (name : Option String) (accepting : Bool) (s : ArenaState) :
    changedBy i [.state name accepting] s = s := by
  simp [changedBy, Step.flag?, Step.transition?, List.filterMap_cons]

theorem changedBy_transition (i source : Nat) (byte : UInt8) (target : Nat) (s : ArenaState) :
    changedBy i [.transition source byte target] s =
      if source = i then { s with transitions := s.transitions ++ [(byte, target)] } else s := by
  by_cases h : source = i
  · simp [changedBy, Step.flag?, Step.transition?, List.filterMap_cons, h]
  · simp [changedBy, Step.flag?, Step.transition?, List.filterMap_cons, h]

theorem changedBy_accept (i j : Nat) (accepting : Bool) (s : ArenaState) :
    changedBy i [.accept j accepting] s = if j = i then { s with accepting } else s := by
  by_cases h : j = i
  · simp [changedBy, Step.flag?, Step.transition?, List.filterMap_cons, h]
  · simp [changedBy, Step.flag?, Step.transition?, List.filterMap_cons, h]

theorem changedBy_of_ne {i : Nat} {a : Step} (h : a.changed? ≠ some i) (s : ArenaState) :
    changedBy i [a] s = s := by
  cases a with
  | state name accepting => exact changedBy_state i name accepting s
  | transition source byte target =>
    rw [changedBy_transition, if_neg fun heq => h (congrArg some heq)]
  | accept j accepting => rw [changedBy_accept, if_neg fun heq => h (congrArg some heq)]

/-! ## One step -/

/-- A step adds a state, or it changes one that is there, or it is refused. -/
inductive Outcome (d : Draft) (a : Step) : Prop
  | added (s : ArenaState) : a.changed? = none → a.added? = some s → a.isTransition = false →
      d.step? a = some ⟨d.states.push s⟩ → Outcome d a
  | changed (i : Nat) : a.changed? = some i → a.added? = none → i < d.size →
      d.step? a = some ⟨d.states.modify i (changedBy i [a])⟩ → Outcome d a
  | refused (i : Nat) : a.changed? = some i → a.added? = none → d.size ≤ i → d.step? a = none →
      Outcome d a

theorem modify?_eq (d : Draft) (i : Nat) (f : ArenaState → ArenaState) :
    d.modify? i f = if i < d.size then some ⟨d.states.modify i f⟩ else none := rfl

theorem outcome (d : Draft) (a : Step) : Outcome d a := by
  cases a with
  | state name accepting => exact .added { name, accepting } rfl rfl rfl rfl
  | transition source byte target =>
    have hstep : d.step? (.transition source byte target) =
        d.modify? source (changedBy source [.transition source byte target]) := by
      rw [step?, addTransition?, funext (changedBy_transition source source byte target)]
      simp only [if_true]
    by_cases h : source < d.size
    · exact .changed source rfl rfl h (by rw [hstep, modify?_eq, if_pos h])
    · exact .refused source rfl rfl (Nat.le_of_not_lt h) (by rw [hstep, modify?_eq, if_neg h])
  | accept i accepting =>
    have hstep : d.step? (.accept i accepting) =
        d.modify? i (changedBy i [.accept i accepting]) := by
      rw [step?, setAccepting?, funext (changedBy_accept i i accepting)]
      simp only [if_true]
    by_cases h : i < d.size
    · exact .changed i rfl rfl h (by rw [hstep, modify?_eq, if_pos h])
    · exact .refused i rfl rfl (Nat.le_of_not_lt h) (by rw [hstep, modify?_eq, if_neg h])

theorem step?_eq_none_iff (d : Draft) (a : Step) :
    d.step? a = none ↔ ∃ i, a.changed? = some i ∧ d.size ≤ i := by
  rcases d.outcome a with ⟨s, hchanged, -, -, hstep⟩ | ⟨i, hchanged, -, hlt, hstep⟩ |
    ⟨i, hchanged, -, hle, hstep⟩
  · simp [hstep, hchanged]
  · simp [hstep, hchanged, hlt]
  · simp [hstep, hchanged, hle]

/-- With the states that later steps add laid behind the draft, a step that adds one changes no
place: it only takes the state over. -/
theorem getElem?_step (d : Draft) (a : Step) (more : List ArenaState) (i : Nat) :
    ((d.step a).states.toList ++ more)[i]? =
      ((d.states.toList ++ (a.added?.toList ++ more))[i]?).map (changedBy i (d.kept a)) := by
  rcases d.outcome a with ⟨s, hchanged, hadded, -, hstep⟩ | ⟨j, hchanged, hadded, hlt, hstep⟩ |
    ⟨j, hchanged, hadded, -, hstep⟩
  · have hsame : changedBy i [a] = id :=
      funext fun s => changedBy_of_ne (by simp [hchanged]) s
    simp [step, kept, hstep, hadded, hsame]
  · -- The step changes a state of the draft, so none of those to come.
    have hmore : (d.states.modify j (changedBy j [a])).toList ++ more =
        (d.states.toList ++ more).modify j (changedBy j [a]) := by
      rw [Array.toList_modify]
      exact modify_append_of_lt hlt _ more
    have hat : (fun s => if j = i then changedBy j [a] s else s) = changedBy i [a] := by
      funext s
      by_cases h : j = i
      · rw [if_pos h, h]
      · rw [if_neg h, changedBy_of_ne (by simpa [hchanged] using h)]
    rw [step, kept, hstep, hadded, Option.getD_some, hmore, List.getElem?_modify, hat]
    simp
  · have hsame : changedBy i [] = id := funext fun s => changedBy_nil i s
    simp [step, kept, hstep, hadded, hsame]

theorem size_step (d : Draft) (a : Step) :
    (d.step a).size = d.size + if a.isState then 1 else 0 := by
  rcases d.outcome a with ⟨s, -, hadded, -, hstep⟩ | ⟨i, -, hadded, -, hstep⟩ |
    ⟨i, -, hadded, -, hstep⟩
  · simp [step, size, hstep, Step.isState, hadded]
  · simp [step, size, hstep, Step.isState, hadded]
  · simp [step, size, hstep, Step.isState, hadded]

/-- A step that changes a state gives it one more transition, or none. -/
theorem length_transitions_changedBy {i : Nat} {a : Step} (h : a.changed? = some i)
    (s : ArenaState) : (changedBy i [a] s).transitions.length =
      s.transitions.length + [a].countP Step.isTransition := by
  cases a with
  | state name accepting => cases h
  | transition source byte target =>
    obtain rfl := Option.some.inj h
    rw [changedBy_transition, if_pos rfl, List.length_append]
    rfl
  | accept j accepting =>
    obtain rfl := Option.some.inj h
    rw [changedBy_accept, if_pos rfl]
    rfl

theorem transitionCount_step (d : Draft) (a : Step) (start : Nat) :
    ((d.step a).build start).transitionCount =
      (d.build start).transitionCount + (d.kept a).countP Step.isTransition := by
  rcases d.outcome a with ⟨s, hnone, hadded, hother, hstep⟩ | ⟨i, hchanged, -, hlt, hstep⟩ |
    ⟨i, -, -, -, hstep⟩
  · have hempty : s.transitions = [] := Step.transitions_of_added? hadded
    simp [step, kept, hstep, build, Arena.transitionCount, hempty, hother]
  · obtain ⟨before, s, after, hstates, -, hmodify⟩ :=
      List.exists_of_modify (changedBy i [a]) (l := d.states.toList) hlt
    have hlength := length_transitions_changedBy hchanged s
    rw [step, kept, hstep, Option.getD_some, Option.isSome_some, if_pos rfl, build, build,
      Arena.transitionCount, Arena.transitionCount, Array.toList_modify, hmodify, hstates]
    simp only [List.flatMap_append, List.flatMap_cons, List.length_append, hlength]
    omega
  · simp [step, kept, hstep]

/-! ## Whole runs -/

theorem getElem?_run (d : Draft) (steps : List Step) (i : Nat) :
    (d.run steps).states[i]? =
      ((d.states.toList ++ steps.filterMap Step.added?)[i]?).map (changedBy i (d.taken steps)) := by
  induction steps generalizing d with
  | nil =>
    have hsame : changedBy i [] = id := funext (changedBy_nil i)
    simp [run, taken, hsame]
  | cons a rest ih =>
    have hadded : (a :: rest).filterMap Step.added? =
        a.added?.toList ++ rest.filterMap Step.added? := by
      cases h : a.added? <;> simp [h]
    have htaken : changedBy i ((d.step a).taken rest) ∘ changedBy i (d.kept a) =
        changedBy i (d.taken (a :: rest)) := funext fun s => (changedBy_append i _ _ s).symm
    rw [run_cons, ih, getElem?_step, hadded, Option.map_map, htaken]

theorem transitionCount_run (d : Draft) (steps : List Step) (start : Nat) :
    ((d.run steps).build start).transitionCount =
      (d.build start).transitionCount + (d.taken steps).countP Step.isTransition := by
  induction steps generalizing d with
  | nil => rfl
  | cons a rest ih =>
    rw [run_cons, ih, transitionCount_step, taken, List.countP_append, Nat.add_assoc]

theorem size_run (d : Draft) (steps : List Step) :
    (d.run steps).size = d.size + steps.countP Step.isState := by
  induction steps generalizing d with
  | nil => rfl
  | cons a rest ih =>
    rw [run_cons, ih, size_step, List.countP_cons, Nat.add_assoc, Nat.add_comm (List.countP _ _)]

/-- Among the states that are added, one stands behind those that have been added before it. -/
theorem getElem?_added (before after : List Step) (name : Option String) (accepting : Bool) :
    let added := (before ++ .state name accepting :: after).filterMap Step.added?
    added[before.countP Step.isState]? = some { name, accepting } := by
  intro added
  have hplace : before.countP Step.isState = (before.filterMap Step.added?).length :=
    List.length_filterMap_eq_countP.symm
  have hadded : added = before.filterMap Step.added? ++
      { name, accepting } :: after.filterMap Step.added? := by
    have hstate : Step.added? (.state name accepting) = some { name, accepting } := rfl
    rw [← List.filterMap_cons_some hstate, ← List.filterMap_append]
  rw [hadded, hplace, List.getElem?_append_right (Nat.le_refl _), Nat.sub_self,
    List.getElem?_cons_zero]

/-- A state is what it has been added as, changed by the steps that are not refused. -/
theorem getElem?_run_empty (before after : List Step) (name : Option String) (accepting : Bool) :
    let steps := before ++ .state name accepting :: after
    let i := before.countP Step.isState
    (empty.run steps).states[i]? =
      some { name
             accepting := ((empty.taken steps).filterMap (Step.flag? i)).getLast?.getD accepting
             transitions := (empty.taken steps).filterMap (Step.transition? i) } := by
  intro steps i
  have hadded : (empty.states.toList ++ steps.filterMap Step.added?)[i]? =
      some { name, accepting } := getElem?_added before after name accepting
  rw [getElem?_run, hadded, Option.map_some, changedBy, List.nil_append]

/-- What a run of steps is built into has the given start and one state for each step that adds one.
The states are numbered in the order of these steps, a new one by the number of those before it. It
has the name that it is given then; the transitions of the steps from it that are not refused, in
their order, whatever they repeat and wherever they lead; and the last flag that it is given. No
transition belongs to another state. A number that no state has, the start's too, reads as a state
without name, acceptance and transitions. A step is refused when it names a state that is not there
yet, and then nothing changes. -/
theorem build_run (steps : List Step) (start : Nat) :
    let d := empty.run steps
    let arena := d.build start
    let count := steps.countP Step.isState
    let taken := empty.taken steps
    arena.start = start ∧ arena.size = count ∧
    (∀ before name accepting after, steps = before ++ .state name accepting :: after →
      let i := before.countP Step.isState
      (empty.run before).size = i ∧ i < count ∧
      arena.state i =
        { name
          accepting := (taken.filterMap (Step.flag? i)).getLast?.getD accepting
          transitions := taken.filterMap (Step.transition? i) }) ∧
    arena.transitionCount = taken.countP Step.isTransition ∧
    (∀ i, count ≤ i → (arena.state i).name = none ∧ arena.toAutomaton.accepting i = false ∧
      arena.toAutomaton.transitions i = []) ∧
    ∀ a, (d.step? a = none ↔ ∃ i, a.changed? = some i ∧ count ≤ i) ∧
      (d.step? a = none → empty.run (steps ++ [a]) = d) := by
  intro d arena count taken
  have hsize : d.size = count := by
    rw [size_run]
    exact Nat.zero_add _
  refine ⟨rfl, hsize, ?_, ?_, fun i hle => ?_, fun a => ⟨?_, fun hnone => ?_⟩⟩
  · rintro before name accepting after rfl i
    have hcount : count = i + (after.countP Step.isState + 1) := by
      rw [← List.countP_cons_of_pos (a := .state name accepting) rfl, ← List.countP_append]
    have hget : arena.states[i]? = _ := getElem?_run_empty before after name accepting
    refine ⟨?_, by omega, ?_⟩
    · rw [size_run]
      exact Nat.zero_add _
    · rw [Arena.state, hget, Option.getD_some]
  · rw [transitionCount_run]
    exact Nat.zero_add _
  · have hnone : arena.state i = {} := by
      have hget : arena.states[i]? = none :=
        Array.getElem?_eq_none (Nat.le_trans (Nat.le_of_eq hsize) hle)
      rw [Arena.state, hget, Option.getD_none]
    exact ⟨congrArg ArenaState.name hnone, congrArg ArenaState.accepting hnone,
      congrArg ArenaState.transitions hnone⟩
  · rw [step?_eq_none_iff, hsize]
  · rw [run_concat, step, hnone, Option.getD_none]

/-- Steps on the second state are refused until it is there; its transitions keep a repeated one and
one that leads out of the arena. -/
example : ((empty.run [.state none true, .accept 0 false, .transition 1 97 0, .state none false,
    .transition 1 98 7, .accept 1 true, .transition 1 98 7]).build 0).states =
      #[⟨none, false, []⟩, ⟨none, true, [(98, 7), (98, 7)]⟩] := by
  decide

end Draft

end TransitionMap
