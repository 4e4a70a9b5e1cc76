import TransitionMap.Automaton

/-!
# Automata as numbered states

An `Arena` numbers its states from zero. A transition may lead to a number that no state has, and
the start may be one; such a state has no transitions, does not accept and has no name.

A `Draft` is built up step by step. Its steps refuse a source state that does not exist yet and
leave the draft as it was.
-/

namespace TransitionMap

structure ArenaState where
  name : Option String := none
  accepting : Bool := false
  transitions : List (UInt8 × Nat) := []
  deriving DecidableEq, Repr

structure Arena where
  states : Array ArenaState
  start : Nat
  deriving DecidableEq, Repr

namespace Arena

def size (a : Arena) : Nat := a.states.size

/-- The state with a number; one without name, transitions and acceptance if there is none. -/
def state (a : Arena) (i : Nat) : ArenaState := (a.states[i]?).getD {}

def transitionCount (a : Arena) : Nat := (a.states.toList.flatMap (·.transitions)).length

def describe (a : Arena) (i : Nat) : String :=
  match (a.state i).name with
  | some name => "`" ++ name ++ "`"
  | none => "#" ++ i.repr

/-- The start and every transition's target. -/
def mentioned (a : Arena) : List Nat :=
  a.start :: a.states.toList.flatMap fun s => s.transitions.map Prod.snd

theorem target_mem_mentioned (a : Arena) (i : Nat) (t : UInt8 × Nat)
    (h : t ∈ (a.state i).transitions) : t.2 ∈ a.mentioned := by
  unfold state at h
  cases hi : a.states[i]? with
  | none => simp [hi] at h
  | some s =>
    rw [hi, Option.getD_some] at h
    refine List.mem_cons_of_mem _ (List.mem_flatMap.2 ⟨s, ?_, List.mem_map_of_mem h⟩)
    exact Array.mem_toList_iff.2 (Array.mem_iff_getElem?.2 ⟨i, hi⟩)

theorem length_mentioned (a : Arena) : a.mentioned.length = a.transitionCount + 1 := by
  simp [mentioned, transitionCount, ← List.map_flatMap]

def toAutomaton (a : Arena) : Automaton Nat where
  start := a.start
  transitions i := (a.state i).transitions
  accepting i := (a.state i).accepting
  describe := a.describe
  bound := a.transitionCount + 1
  bounded := ⟨a.mentioned, by simp [length_mentioned], by simp [mentioned],
    fun i _ t h => a.target_mem_mentioned i t h⟩

end Arena

/-- An arena under construction: its states so far. -/
structure Draft where
  states : Array ArenaState := #[]
  deriving DecidableEq, Repr

namespace Draft

def empty : Draft := {}

def size (d : Draft) : Nat := d.states.size

/-- Adds a state; its number is the number of states before it. -/
def addState (d : Draft) (name : Option String) (accepting : Bool) : Draft :=
  ⟨d.states.push { name, accepting }⟩

/-- Changes a state; `none` if there is no state of that number. -/
def modify? (d : Draft) (i : Nat) (f : ArenaState → ArenaState) : Option Draft :=
  if i < d.states.size then some ⟨d.states.modify i f⟩ else none

/-- Appends a transition to the state `source`; the target need not exist. -/
def addTransition? (d : Draft) (source : Nat) (byte : UInt8) (target : Nat) : Option Draft :=
  d.modify? source fun s => { s with transitions := s.transitions ++ [(byte, target)] }

def setAccepting? (d : Draft) (i : Nat) (accepting : Bool) : Option Draft :=
  d.modify? i fun s => { s with accepting }

def build (d : Draft) (start : Nat) : Arena := ⟨d.states, start⟩

end Draft

end TransitionMap
