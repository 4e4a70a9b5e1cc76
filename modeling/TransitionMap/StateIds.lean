import TransitionMap.Layout
import TransitionMap.OrderedSet

/-!
# Numbering states

`StateIds.assign` numbers the distinct states of a list in the order of their first occurrence. It
refuses a list with more distinct states than a limit, and no limit goes beyond what a state field
of the map can tell apart.
-/

namespace TransitionMap

/-- The largest number of states that a limit admits. -/
def admitted (limit : Nat) : Nat := min limit StateId.count

structure StateIds (σ : Type) [DecidableEq σ] [Hashable σ] where
  states : OrderedSet σ
  /-- Every position fits a state field. -/
  size_le : states.size ≤ StateId.count

/-- The number of distinct states and the largest number admitted. -/
structure TooManyStates where
  count : Nat
  max : Nat
  deriving DecidableEq, Repr

namespace StateIds

variable {σ : Type} [DecidableEq σ] [Hashable σ]

def ofSet (states : OrderedSet σ) (limit : Nat) : Except TooManyStates (StateIds σ) :=
  if h : states.size ≤ admitted limit then
    .ok ⟨states, Nat.le_trans h (Nat.min_le_right _ _)⟩
  else .error ⟨states.size, admitted limit⟩

def assign (states : List σ) (limit : Nat) : Except TooManyStates (StateIds σ) :=
  ofSet (OrderedSet.ofList states) limit

def size (ids : StateIds σ) : Nat := ids.states.size

def id? (ids : StateIds σ) (s : σ) : Option StateId :=
  (ids.states.position? s).bind StateId.ofIndex?

def state? (ids : StateIds σ) (id : StateId) : Option σ := ids.states.get? id.toNat

/-- Each state with its number, in the order of the numbers. -/
def pairs (ids : StateIds σ) : List (StateId × σ) :=
  ids.states.toList.zipIdx.map fun (s, i) => (UInt16.ofNat i, s)

end StateIds

end TransitionMap
