import TransitionMap.Automaton.Arena
import TransitionMap.Text.Quoted

/-!
# Descriptions of automata

A description names the states of an automaton and lists their transitions by these names. A symbol
is a byte, or a text of one character up to U+00FF that stands for the byte of that code.
`Description.toArena` numbers the states in the order of their declaration.
-/

namespace TransitionMap

inductive SymbolText
  | byte (b : UInt8)
  | text (s : String)
  deriving DecidableEq, Repr

structure StateDescription where
  name : String
  accepting : Bool := false
  transitions : List (SymbolText × String) := []
  deriving DecidableEq, Repr

structure Description where
  start : String
  states : List StateDescription
  deriving DecidableEq, Repr

inductive DescriptionError
  | unknownState (name : String)
  | duplicateState (name : String)
  | invalidSymbol (text : String)
  deriving DecidableEq, Repr

def DescriptionError.message : DescriptionError → String
  | .unknownState name => "unknown state `" ++ name ++ "`"
  | .duplicateState name => "duplicate state `" ++ name ++ "`"
  | .invalidSymbol text =>
      "invalid symbol " ++ quoted text ++ ": expected one character up to U+00FF"

def SymbolText.toByte : SymbolText → Except DescriptionError UInt8
  | byte b => .ok b
  | text s =>
      match s.toList with
      | [c] => if c.toNat < 256 then .ok (UInt8.ofNat c.toNat) else .error (.invalidSymbol s)
      | _ => .error (.invalidSymbol s)

namespace Description

/-- The names of the states, unless one repeats an earlier one. -/
def collectNames (names : OrderedSet String) : List StateDescription →
    Except DescriptionError (OrderedSet String)
  | [] => .ok names
  | s :: rest =>
      if names.contains s.name then .error (.duplicateState s.name)
      else collectNames (names.insert s.name) rest

def number (names : OrderedSet String) (name : String) : Except DescriptionError Nat :=
  match names.position? name with
  | some i => .ok i
  | none => .error (.unknownState name)

/-- A transition by number; its target is looked up before its symbol. -/
def transition (names : OrderedSet String) (t : SymbolText × String) :
    Except DescriptionError (UInt8 × Nat) := do
  let target ← number names t.2
  let symbol ← t.1.toByte
  return (symbol, target)

def arenaState (names : OrderedSet String) (s : StateDescription) :
    Except DescriptionError ArenaState := do
  let transitions ← s.transitions.mapM (transition names)
  return { name := some s.name, accepting := s.accepting, transitions }

/-- The described automaton. Of several errors, a repeated name is reported first, then the first
transition that is wrong, then the start. -/
def toArena (d : Description) : Except DescriptionError Arena := do
  let names ← collectNames .empty d.states
  let states ← d.states.mapM (arenaState names)
  let start ← number names d.start
  return ⟨states.toArray, start⟩

end Description

end TransitionMap
