import TransitionMap.Description
import TransitionMap.Json.Value

/-!
# Reading descriptions

A description is an object with the fields `start` and `states`, and a state one with the fields
`name`, `accepting` and `transitions`, of which the last two may be left out. Either may also be an
array of its fields in this order. Fields of other names are skipped.
-/

namespace TransitionMap

open Json Json.Reader

/-- A symbol is a number that is a byte, or any string. -/
def SymbolText.ofValue? : Json.Value → Option SymbolText
  | .number (.natural n) => if n < 256 then some (.byte (UInt8.ofNat n)) else none
  | .string s => some (.text s)
  | _ => none

namespace Description

def readSymbol (depth : Nat) : Reader SymbolText := do
  match SymbolText.ofValue? (← value depth) with
  | some s => return s
  | none => reject (.noAlternative "SymbolSpec")

/-- The next element of an array; `index` and `whole` say what is missing if there is none. -/
def nextElement {α : Type} (index : Nat) (whole : String) (element : Reader α) : Reader α := do
  if ← hasElement (index == 0) then element else reject (.invalidLength index whole)

/-- The next element of an array, or a default. -/
def nextElementOr {α : Type} (default : α) (element : Reader α) : Reader α := do
  if ← hasElement false then element else return default

def pairText : String := "a tuple of size 2"

def readTransition (depth : Nat) : Reader (SymbolText × String) := do
  if (← beginValue) = '[' then
    placed <| nested depth
      (fun depth => do
        let symbol ← nextElement 0 pairText (readSymbol depth)
        let target ← nextElement 1 pairText expectString
        return (symbol, target))
      endArray
  else wrongType pairText

/-- A value that is written as an object or as an array. -/
def readFields {α : Type} (whole : String) (depth : Nat) (fromArray fromObject : Nat → Reader α) :
    Reader α := do
  match ← beginValue with
  | '[' => placed (nested depth fromArray endArray)
  | '\x7b' => placed (nested depth fromObject endObject)
  | _ => wrongType whole

/-- The value of a field that has not been read yet. -/
def readOnce {α : Type} (name : String) (before : Option α) (field : Reader α) :
    Reader (Option α) := do
  if before.isSome then reject (.duplicateField name)
  colon
  return some (← field)

def skipField : Reader Unit := do
  colon
  skipValue

def require {α : Type} (name : String) : Option α → Reader α
  | some a => return a
  | none => reject (.missingField name)

/-! ## States -/

structure StateFields where
  name : Option String := none
  accepting : Option Bool := none
  transitions : Option (List (SymbolText × String)) := none

def readStateField (depth : Nat) (f : StateFields) : Reader StateFields := do
  match ← string with
  | "name" => return { f with name := ← readOnce "name" f.name expectString }
  | "accepting" => return { f with accepting := ← readOnce "accepting" f.accepting expectBool }
  | "transitions" =>
      return { f with
        transitions := ← readOnce "transitions" f.transitions (expectArray readTransition depth) }
  | _ =>
      skipField
      return f

def stateFromObject (depth : Nat) : Reader StateDescription := do
  let f ← members (readStateField depth) ((← remaining) + 1) true {}
  return {
    name := ← require "name" f.name
    accepting := f.accepting.getD false
    transitions := f.transitions.getD [] }

def stateFromArray (depth : Nat) : Reader StateDescription := do
  let name ← nextElement 0 "struct StateSpec with 3 elements" expectString
  let accepting ← nextElementOr false expectBool
  let transitions ← nextElementOr [] (expectArray readTransition depth)
  return { name, accepting, transitions }

def readState (depth : Nat) : Reader StateDescription :=
  readFields "struct StateSpec" depth stateFromArray stateFromObject

/-! ## Descriptions -/

structure Fields where
  start : Option String := none
  states : Option (List StateDescription) := none

def readField (depth : Nat) (f : Fields) : Reader Fields := do
  match ← string with
  | "start" => return { f with start := ← readOnce "start" f.start expectString }
  | "states" =>
      return { f with states := ← readOnce "states" f.states (expectArray readState depth) }
  | _ =>
      skipField
      return f

def fromObject (depth : Nat) : Reader Description := do
  let f ← members (readField depth) ((← remaining) + 1) true {}
  return { start := ← require "start" f.start, states := ← require "states" f.states }

def fromArray (depth : Nat) : Reader Description := do
  let start ← nextElement 0 "struct DfaSpec with 2 elements" expectString
  let states ← nextElement 1 "struct DfaSpec with 2 elements" (expectArray readState depth)
  return { start, states }

def reader : Reader Description :=
  readFields "struct DfaSpec" maxDepth fromArray fromObject

def parse (text : String) : Except Fault Description := reader.run text

end Description

end TransitionMap
