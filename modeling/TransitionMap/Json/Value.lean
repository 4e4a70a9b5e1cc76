import TransitionMap.Json.Number
import TransitionMap.Json.Text

/-!
# Values in JSON

`Reader.value` reads any value, to a nesting of 127 arrays and objects. `Reader.skipValue` passes
over a value of any nesting and does not look at what its numbers and escapes mean.
-/

namespace TransitionMap.Json

inductive Value
  | null
  | bool (b : Bool)
  | number (n : Number)
  | string (s : String)
  | array (items : List Value)
  | object (members : List (String × Value))
  deriving Repr

namespace Reader

variable {α : Type}

/-- One more than the deepest nesting of arrays and objects. -/
def maxDepth : Nat := 128

/-- A literal word, at its first letter. -/
def literal (rest : String) (result : α) : Reader α := do
  advance
  word rest.toList
  return result

/-- The array whose elements a reader gives, last first. -/
def arrayOf (element : Nat → Reader α) (depth : Nat) : Reader (List α) :=
  nested depth
    (fun depth => do
      let items ← elements (fun done => do return (← element depth) :: done)
        ((← remaining) + 1) true []
      return items.reverse)
    endArray

/-- Any value; `depth` counts the levels that are left, and one. -/
def value : Nat → Reader Value
  | 0 => failNext .recursionLimit
  | depth + 1 => do
      match ← skipSpace with
      | none => failNext .endOfValue
      | some 'n' => literal "ull" .null
      | some 't' => literal "rue" (.bool true)
      | some 'f' => literal "alse" (.bool false)
      | some '"' => return .string (← string)
      | some '-' =>
          advance
          return .number (← number true)
      | some '[' => return .array (← arrayOf (fun _ => value depth) (depth + 1))
      | some '\x7b' =>
          let members ← nested (depth + 1)
            (fun _ => do
              let members ← members
                (fun done => do
                  let key ← string
                  colon
                  return (key, ← value depth) :: done)
                ((← remaining) + 1) true []
              return members.reverse)
            endObject
          return .object members
      | some c =>
          if (digit? c).isSome then return .number (← number false) else failNext .expectedValue

/-- What stands where a value of another type was expected. -/
def found : Reader Found := do
  match ← peek with
  | some 'n' => literal "ull" .null
  | some 't' => literal "rue" (.bool true)
  | some 'f' => literal "alse" (.bool false)
  | some '"' => return .string (← string)
  | some '-' =>
      advance
      return (← number true).found
  | some '[' => return .array
  | some '\x7b' => return .object
  | some c =>
      if (digit? c).isSome then return (← number false).found else failNext .expectedValue
  | none => failNext .expectedValue

/-- Fails because the value that follows has a wrong type. -/
def wrongType (expected : String) : Reader α :=
  placed (do reject (.invalidType (← found) expected))

/-- Looks at the first character of a value. -/
def beginValue : Reader Char := do
  match ← skipSpace with
  | some c => return c
  | none => failNext .endOfValue

/-- A string where one is expected. -/
def expectString : Reader String := do
  if (← beginValue) = '"' then string else wrongType "a string"

def expectBool : Reader Bool := do
  match ← beginValue with
  | 't' => literal "rue" true
  | 'f' => literal "alse" false
  | _ => wrongType "a boolean"

/-- An array where one is expected. -/
def expectArray (element : Nat → Reader α) (depth : Nat) : Reader (List α) := do
  if (← beginValue) = '[' then placed (arrayOf element depth) else wrongType "a sequence"

/-! ## Skipping -/

/-- An array or object around a place. -/
inductive Frame
  | array
  | object
  deriving DecidableEq, Repr

/-- Skips a key and its colon. -/
def skipKey : Reader Unit := do
  match ← skipSpace with
  | some '"' => skipString
  | some _ => failNext .keyMustBeString
  | none => failNext .endOfObject
  match ← skipSpace with
  | some ':' => advance
  | some _ => failNext .expectedColon
  | none => failNext .endOfObject

/-- Closes frames behind a value, or in front of the first one when `accept` is off. Gives the
frames that stay open, or `none` if all are closed. -/
def skipClosing : Nat → Bool → List Frame → Reader (Option (List Frame))
  | 0, _, _ => failNext .endOfValue
  | _ + 1, _, [] => return none
  | fuel + 1, accept, frame :: outer => do
      let isArray := frame = .array
      match ← skipSpace with
      | none => failNext (if isArray then .endOfList else .endOfObject)
      | some c =>
          if c = ',' ∧ accept then
            advance
            return some (frame :: outer)
          else if c = (if isArray then ']' else '\x7d') then
            advance
            skipClosing fuel true outer
          else if accept then
            failNext (if isArray then .expectedListCommaOrEnd else .expectedObjectCommaOrEnd)
          else return some (frame :: outer)

/-- Skips a value inside some frames and then the rest of the frames. -/
def skipFrames : Nat → List Frame → Reader Unit
  | 0, _ => failNext .endOfValue
  | fuel + 1, frames => do
      let opened ← match ← skipSpace with
        | none => failNext .endOfValue
        | some 'n' => literal "ull" none
        | some 't' => literal "rue" none
        | some 'f' => literal "alse" none
        | some '"' => do skipString; pure none
        | some '-' => do advance; skipNumber; pure none
        | some '[' => do advance; pure (some Frame.array)
        | some '\x7b' => do advance; pure (some Frame.object)
        | some c =>
            if (digit? c).isSome then do skipNumber; pure none else failNext .expectedValue
      match ← skipClosing ((← remaining) + frames.length + 2) opened.isNone
          (opened.toList ++ frames) with
      | none => return ()
      | some frames =>
          if frames.head? = some .object then skipKey
          skipFrames fuel frames

/-- Skips any value. -/
def skipValue : Reader Unit := do skipFrames ((← remaining) + 1) []

/-- Reads a whole text. -/
def run (r : Reader α) (text : String) : Except Fault α :=
  ((do
    let a ← r
    match ← skipSpace with
    | some _ => failNext .trailingCharacters
    | none => return a : Reader α) ⟨text.toList, 0⟩).1

end Reader

/-- The value of a text. -/
def parse (text : String) : Except Fault Value := (Reader.value Reader.maxDepth).run text

end TransitionMap.Json
