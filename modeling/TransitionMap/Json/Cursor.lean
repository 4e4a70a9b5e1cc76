import TransitionMap.Decimal.Shortest
import TransitionMap.Text.Quoted

/-!
# Reading JSON

A reader works on the rest of a text and the number of bytes before it. What goes wrong has a cause
and a place; a cause that concerns a whole value, such as a wrong type, gets its place when the
value around it has been closed. So a reader leaves its cursor behind in case of an error, too.
-/

namespace TransitionMap.Json

/-- A name between grave accents. -/
def ticked (s : String) : String := "`" ++ s ++ "`"

/-- What stands where something else was expected. -/
inductive Found
  | null
  | bool (b : Bool)
  | integer (i : Int)
  | float (negative : Bool) (x : Binary64)
  | string (s : String)
  | array
  | object
  deriving DecidableEq, Repr

def Found.text : Found → String
  | .null => "null"
  | .bool b => "boolean " ++ ticked (if b then "true" else "false")
  | .integer i => "integer " ++ ticked i.repr
  | .float negative x => "floating point " ++ ticked ((if negative then "-" else "") ++ x.text)
  | .string s => "string " ++ quoted s
  | .array => "sequence"
  | .object => "map"

inductive Cause
  | endOfList
  | endOfObject
  | endOfString
  | endOfValue
  | expectedColon
  | expectedListCommaOrEnd
  | expectedObjectCommaOrEnd
  | expectedWord
  | expectedValue
  | invalidEscape
  | invalidNumber
  | numberOutOfRange
  | controlCharacter
  | keyMustBeString
  | loneSurrogate
  | unexpectedEndOfEscape
  | trailingComma
  | trailingCharacters
  | recursionLimit
  | invalidType (found : Found) (expected : String)
  | invalidLength (length : Nat) (expected : String)
  | missingField (name : String)
  | duplicateField (name : String)
  /-- A value that is none of the alternatives of a type. -/
  | noAlternative (type : String)
  deriving DecidableEq, Repr

def Cause.message : Cause → String
  | .endOfList => "EOF while parsing a list"
  | .endOfObject => "EOF while parsing an object"
  | .endOfString => "EOF while parsing a string"
  | .endOfValue => "EOF while parsing a value"
  | .expectedColon => "expected `:`"
  | .expectedListCommaOrEnd => "expected `,` or `]`"
  | .expectedObjectCommaOrEnd => "expected `,` or `\x7d`"
  | .expectedWord => "expected ident"
  | .expectedValue => "expected value"
  | .invalidEscape => "invalid escape"
  | .invalidNumber => "invalid number"
  | .numberOutOfRange => "number out of range"
  | .controlCharacter =>
      "control character (\\u0000-\\u001F) found while parsing a string"
  | .keyMustBeString => "key must be a string"
  | .loneSurrogate => "lone leading surrogate in hex escape"
  | .unexpectedEndOfEscape => "unexpected end of hex escape"
  | .trailingComma => "trailing comma"
  | .trailingCharacters => "trailing characters"
  | .recursionLimit => "recursion limit exceeded"
  | .invalidType found expected => "invalid type: " ++ found.text ++ ", expected " ++ expected
  | .invalidLength length expected =>
      "invalid length " ++ length.repr ++ ", expected " ++ expected
  | .missingField name => "missing field " ++ ticked name
  | .duplicateField name => "duplicate field " ++ ticked name
  | .noAlternative type => "data did not match any variant of untagged enum " ++ type

/-- A cause and the number of bytes in front of its place, once that is known. -/
structure Fault where
  cause : Cause
  place : Option Nat := none
  deriving DecidableEq, Repr

structure Cursor where
  rest : List Char
  offset : Nat := 0
  deriving DecidableEq, Repr

abbrev Reader (α : Type) := ExceptT Fault (StateM Cursor) α

namespace Reader

variable {α : Type}

/-- Fails at the place behind what has been read. -/
def fail (cause : Cause) : Reader α := fun c => (.error ⟨cause, some c.offset⟩, c)

/-- Fails at the place behind the next byte, or at the end of the text. -/
def failNext (cause : Cause) : Reader α := fun c =>
  (.error ⟨cause, some (if c.rest.isEmpty then c.offset else c.offset + 1)⟩, c)

/-- Fails at a place that is still to be determined. -/
def reject (cause : Cause) : Reader α := fun c => (.error ⟨cause, none⟩, c)

/-- Gives an error without a place the place behind what has been read. -/
def placed (r : Reader α) : Reader α := fun c =>
  match r c with
  | (.error ⟨cause, none⟩, c) => (.error ⟨cause, some c.offset⟩, c)
  | result => result

def peek : Reader (Option Char) := fun c => (.ok c.rest.head?, c)

def advance : Reader Unit := fun c =>
  match c.rest with
  | [] => (.ok (), c)
  | ch :: rest => (.ok (), ⟨rest, c.offset + ch.utf8Size⟩)

/-- The next character, or `none` at the end. It is counted as one byte: where it is used,
characters of more bytes are errors, which have their place behind the first. -/
def next : Reader (Option Char) := fun c =>
  match c.rest with
  | [] => (.ok none, c)
  | ch :: rest => (.ok (some ch), ⟨rest, c.offset + 1⟩)

/-- The number of characters to come, which bounds every loop. -/
def remaining : Reader Nat := fun c => (.ok c.rest.length, c)

def isSpace (c : Char) : Bool := c = ' ' || c = '\n' || c = '\t' || c = '\x0d'

/-- Skips white space and looks at the character behind it. -/
def skipSpace : Reader (Option Char) := fun c =>
  let skipped := (c.rest.takeWhile isSpace).length
  let rest := c.rest.dropWhile isSpace
  (.ok rest.head?, ⟨rest, c.offset + skipped⟩)

/-- Reads the letters of a word. -/
def word : List Char → Reader Unit
  | [] => return ()
  | expected :: rest => do
      match ← next with
      | none => fail .endOfValue
      | some c => if c = expected then word rest else fail .expectedWord

/-- Runs a body and then what closes it; the body's error wins, but the closing runs all the
same. -/
def closing (body : Reader α) (close : Reader Unit) : Reader α := fun c =>
  match body c with
  | (.ok a, c) =>
      match close c with
      | (.ok _, c) => (.ok a, c)
      | (.error e, c) => (.error e, c)
  | (.error e, c) => (.error e, (close c).2)

/-- Closes an array. -/
def endArray : Reader Unit := do
  match ← skipSpace with
  | some ']' => advance
  | some ',' =>
      advance
      match ← skipSpace with
      | some ']' => failNext .trailingComma
      | _ => failNext .trailingCharacters
  | some _ => failNext .trailingCharacters
  | none => failNext .endOfList

/-- Closes an object. -/
def endObject : Reader Unit := do
  match ← skipSpace with
  | some '\x7d' => advance
  | some ',' => failNext .trailingComma
  | some _ => failNext .trailingCharacters
  | none => failNext .endOfObject

/-- Whether an array has another element; moves to it. -/
def hasElement (first : Bool) : Reader Bool := do
  match ← skipSpace with
  | none => failNext .endOfList
  | some ']' => return false
  | some c =>
      if first then return true
      else if c = ',' then
        advance
        match ← skipSpace with
        | some ']' => failNext .trailingComma
        | some _ => return true
        | none => failNext .endOfValue
      else failNext .expectedListCommaOrEnd

/-- Whether an object has another member; moves to its key. -/
def hasMember (first : Bool) : Reader Bool := do
  match ← skipSpace with
  | none => failNext .endOfObject
  | some '\x7d' => return false
  | some c =>
      if first then if c = '"' then return true else failNext .keyMustBeString
      else if c = ',' then
        advance
        match ← skipSpace with
        | some '"' => return true
        | some '\x7d' => failNext .trailingComma
        | some _ => failNext .keyMustBeString
        | none => failNext .endOfValue
      else failNext .expectedObjectCommaOrEnd

/-- Reads the colon between a key and its value. -/
def colon : Reader Unit := do
  match ← skipSpace with
  | some ':' => advance
  | some _ => failNext .expectedColon
  | none => failNext .endOfObject

/-- Enters an array or object, unless that is too deep. -/
def nested (depth : Nat) (body : Nat → Reader α) (close : Reader Unit) : Reader α :=
  match depth with
  | inner + 2 => closing (do advance; body (inner + 1)) close
  | _ => failNext .recursionLimit

/-- Folds over the elements of an array, which `element` reads. -/
def elements {σ : Type} (element : σ → Reader σ) : Nat → Bool → σ → Reader σ
  | 0, _, s => return s
  | fuel + 1, first, s => do
      if ← hasElement first then elements element fuel false (← element s) else return s

/-- Folds over the members of an object; `member` is called in front of a key. -/
def members {σ : Type} (member : σ → Reader σ) : Nat → Bool → σ → Reader σ
  | 0, _, s => return s
  | fuel + 1, first, s => do
      if ← hasMember first then members member fuel false (← member s) else return s

end Reader

/-- The line and the column of a place, from one and from zero. -/
def lineAndColumn (text : List Char) (place : Nat) : Nat × Nat :=
  go 1 0 0 text
where
  go (line column offset : Nat) : List Char → Nat × Nat
    | [] => (line, column + (place - offset))
    | c :: rest =>
        if place < offset + c.utf8Size then (line, column + (place - offset))
        else if c = '\n' then go (line + 1) 0 (offset + 1) rest
        else go line (column + c.utf8Size) (offset + c.utf8Size) rest

def Fault.message (f : Fault) (text : String) : String :=
  match f.place with
  | none => f.cause.message
  | some place =>
      let (line, column) := lineAndColumn text.toList place
      f.cause.message ++ " at line " ++ line.repr ++ " column " ++ column.repr

end TransitionMap.Json
