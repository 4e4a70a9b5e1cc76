import TransitionMap.Toml.Text

/-!
# Documents in TOML

A document is a table, built by the lines of its text one after the other: a key with a value adds
to the table opened last, a header opens another one. Nothing is ever changed once it is there:
what would define a key twice, or add to a finished table, is refused.
-/

namespace TransitionMap.Toml

/-! ## Adding to tables -/

namespace Members

def set (key : String) (value : Value) (members : Members) : Members :=
  members.map fun m => if m.1 = key then (key, value) else m

/-- Changes the table that a path of names leads to; through an array of tables it leads to the last
one. Tables on the way that are not there yet are created. -/
def within : List String → (Members → Option Members) → Members → Option Members
  | [], change, members => change members
  | name :: path, change, members =>
      match members.lookup name with
      | none => (within path change []).map fun inner => members ++ [(name, .table .implied inner)]
      | some (.table .inline _) => none
      | some (.table origin inner) =>
          (within path change inner).map fun inner => members.set name (.table origin inner)
      | some (.array true items) =>
          match items.getLast? with
          | some (.table origin inner) =>
              (within path change inner).map fun inner =>
                members.set name (.array true (items.dropLast ++ [.table origin inner]))
          | _ => none
      | some _ => none

/-- Adds a value under a dotted key. The tables on the way must not have headers of their own, and
the last of them must be one that dotted keys have made. -/
def add (key : String) (value : Value) : List String → Members → Option Members
  | [], members => if (members.lookup key).isSome then none else some (members ++ [(key, value)])
  | name :: path, members =>
      match members.lookup name with
      | none =>
          (add key value path []).map fun inner => members ++ [(name, .table .dotted inner)]
      | some (.table origin inner) =>
          if origin = .dotted ∨ (origin = .implied ∧ path ≠ []) then
            (add key value path inner).map fun inner => members.set name (.table origin inner)
          else none
      | some (.array true items) =>
          match items.getLast?, path with
          | some (.table origin inner), _ :: _ =>
              (add key value path inner).map fun inner =>
                members.set name (.array true (items.dropLast ++ [.table origin inner]))
          | _, _ => none
      | some _ => none

/-- Opens a table that has not been opened before. -/
def openTable (name : String) (members : Members) : Option Members :=
  match members.lookup name with
  | none => some (members ++ [(name, .table .declared [])])
  | some (.table .implied inner) => some (members.set name (.table .declared inner))
  | some _ => none

/-- Opens another table of an array of tables. -/
def openElement (name : String) (members : Members) : Option Members :=
  match members.lookup name with
  | none => some (members ++ [(name, .array true [.table .declared []])])
  | some (.array true items) =>
      some (members.set name (.array true (items ++ [.table .declared []])))
  | some _ => none

end Members

/-! ## Reading -/

namespace Reader

/-- Gives up unless `change` can be made. -/
def lift {α : Type} (result : Option α) : Reader α := fun cs => result.map (·, cs)

def isScalar (c : Char) : Bool :=
  c.isAlphanum || c = '+' || c = '-' || c = '_' || c = '.' || c = ':'

/-- A value without quotes; a date may be followed by a space and a time. -/
def scalar : Reader Value := do
  let word ← takeWhile isScalar
  let startsTime ← fun cs => some ((cs.drop 1).head?.any Char.isDigit && cs.head? = some ' ', cs)
  if skipDate? word = some [] ∧ startsTime then
    let _ ← next
    let time ← takeWhile isScalar
    lift (scalar? (word ++ ' ' :: time))
  else lift (scalar? word)

/-- The elements of an array up to its closing bracket. -/
def items (value : Reader Value) : Nat → List Value → Reader (List Value)
  | 0, _ => refuse
  | fuel + 1, done => do
      skipAll
      if ← accept "]" then return done.reverse
      let done := (← value) :: done
      skipAll
      if ← accept "," then items value fuel done
      else
        expect ']'
        return done.reverse

/-- A key, an equals sign and a value, to be added to a table. -/
def pair (value : Reader Value) : Reader (Members → Option Members) := do
  let (path, name) ← key
  skipSpace
  expect '='
  skipSpace
  return Members.add name (← value) path

/-- The pairs of a table in braces. -/
def pairs (value : Reader Value) : Nat → Members → Reader Members
  | 0, _ => refuse
  | fuel + 1, members => do
      skipAll
      if ← accept "\x7d" then return members
      let members ← lift ((← pair value) members)
      skipAll
      if ← accept "," then pairs value fuel members
      else
        expect '\x7d'
        return members

/-- A string or a value without quotes. -/
def plainValue : Reader Value := do
  match ← string? '"' with
  | some s => return .string s
  | none =>
      match ← string? '\'' with
      | some s => return .string s
      | none => scalar

/-- Any value; `depth` says how many arrays and tables may be inside each other. -/
def value : Nat → Reader Value
  | 0 => plainValue
  | depth + 1 => do
      if ← accept "[" then return .array false (← items (value depth) ((← remaining) + 1) [])
      else if ← accept "\x7b" then
        return .table .inline (← pairs (value depth) ((← remaining) + 1) [])
      else plainValue

/-- The deepest nesting of arrays and tables in braces. -/
def maxDepth : Nat := 80

/-- What has to follow a header or a pair: nothing more on the line. -/
def statementEnd : Reader Unit := do
  skipSpace
  skipComment
  if (← peek).isSome then let _ ← lineEnd

/-- The name in a header, up to its closing brackets. -/
def headerKey (close : String) : Reader (List String × String) := do
  skipSpace
  let name ← key
  skipSpace
  if ← accept close then return name else refuse

/-- The statements of a document; `opened` is the path to the table opened last. -/
def statements : Nat → List String → Members → Reader Members
  | 0, _, _ => refuse
  | fuel + 1, opened, members => do
      skipAll
      if (← peek).isNone then return members
      else if ← accept "[[" then
        let (path, name) ← headerKey "]]"
        statementEnd
        let members ← lift (members.within path (Members.openElement name))
        statements fuel (path ++ [name]) members
      else if ← accept "[" then
        let (path, name) ← headerKey "]"
        statementEnd
        let members ← lift (members.within path (Members.openTable name))
        statements fuel (path ++ [name]) members
      else
        let change ← pair (value maxDepth)
        statementEnd
        statements fuel opened (← lift (members.within opened change))

end Reader

/-- The table that a text describes; `none` if it is no document. A byte order mark in front is
skipped. -/
def parse? (text : String) : Option Members :=
  let cs := match text.toList with
    | '\ufeff' :: cs => cs
    | cs => cs
  (Reader.statements (cs.length + 1) [] [] cs).map Prod.fst

end TransitionMap.Toml
