import TransitionMap.Description
import TransitionMap.Json.Text

/-!
# Writing descriptions

The compact form of a description: no blanks, all fields in their order, those with default values
too.
-/

namespace TransitionMap

open Json

/-- Texts with commas between them. -/
def commaSeparated : List (List Char) → List Char
  | [] => []
  | [t] => t
  | t :: rest => t ++ ',' :: commaSeparated rest

def writeArray (items : List (List Char)) : List Char := '[' :: (commaSeparated items ++ [']'])

/-- An object, each field with its name. -/
def writeObject (fields : List (String × List Char)) : List Char :=
  '\x7b' :: (commaSeparated (fields.map fun (name, value) => writeString name ++ ':' :: value) ++
    ['\x7d'])

def SymbolText.write : SymbolText → List Char
  | byte b => b.toNat.repr.toList
  | text s => writeString s

def StateDescription.write (s : StateDescription) : List Char :=
  writeObject [
    ("name", writeString s.name),
    ("accepting", (if s.accepting then "true" else "false").toList),
    ("transitions",
      writeArray (s.transitions.map fun t => writeArray [t.1.write, writeString t.2]))]

def Description.write (d : Description) : List Char :=
  writeObject [
    ("start", writeString d.start),
    ("states", writeArray (d.states.map StateDescription.write))]

def Description.text (d : Description) : String := String.ofList d.write

end TransitionMap
