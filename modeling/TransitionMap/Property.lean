import TransitionMap.CharSet
import TransitionMap.Property.Age
import TransitionMap.Property.Binary
import TransitionMap.Property.Category
import TransitionMap.Property.Fold
import TransitionMap.Property.Name
import TransitionMap.Property.Script

/-!
# Classes of characters by property

The tables hold ranges as text; here they are read, joined by the rules that define one property by
others, and looked up by name.
-/

namespace TransitionMap

namespace Property

/-- Adds a hexadecimal digit to a number; other characters count as zero. -/
def addDigit (n : Nat) (c : Char) : Nat :=
  n * 16 + (if 'a' ≤ c then c.toNat - 87 else c.toNat - 48)

/-- Puts the range from `first` to `last` in front, `last` alone being a range of one. -/
def closeRange (done : CharSet) (first last : Option Nat) : CharSet :=
  match last with
  | none => done
  | some hi => (first.getD hi, hi) :: done

def isSeparator (c : Char) : Bool := c = ' ' || c = '\n'

/-- Reads ranges such as `41-5a b5`. `first` is the lower end of a range whose upper end is being
read, `last` the number so far, and `done` the ranges read, last first. -/
def readRanges (done : CharSet) (first last : Option Nat) : List Char → CharSet
  | [] => (closeRange done first last).reverse
  | c :: rest =>
      if isSeparator c then readRanges (closeRange done first last) none none rest
      else if c = '-' then readRanges done last none rest
      else readRanges done first (some (addDigit (last.getD 0) c)) rest

def decode (text : String) : CharSet := readRanges [] none none text.toList

/-- The set that a table holds under a name; empty if it holds none. -/
def find (table : List (String × String)) (name : String) : CharSet :=
  decode ((table.lookup name).getD "")

def unionAll (sets : List CharSet) : CharSet := CharSet.normalize sets.flatten

/-! ## General categories -/

def categories (names : List String) : CharSet := unionAll (names.map (find categoryTable))

def assigned : CharSet := categories (categoryTable.map Prod.fst)

/-- A general category by its short name, or a group of them. -/
def category : String → CharSet
  | "L" => categories ["Lu", "Ll", "Lt", "Lm", "Lo"]
  | "LC" => categories ["Lu", "Ll", "Lt"]
  | "M" => categories ["Mn", "Mc", "Me"]
  | "N" => categories ["Nd", "Nl", "No"]
  | "P" => categories ["Pc", "Pd", "Ps", "Pe", "Pi", "Pf", "Po"]
  | "S" => categories ["Sm", "Sc", "Sk", "So"]
  | "Z" => categories ["Zs", "Zl", "Zp"]
  | "C" => CharSet.union (categories ["Cc", "Cf", "Co"]) (CharSet.complement assigned)
  | "Cn" => CharSet.complement assigned
  | name => find categoryTable name

/-! ## Properties by rule -/

def stored (name : String) : CharSet := find binaryTable name

def lowercase : CharSet := CharSet.union (category "Ll") (stored "Other_Lowercase")

def uppercase : CharSet := CharSet.union (category "Lu") (stored "Other_Uppercase")

def alphabetic : CharSet :=
  unionAll [lowercase, uppercase, categories ["Lt", "Lm", "Lo", "Nl"], stored "Other_Alphabetic"]

def graphemeExtend : CharSet :=
  CharSet.union (categories ["Me", "Mn"]) (stored "Other_Grapheme_Extend")

/-- What an identifier never holds. -/
def patternCharacters : CharSet :=
  CharSet.union (stored "Pattern_Syntax") (stored "Pattern_White_Space")

def idStart : CharSet :=
  CharSet.diff (unionAll [category "L", category "Nl", stored "Other_ID_Start"]) patternCharacters

def idContinue : CharSet :=
  CharSet.diff
    (unionAll [idStart, categories ["Mn", "Mc", "Nd", "Pc"], stored "Other_ID_Continue"])
    patternCharacters

def lowercased : CharSet :=
  CharSet.symmDiff (CharSet.union uppercase (category "Lt")) (stored "Lowercased_apart")

def uppercased : CharSet := CharSet.symmDiff (category "Ll") (stored "Uppercased_apart")

def titlecased : CharSet := CharSet.symmDiff uppercased (stored "Titlecased_apart")

/-- The characters that have a property, by its full name. -/
def binary : String → CharSet
  | "Alphabetic" => alphabetic
  | "Lowercase" => lowercase
  | "Uppercase" => uppercase
  | "Cased" => unionAll [lowercase, uppercase, category "Lt"]
  | "Case_Ignorable" =>
      CharSet.union (categories ["Mn", "Me", "Cf", "Lm", "Sk"]) (stored "Case_Ignorable_by_value")
  | "Math" => CharSet.union (category "Sm") (stored "Other_Math")
  | "Grapheme_Extend" => graphemeExtend
  | "Grapheme_Base" =>
      CharSet.complement
        (unionAll [category "Cn", categories ["Cc", "Cf", "Co", "Zl", "Zp"], graphemeExtend])
  | "ID_Start" => idStart
  | "ID_Continue" => idContinue
  | "XID_Start" => CharSet.diff idStart (stored "ID_Start_without_XID_Start")
  | "XID_Continue" => CharSet.diff idContinue (stored "ID_Continue_without_XID_Continue")
  | "Changes_When_Lowercased" => lowercased
  | "Changes_When_Uppercased" => uppercased
  | "Changes_When_Titlecased" => titlecased
  | "Changes_When_Casefolded" => CharSet.symmDiff lowercased (stored "Casefolded_apart")
  | "Changes_When_Casemapped" => unionAll [lowercased, uppercased, titlecased]
  | name => stored name

/-- The characters that were there in a version. -/
def age (version : String) : CharSet :=
  let upTo := ageTable.takeWhile (·.1 != version)
  unionAll (find ageTable version :: upTo.map fun row => decode row.2)

/-! ## Letter classes -/

def digits : CharSet := category "Nd"

def spaces : CharSet := stored "White_Space"

def wordCharacters : CharSet :=
  unionAll [alphabetic, category "M", category "Nd", category "Pc", stored "Join_Control"]

/-! ## Look-up -/

/-- A name without blanks, hyphens, underscores and characters beyond ASCII, in lower case and
without a leading `is`; `isc` keeps its three letters. -/
def looseName (name : String) : String :=
  let cs := name.toList
  let start := match cs with
    | i :: s :: _ => (i = 'i' || i = 'I') && (s = 's' || s = 'S')
    | _ => false
  let kept := (if start then cs.drop 2 else cs).filter fun c =>
    c != ' ' && c != '_' && c != '-' && c.toNat ≤ 0x7f
  let lower := kept.map Char.toLower
  String.ofList (if start && lower == ['c'] then ['i', 's', 'c'] else lower)

def categoryOf? (name : String) : Option CharSet :=
  match name with
  | "any" => some CharSet.full
  | "assigned" => some assigned
  | "ascii" => some [(0, 0x7f)]
  | _ => (categoryNames.lookup name).map category

def scriptOf? (name : String) : Option CharSet := (scriptNames.lookup name).map (find scriptTable)

def scriptExtensionOf? (name : String) : Option CharSet :=
  (scriptNames.lookup name).map fun script =>
    CharSet.symmDiff (find scriptTable script) (find scriptExtensionTable script)

/-- What a property class names: one name, or a property and its value. -/
inductive Query
  | name (name : String)
  | value (property value : String)
  deriving DecidableEq, Repr

/-- Splits a text in front of the first occurrence of `mark` and drops the mark. -/
def splitAt? (mark : List Char) : List Char → Option (List Char × List Char)
  | [] => none
  | c :: rest =>
      if mark.isPrefixOf (c :: rest) then some ([], (c :: rest).drop mark.length)
      else (splitAt? mark rest).map fun (before, after) => (c :: before, after)

/-- What the text of a property class asks for; the marks `!=`, `:` and `=` separate a property
from its value and mean the same. -/
def Query.ofText (text : List Char) : Query :=
  match (splitAt? ['!', '='] text).orElse fun _ => (splitAt? [':'] text).orElse fun _ =>
      splitAt? ['='] text with
  | some (left, right) => .value (String.ofList left) (String.ofList right)
  | none => .name (String.ofList text)

/-- A property by its name alone. The short names of three categories win over those of properties
that are no classes. -/
def byName? (name : String) : Option CharSet :=
  let asProperty := if name = "cf" || name = "sc" || name = "lc" then none
    else (binaryNames.lookup name).map binary
  asProperty.orElse fun _ => (categoryOf? name).orElse fun _ => scriptOf? name

def byValue? (property value : String) : Option CharSet :=
  match property with
  | "gc" | "generalcategory" => categoryOf? value
  | "sc" | "script" => scriptOf? value
  | "scx" | "scriptextensions" => scriptExtensionOf? value
  | "age" => (ageNames.lookup value).map age
  | _ => none

def lookup? : Query → Option CharSet
  | .name name => byName? (looseName name)
  | .value property value => byValue? (looseName property) (looseName value)

/-! ## Case folding -/

/-- Reads sets such as `4b,6b,212a 53,73`. `orbit` is the set so far and `last` the number so
far. -/
def readOrbits (done : List (List Nat)) (orbit : List Nat) (last : Option Nat) :
    List Char → List (List Nat)
  | [] => (if last.isSome then (last.toList ++ orbit) :: done else done).reverse
  | c :: rest =>
      if isSeparator c then
        readOrbits (if last.isSome then (last.toList ++ orbit) :: done else done) [] none rest
      else if c = ',' then readOrbits done (last.toList ++ orbit) none rest
      else readOrbits done orbit (some (addDigit (last.getD 0) c)) rest

/-- The sets of characters that differ in case only. -/
def orbits : List (List Nat) := readOrbits [] [] none foldText.toList

end Property

namespace CharSet

/-- Adds to a set what differs from its members in case only. -/
def foldCase (s : CharSet) : CharSet :=
  normalize (s ++ (Property.orbits.filter (·.any s.mem)).flatMap fun orbit =>
    orbit.map fun c => (c, c))

/-- Adds to a set of ASCII characters what differs from its members in case only, within ASCII. -/
def foldAsciiCase (s : CharSet) : CharSet :=
  let lower := overlap s [(0x41, 0x5a)]
  let upper := overlap s [(0x61, 0x7a)]
  normalize (s ++ lower.map (fun r => (r.1 + 32, r.2 + 32)) ++
    upper.map fun r => (r.1 - 32, r.2 - 32))

/-- Whether a character is a letter, judged by the property Alphabetic. -/
def isAlphabetic (c : Char) : Bool :=
  if c.toNat < 0x80 then c.isAlpha else Property.alphabetic.mem c.toNat

/-- Whether a character is a letter or a number of any kind. -/
def isAlphanumeric (c : Char) : Bool :=
  if c.toNat < 0x80 then c.isAlphanum
  else Property.alphabetic.mem c.toNat || (Property.category "N").mem c.toNat

end CharSet

end TransitionMap
