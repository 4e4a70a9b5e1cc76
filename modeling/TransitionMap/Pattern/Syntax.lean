import TransitionMap.Property

/-!
# The syntax of patterns

What a pattern says, before its flags are applied and its classes are looked up. Nesting counts one
level for each class, repetition, group, alternation, sequence and, inside a class, each list of two
or more items and each set operation.
-/

namespace TransitionMap.Pattern

/-- The letters that switch the reading of a pattern. -/
inductive Flag
  | caseInsensitive
  | multiLine
  | dotAll
  | swapGreed
  | unicode
  | crlf
  | ignoreWhitespace
  deriving DecidableEq, Repr

/-- Flags to switch on or off, in the order they are written. -/
abbrev FlagItems := List (Flag × Bool)

inductive WordEdge
  | boundary
  | inside
  | start
  | finish
  | startHalf
  | finishHalf
  deriving DecidableEq, Repr, Hashable

/-- Where an assertion looks, as it is written: `^`, `$`, `\A`, `\z` and the word boundaries. -/
inductive AnchorMark
  | lineStart
  | lineEnd
  | textStart
  | textEnd
  | word (edge : WordEdge)
  deriving DecidableEq, Repr

/-- The letter classes `\d`, `\s` and `\w`. -/
inductive LetterClass
  | digit
  | space
  | word
  deriving DecidableEq, Repr

/-- The classes written `[:name:]`. -/
inductive PosixClass
  | alnum | alpha | ascii | blank | cntrl | digit | graph | lower | print | punct | space | upper
  | word | xdigit
  deriving DecidableEq, Repr

inductive SetOp
  | intersection
  | difference
  | symmetricDifference
  deriving DecidableEq, Repr

/-- A character and whether it was written as `\x` with two digits. -/
structure LiteralChar where
  char : Char
  isByteEscape : Bool := false
  deriving DecidableEq, Repr

/-- The contents of a bracketed class. -/
inductive ClassSet
  | literal (c : LiteralChar)
  | range (first last : LiteralChar)
  | posix (kind : PosixClass) (negated : Bool)
  | letter (kind : LetterClass) (negated : Bool)
  | property (query : Property.Query) (negated : Bool)
  | bracketed (negated : Bool) (contents : ClassSet)
  | union (items : List ClassSet)
  | binary (op : SetOp) (left right : ClassSet)
  deriving Repr

inductive GroupKind
  | capturing (index : Nat)
  | flagged (items : FlagItems)
  deriving DecidableEq, Repr

inductive Syntax
  | empty
  | flags (items : FlagItems)
  | literal (c : LiteralChar)
  | dot
  | anchor (mark : AnchorMark)
  | letter (kind : LetterClass) (negated : Bool)
  | property (query : Property.Query) (negated : Bool)
  | bracketed (negated : Bool) (contents : ClassSet)
  | repetition (min : Nat) (max : Option Nat) (greedy : Bool) (sub : Syntax)
  | group (kind : GroupKind) (sub : Syntax)
  | concat (items : List Syntax)
  | alternation (branches : List Syntax)
  deriving Repr

namespace ClassSet

/-- The items of a class as one set: a list of one item is that item. -/
def ofItems : List ClassSet → ClassSet
  | [item] => item
  | items => union items

mutual

def depth : ClassSet → Nat
  | bracketed _ contents => depth contents + 1
  | union [] => 0
  | union (item :: items) => max (depth item) (maxDepth items) + 1
  | binary _ left right => max (depth left) (depth right) + 1
  | _ => 0

def maxDepth : List ClassSet → Nat
  | [] => 0
  | item :: items => max (depth item) (maxDepth items)

end

end ClassSet

namespace Syntax

def ofItems : List Syntax → Syntax
  | [] => empty
  | [item] => item
  | items => concat items

def ofBranches : List Syntax → Syntax
  | [branch] => branch
  | branches => alternation branches

mutual

def depth : Syntax → Nat
  | bracketed _ contents => contents.depth + 1
  | repetition _ _ _ sub => depth sub + 1
  | group _ sub => depth sub + 1
  | concat items => maxDepth items + 1
  | alternation branches => maxDepth branches + 1
  | _ => 0

def maxDepth : List Syntax → Nat
  | [] => 0
  | item :: items => max (depth item) (maxDepth items)

end

/-- The deepest nesting that is accepted. -/
def nestLimit : Nat := 250

/-- Whether a repetition operator may follow. -/
def isRepeatable : Syntax → Bool
  | empty | flags _ => false
  | _ => true

end Syntax

end TransitionMap.Pattern
