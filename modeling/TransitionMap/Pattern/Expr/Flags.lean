import TransitionMap.Pattern.Expr
import TransitionMap.Property

/-!
# From syntax to expressions

Flags decide what the parts of a pattern mean. A flag that is set inside a group holds to the end
of the group, through all its later branches. Without the flag `u`, classes and escapes stand for
ASCII characters only, and what could match a byte beyond ASCII is refused.
-/

namespace TransitionMap.Pattern

structure Flags where
  caseInsensitive : Bool := false
  multiLine : Bool := false
  dotAll : Bool := false
  swapGreed : Bool := false
  unicode : Bool := true
  crlf : Bool := false
  deriving DecidableEq, Repr

namespace Flags

def set (f : Flags) (item : Flag × Bool) : Flags :=
  match item.1 with
  | .caseInsensitive => { f with caseInsensitive := item.2 }
  | .multiLine => { f with multiLine := item.2 }
  | .dotAll => { f with dotAll := item.2 }
  | .swapGreed => { f with swapGreed := item.2 }
  | .unicode => { f with unicode := item.2 }
  | .crlf => { f with crlf := item.2 }
  | .ignoreWhitespace => f

def apply (f : Flags) (items : FlagItems) : Flags := items.foldl set f

end Flags

/-! ## Classes -/

namespace PosixClass

def chars : PosixClass → CharSet
  | alnum => [(0x30, 0x39), (0x41, 0x5a), (0x61, 0x7a)]
  | alpha => [(0x41, 0x5a), (0x61, 0x7a)]
  | ascii => [(0, 0x7f)]
  | blank => [(0x09, 0x09), (0x20, 0x20)]
  | cntrl => [(0, 0x1f), (0x7f, 0x7f)]
  | digit => [(0x30, 0x39)]
  | graph => [(0x21, 0x7e)]
  | lower => [(0x61, 0x7a)]
  | print => [(0x20, 0x7e)]
  | punct => [(0x21, 0x2f), (0x3a, 0x40), (0x5b, 0x60), (0x7b, 0x7e)]
  | space => [(0x09, 0x0d), (0x20, 0x20)]
  | upper => [(0x41, 0x5a)]
  | word => [(0x30, 0x39), (0x41, 0x5a), (0x5f, 0x5f), (0x61, 0x7a)]
  | xdigit => [(0x30, 0x39), (0x41, 0x46), (0x61, 0x66)]

end PosixClass

namespace LetterClass

def unicodeChars : LetterClass → CharSet
  | digit => Property.digits
  | space => Property.spaces
  | word => Property.wordCharacters

def asciiChars : LetterClass → CharSet
  | digit => PosixClass.chars .digit
  | space => PosixClass.chars .space
  | word => PosixClass.chars .word

end LetterClass

namespace Flags

/-- Applies case folding, if it is switched on. -/
def fold (f : Flags) (s : CharSet) : CharSet :=
  if f.caseInsensitive then if f.unicode then s.foldCase else s.foldAsciiCase else s

/-- Complements a set. Without `u` the complement holds bytes beyond ASCII and is refused. -/
def negate? (f : Flags) (negated : Bool) (s : CharSet) : Option CharSet :=
  if negated then if f.unicode then some s.complement else none else some s

/-- The code of a character inside a class. -/
def classCode? (f : Flags) (c : LiteralChar) : Option Nat :=
  if f.unicode || c.char.toNat < 0x80 then some c.char.toNat else none

def letter? (f : Flags) (kind : LetterClass) (negated : Bool) : Option CharSet :=
  f.negate? negated (if f.unicode then kind.unicodeChars else kind.asciiChars)

def property? (f : Flags) (query : Property.Query) (negated : Bool) : Option CharSet :=
  if f.unicode then (Property.lookup? query).bind fun s => f.negate? negated (f.fold s) else none

def posix? (f : Flags) (kind : PosixClass) (negated : Bool) : Option CharSet :=
  f.negate? negated (if f.unicode then f.fold kind.chars else kind.chars)

end Flags

def SetOp.apply : SetOp → CharSet → CharSet → CharSet
  | .intersection => CharSet.inter
  | .difference => CharSet.diff
  | .symmetricDifference => CharSet.symmDiff

namespace ClassSet

mutual

/-- The characters of a class. -/
def chars? (f : Flags) : ClassSet → Option CharSet
  | literal c => (f.classCode? c).map fun n => [(n, n)]
  | range first last => do
      return CharSet.range (← f.classCode? first) (← f.classCode? last)
  | posix kind negated => f.posix? kind negated
  | letter kind negated => f.letter? kind negated
  | property query negated => f.property? query negated
  | bracketed negated contents =>
      (chars? f contents).bind fun s => f.negate? negated (f.fold s)
  | union items => (charsOfAll? f items).map CharSet.normalize
  | binary op left right => do
      return op.apply (f.fold (← chars? f left)) (f.fold (← chars? f right))

/-- The ranges of several classes one after the other. -/
def charsOfAll? (f : Flags) : List ClassSet → Option CharSet
  | [] => some []
  | item :: items => do return (← chars? f item) ++ (← charsOfAll? f items)

end

end ClassSet

/-! ## Patterns -/

namespace Flags

/-- A single character of the pattern. Without `u`, a byte escape beyond ASCII is refused. -/
def literal? (f : Flags) (c : LiteralChar) : Option CharSet :=
  if !f.unicode && c.isByteEscape && 0x80 ≤ c.char.toNat then none
  else some (f.fold (CharSet.singleton c.char))

/-- Any character, but for line ends unless `s` is set. -/
def dot? (f : Flags) : Option CharSet :=
  if !f.unicode then none
  else if f.dotAll then some CharSet.full
  else if f.crlf then some (CharSet.complement [(0x0a, 0x0a), (0x0d, 0x0d)])
  else some (CharSet.complement [(0x0a, 0x0a)])

def anchor (f : Flags) : AnchorMark → Assertion
  | .lineStart => if f.multiLine then .lineStart f.crlf else .textStart
  | .lineEnd => if f.multiLine then .lineEnd f.crlf else .textEnd
  | .textStart => .textStart
  | .textEnd => .textEnd
  | .word edge => .word f.unicode edge

end Flags

namespace Syntax

mutual

/-- The expression of a pattern and the flags behind it. -/
def expr? (f : Flags) : Syntax → Option (Expr × Flags)
  | empty => some (.empty, f)
  | flags items => some (.empty, f.apply items)
  | literal c => (f.literal? c).map fun s => (.ofSet s, f)
  | dot => f.dot?.map fun s => (.chars s, f)
  | anchor mark => some (.assert (f.anchor mark), f)
  | letter kind negated => (f.letter? kind negated).map fun s => (.ofSet s, f)
  | property query negated => (f.property? query negated).map fun s => (.ofSet s, f)
  | bracketed negated contents =>
      (ClassSet.chars? f (.bracketed negated contents)).map fun s => (.ofSet s, f)
  | repetition min max greedy sub =>
      (expr? f sub).map fun (e, f) => (.repetition min max (greedy != f.swapGreed) e, f)
  | group (.capturing index) sub => (expr? f sub).map fun (e, _) => (.capture index e, f)
  | group (.flagged items) sub => (expr? (f.apply items) sub).map fun (e, _) => (e, f)
  | concat items => (exprs? f items).map fun (es, f) => (.concat es, f)
  | alternation branches => (exprs? f branches).map fun (es, f) => (.alternate es, f)

/-- The expressions of several patterns one after the other, the flags of each holding for the
next. -/
def exprs? (f : Flags) : List Syntax → Option (List Expr × Flags)
  | [] => some ([], f)
  | item :: items => do
      let (e, f) ← expr? f item
      let (es, f) ← exprs? f items
      return (e :: es, f)

end

end Syntax

end TransitionMap.Pattern
