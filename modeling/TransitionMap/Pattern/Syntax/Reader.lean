import TransitionMap.Pattern.Syntax
import TransitionMap.Property
import TransitionMap.Text.Blank

/-!
# Reading patterns

`Syntax.parse?` reads the text of a pattern, and gives `none` when it is not well formed. In the
extended mode, switched by the flag `x`, blanks and comments between the parts of a pattern mean
nothing; the functions below take that mode as their argument `x`.
-/

namespace TransitionMap.Pattern

/-! ## Blanks and numbers -/

mutual

def skipBlanks : List Char → List Char
  | [] => []
  | c :: rest =>
      if isBlank c then skipBlanks rest else if c = '#' then skipComment rest else c :: rest

def skipComment : List Char → List Char
  | [] => []
  | c :: rest => if c = '\n' then skipBlanks rest else skipComment rest

end

/-- What follows once the blanks of the extended mode are skipped. -/
def skip (x : Bool) (cs : List Char) : List Char := if x then skipBlanks cs else cs

/-- The next character to be looked at behind the current one. A comment in the extended mode hides
nothing beyond its first character. -/
def peekSpace (x : Bool) (cs : List Char) : Option Char :=
  if x then go false cs cs else cs.head?
where
  go (inComment : Bool) (all : List Char) : List Char → Option Char
    | [] => all.head?
    | c :: rest =>
        if isBlank c then go inComment all rest
        else if !inComment && c = '#' then go true all rest
        else some c

def digitValue? (c : Char) : Option Nat :=
  if '0' ≤ c ∧ c ≤ '9' then some (c.toNat - 48) else none

def hexValue? (c : Char) : Option Nat :=
  if '0' ≤ c ∧ c ≤ '9' then some (c.toNat - 48)
  else if 'a' ≤ c ∧ c ≤ 'f' then some (c.toNat - 87)
  else if 'A' ≤ c ∧ c ≤ 'F' then some (c.toNat - 55)
  else none

/-- Digits in front, with blanks of the extended mode allowed behind each; `fuel` bounds their
number. -/
def readDigits (x : Bool) (acc : Nat) (any : Bool) : Nat → List Char → Option Nat × List Char
  | 0, cs => (if any then some acc else none, cs)
  | fuel + 1, cs =>
      match cs with
      | [] => (if any then some acc else none, [])
      | c :: rest =>
          match digitValue? c with
          | some d => readDigits x (acc * 10 + d) true fuel (skip x rest)
          | none => (if any then some acc else none, cs)

/-- A decimal number with blanks around it; `none` if there is no digit or if it does not fit 32
bits. -/
def readDecimal (x : Bool) (cs : List Char) : Option Nat × List Char :=
  let cs := cs.dropWhile isBlank
  let (value, rest) := readDigits x 0 false cs.length cs
  (value.filter (· < UInt32.size), rest.dropWhile isBlank)

/-! ## Escapes -/

/-- Characters that have a meaning of their own outside or inside classes. -/
def isMeta (c : Char) : Bool := "\\.+*?()|[]\x7b\x7d^$#&-~".toList.contains c

/-- Characters that stand for themselves after a backslash. -/
def isEscapable (c : Char) : Bool :=
  isMeta c || (c.toNat < 0x80 && !c.isAlphanum && c != '<' && c != '>')

/-- The character with a code, if it is one. -/
def charOfCode? (n : Nat) : Option Char :=
  if n < 0xd800 ∨ (0xdfff < n ∧ n < 0x110000) then some (Char.ofNat n) else none

/-- Exactly `count` hexadecimal digits. -/
def readHexDigits (x : Bool) (acc : Nat) : Nat → List Char → Option (Nat × List Char)
  | 0, cs => some (acc, cs)
  | count + 1, cs =>
      match cs with
      | [] => none
      | c :: rest => (hexValue? c).bind fun d => readHexDigits x (acc * 16 + d) count (skip x rest)

/-- Hexadecimal digits up to a closing brace; `any` says whether there was one. -/
def readHexBrace (x : Bool) (acc : Nat) (any : Bool) : Nat → List Char → Option (Nat × List Char)
  | 0, _ => none
  | fuel + 1, cs =>
      match cs with
      | [] => none
      | c :: rest =>
          if c = '\x7d' then if any then some (acc, skip x rest) else none
          else (hexValue? c).bind fun d => readHexBrace x (acc * 16 + d) true fuel (skip x rest)

/-- The rest of a hexadecimal escape behind its letter; without braces it has `digits` digits. -/
def readHex (x : Bool) (digits : Nat) (cs : List Char) : Option (LiteralChar × List Char) :=
  match skip x cs with
  | [] => none
  | '\x7b' :: rest => do
      let (n, rest) ← readHexBrace x 0 false (rest.length + 1) (skip x rest)
      let c ← charOfCode? n
      return (⟨c, false⟩, rest)
  | cs => do
      let (n, rest) ← readHexDigits x 0 digits cs
      let c ← charOfCode? n
      return (⟨c, digits == 2⟩, rest)

/-- The text up to a closing brace. -/
def readBraced (x : Bool) (acc : List Char) : Nat → List Char → Option (List Char × List Char)
  | 0, _ => none
  | fuel + 1, cs =>
      match cs with
      | [] => none
      | c :: rest =>
          if c = '\x7d' then some (acc.reverse, rest)
          else readBraced x (c :: acc) fuel (skip x rest)

/-- The rest of a property class behind its letter. -/
def readProperty (x : Bool) (cs : List Char) : Option (Property.Query × List Char) :=
  match skip x cs with
  | [] => none
  | '\x7b' :: rest => do
      let (text, rest) ← readBraced x [] (rest.length + 1) (skip x rest)
      return (.ofText text, rest)
  | '\\' :: _ => none
  | c :: rest => some (.name (String.ofList [c]), skip x rest)

def isEdgeChar (c : Char) : Bool := c.isAlpha || c = '-'

/-- A name of letters and hyphens, with blanks of the extended mode allowed behind each. -/
def readEdgeName (x : Bool) (acc : List Char) : Nat → List Char → List Char × List Char
  | 0, cs => (acc.reverse, cs)
  | fuel + 1, cs =>
      match cs with
      | [] => (acc.reverse, [])
      | c :: rest =>
          if isEdgeChar c then readEdgeName x (c :: acc) fuel (skip x rest) else (acc.reverse, cs)

/-- What follows `\b`: a kind of word boundary in braces, or a plain boundary. Braces that do not
start with a letter or a hyphen are left for a repetition. -/
def readWordEdge (x : Bool) (cs : List Char) : Option (WordEdge × List Char) :=
  match cs with
  | '\x7b' :: rest =>
      match skip x rest with
      | [] => none
      | c :: more =>
          if isEdgeChar c then
            match readEdgeName x [] (more.length + 1) (c :: more) with
            | (name, '\x7d' :: rest) =>
                match String.ofList name with
                | "start" => some (.start, rest)
                | "end" => some (.finish, rest)
                | "start-half" => some (.startHalf, rest)
                | "end-half" => some (.finishHalf, rest)
                | _ => none
            | _ => none
          else some (.boundary, cs)
  | _ => some (.boundary, cs)

/-- An item that is no operator: a character, a class or an anchor. -/
inductive Atom
  | literal (c : LiteralChar)
  | dot
  | anchor (mark : AnchorMark)
  | letter (kind : LetterClass) (negated : Bool)
  | property (query : Property.Query) (negated : Bool)

namespace Atom

def toSyntax : Atom → Syntax
  | literal c => .literal c
  | dot => .dot
  | anchor mark => .anchor mark
  | letter kind negated => .letter kind negated
  | property query negated => .property query negated

/-- As an item of a class; anchors cannot stand there. -/
def toClassSet? : Atom → Option ClassSet
  | literal c => some (.literal c)
  | letter kind negated => some (.letter kind negated)
  | property query negated => some (.property query negated)
  | dot | anchor _ => none

def literal? : Atom → Option LiteralChar
  | literal c => some c
  | _ => none

end Atom

/-- The rest of an escape behind the backslash. -/
def readEscape (x : Bool) : List Char → Option (Atom × List Char)
  | [] => none
  | c :: rest =>
      let plain (d : Char) : Option (Atom × List Char) := some (.literal ⟨d, false⟩, rest)
      let hex (digits : Nat) : Option (Atom × List Char) :=
        (readHex x digits rest).map fun (l, rest) => (.literal l, rest)
      let property (negated : Bool) : Option (Atom × List Char) :=
        (readProperty x rest).map fun (q, rest) => (.property q negated, rest)
      match c with
      | 'x' => hex 2
      | 'u' => hex 4
      | 'U' => hex 8
      | 'p' => property false
      | 'P' => property true
      | 'd' => some (.letter .digit false, rest)
      | 's' => some (.letter .space false, rest)
      | 'w' => some (.letter .word false, rest)
      | 'D' => some (.letter .digit true, rest)
      | 'S' => some (.letter .space true, rest)
      | 'W' => some (.letter .word true, rest)
      | 'a' => plain '\x07'
      | 'f' => plain '\x0c'
      | 't' => plain '\t'
      | 'n' => plain '\n'
      | 'r' => plain '\x0d'
      | 'v' => plain '\x0b'
      | 'A' => some (.anchor .textStart, rest)
      | 'z' => some (.anchor .textEnd, rest)
      | 'b' => (readWordEdge x rest).map fun (edge, rest) => (.anchor (.word edge), rest)
      | 'B' => some (.anchor (.word .inside), rest)
      | '<' => some (.anchor (.word .start), rest)
      | '>' => some (.anchor (.word .finish), rest)
      | _ => if isEscapable c then plain c else none

/-! ## Classes -/

def PosixClass.ofName? : String → Option PosixClass
  | "alnum" => some .alnum
  | "alpha" => some .alpha
  | "ascii" => some .ascii
  | "blank" => some .blank
  | "cntrl" => some .cntrl
  | "digit" => some .digit
  | "graph" => some .graph
  | "lower" => some .lower
  | "print" => some .print
  | "punct" => some .punct
  | "space" => some .space
  | "upper" => some .upper
  | "word" => some .word
  | "xdigit" => some .xdigit
  | _ => none

/-- A class written `[:name:]`, behind its opening bracket. -/
def readPosix? : List Char → Option (ClassSet × List Char)
  | ':' :: rest =>
      let (negated, rest) := match rest with
        | '^' :: rest => (true, rest)
        | rest => (false, rest)
      match rest.dropWhile (· != ':') with
      | ':' :: ']' :: after =>
          (PosixClass.ofName? (String.ofList (rest.takeWhile (· != ':')))).map fun kind =>
            (.posix kind negated, after)
      | _ => none
  | _ => none

/-- What is still open inside a class: a bracket with the items before it, or the left side of a set
operation. Items are kept last first. -/
inductive OpenClass
  | bracket (before : List ClassSet) (negated : Bool)
  | operation (op : SetOp) (left : ClassSet)

/-- Finishes the right side of a set operation, if one is open. -/
def closeOperation (stack : List OpenClass) (right : ClassSet) : ClassSet × List OpenClass :=
  match stack with
  | .operation op left :: stack => (.binary op left right, stack)
  | stack => (right, stack)

/-- Hyphens in front of a class stand for themselves. -/
def readHyphens (x : Bool) (items : List ClassSet) : Nat → List Char →
    Option (List ClassSet × List Char)
  | 0, cs => some (items, cs)
  | fuel + 1, cs =>
      match cs with
      | '-' :: rest =>
          match skip x rest with
          | [] => none
          | rest => readHyphens x (.literal ⟨'-', false⟩ :: items) fuel rest
      | cs => some (items, cs)

/-- The opening of a class behind its bracket: a caret that negates, and the hyphens or the closing
bracket that stand for themselves there. -/
def readOpening (x : Bool) (cs : List Char) : Option (Bool × List ClassSet × List Char) := do
  let cs := skip x cs
  let (negated, cs) ← match cs with
    | [] => none
    | '^' :: rest => some (true, skip x rest)
    | cs => some (false, cs)
  if cs.isEmpty then none
  let (items, cs) ← readHyphens x [] cs.length cs
  match items, cs with
  | [], ']' :: rest =>
      let rest := skip x rest
      if rest.isEmpty then none
      return (negated, [.literal ⟨']', false⟩], rest)
  | items, cs => return (negated, items, cs)

/-- A single character or an escape inside a class. -/
def readClassAtom (x : Bool) : List Char → Option (Atom × List Char)
  | [] => none
  | '\\' :: rest => readEscape x rest
  | c :: rest => some (.literal ⟨c, false⟩, rest)

/-- An item of a class, or a range of two. -/
def readClassItem (x : Bool) (cs : List Char) : Option (ClassSet × List Char) := do
  let (first, rest) ← readClassAtom x cs
  match skip x rest with
  | [] => none
  | '-' :: after =>
      if peekSpace x after = some ']' ∨ peekSpace x after = some '-' then
        return (← first.toClassSet?, '-' :: after)
      else
        let (last, rest) ← readClassAtom x (skip x after)
        let lo ← first.literal?
        let hi ← last.literal?
        if lo.char ≤ hi.char then return (.range lo hi, rest) else none
  | rest => return (← first.toClassSet?, rest)

/-- Reads a class with what is still open around the place; `items` are those of the innermost
bracket since its last set operation, last first. -/
def readClassFrom (x : Bool) : Nat → List OpenClass → List ClassSet → List Char →
    Option (Syntax × List Char)
  | 0, _, _, _ => none
  | fuel + 1, stack, items, cs =>
      let operation (op : SetOp) (rest : List Char) :=
        let (left, stack) := closeOperation stack (.ofItems items.reverse)
        readClassFrom x fuel (.operation op left :: stack) [] rest
      match skip x cs with
      | [] => none
      | '[' :: rest =>
          match (if stack.isEmpty then none else readPosix? rest) with
          | some (item, rest) => readClassFrom x fuel stack (item :: items) rest
          | none => do
              let (negated, opening, rest) ← readOpening x rest
              readClassFrom x fuel (.bracket items negated :: stack) opening rest
      | ']' :: rest =>
          match closeOperation stack (.ofItems items.reverse) with
          | (contents, .bracket before negated :: stack) =>
              if stack.isEmpty then some (.bracketed negated contents, rest)
              else readClassFrom x fuel stack (.bracketed negated contents :: before) rest
          | _ => none
      | '&' :: '&' :: rest => operation .intersection rest
      | '-' :: '-' :: rest => operation .difference rest
      | '~' :: '~' :: rest => operation .symmetricDifference rest
      | cs => do
          let (item, rest) ← readClassItem x cs
          readClassFrom x fuel stack (item :: items) rest

/-- A class, with its opening bracket still in front. -/
def readClass (x : Bool) (cs : List Char) : Option (Syntax × List Char) :=
  readClassFrom x (cs.length + 1) [] [] cs

/-! ## Groups -/

def Flag.ofLetter? : Char → Option Flag
  | 'i' => some .caseInsensitive
  | 'm' => some .multiLine
  | 's' => some .dotAll
  | 'U' => some .swapGreed
  | 'u' => some .unicode
  | 'R' => some .crlf
  | 'x' => some .ignoreWhitespace
  | _ => none

/-- Flags up to a colon or a closing parenthesis. A flag stands at most once and so does the hyphen,
which switches the flags behind it off; nothing stands without a flag behind it. -/
def readFlags (items : FlagItems) (negated dangling : Bool) : List Char →
    Option (FlagItems × List Char)
  | [] => none
  | c :: rest =>
      if c = ':' ∨ c = ')' then if dangling then none else some (items.reverse, c :: rest)
      else if c = '-' then if negated then none else readFlags items true true rest
      else match Flag.ofLetter? c with
        | none => none
        | some flag =>
            if items.any (·.1 == flag) then none
            else readFlags ((flag, !negated) :: items) negated false rest

/-- What the items say about a flag, if they name it. -/
def FlagItems.state? (items : FlagItems) (flag : Flag) : Option Bool := items.lookup flag

def isNameChar (isFirst : Bool) (c : Char) : Bool :=
  if isFirst then c = '_' || CharSet.isAlphabetic c
  else c = '_' || c = '.' || c = '[' || c = ']' || CharSet.isAlphanumeric c

/-- The name of a group up to its closing angle bracket. -/
def readName : List Char → Option (List Char × List Char)
  | cs =>
      match cs.span (· != '>') with
      | (c :: name, '>' :: rest) =>
          if isNameChar true c && name.all (isNameChar false) then some (c :: name, rest) else none
      | _ => none

/-- What an opening parenthesis begins. -/
inductive Opening
  | setFlags (items : FlagItems)
  | capturing (name : Option (List Char))
  | nonCapturing (items : FlagItems)

/-- Reads behind an opening parenthesis. Groups that look ahead or behind are not part of the
syntax. -/
def readGroup (x : Bool) (cs : List Char) : Option (Opening × List Char) :=
  match skip x cs with
  | '?' :: '=' :: _ | '?' :: '!' :: _ | '?' :: '<' :: '=' :: _ | '?' :: '<' :: '!' :: _ => none
  | '?' :: 'P' :: '<' :: rest | '?' :: '<' :: rest =>
      (readName rest).map fun (name, rest) => (.capturing (some name), rest)
  | '?' :: rest =>
      match readFlags [] false false rest with
      | some (items, ')' :: rest) => if items.isEmpty then none else some (.setFlags items, rest)
      | some (items, _ :: rest) => some (.nonCapturing items, rest)
      | _ => none
  | rest => some (.capturing none, rest)

/-! ## Repetitions -/

/-- A question mark that makes a repetition reluctant. -/
def readReluctant : List Char → Bool × List Char
  | '?' :: rest => (false, rest)
  | rest => (true, rest)

/-- The bounds of a counted repetition behind its opening brace, and what follows the closing
one. -/
def readCounts (x : Bool) (cs : List Char) : Option (Nat × Option Nat × List Char) :=
  match skip x cs with
  | [] => none
  | cs =>
      match readDecimal x cs with
      | (_, []) => none
      | (min, ',' :: rest) =>
          match skip x rest with
          | [] => none
          | '\x7d' :: rest => min.map fun min => (min, none, rest)
          | rest => do
              let min ← min
              match readDecimal x rest with
              | (some max, '\x7d' :: rest) => if min ≤ max then some (min, some max, rest) else none
              | _ => none
      | (some min, '\x7d' :: rest) => some (min, some min, rest)
      | _ => none

/-! ## Patterns -/

/-- A group that is still open: the items before it, its kind, the extended mode outside, and the
branches of the alternation around it. -/
structure OpenGroup where
  before : List Syntax
  branches : List Syntax
  kind : GroupKind
  extended : Bool

/-- The place inside a pattern: the branches before the current one and its items so far, both last
first, the open groups, and what has been seen of group numbers and names. -/
structure ReadState where
  extended : Bool := false
  branches : List Syntax := []
  items : List Syntax := []
  groups : List OpenGroup := []
  groupCount : Nat := 0
  names : List (List Char) := []

namespace ReadState

def push (s : ReadState) (item : Syntax) : ReadState := { s with items := item :: s.items }

/-- The pattern since the innermost open group. -/
def inner (s : ReadState) : Syntax :=
  .ofBranches ((.ofItems s.items.reverse :: s.branches).reverse)

def openGroup (s : ReadState) (kind : GroupKind) (extended : Bool) : ReadState :=
  { s with
    extended
    branches := []
    items := []
    groups := ⟨s.items, s.branches, kind, s.extended⟩ :: s.groups }

def begin? (s : ReadState) : Opening → Option ReadState
  | .setFlags items =>
      some { s.push (.flags items) with
        extended := (items.state? .ignoreWhitespace).getD s.extended }
  | .nonCapturing items =>
      some (s.openGroup (.flagged items) ((items.state? .ignoreWhitespace).getD s.extended))
  | .capturing name =>
      let s' := { s with groupCount := s.groupCount + 1, names := name.toList ++ s.names }
      if name.any s.names.contains then none
      else some (s'.openGroup (.capturing (s.groupCount + 1)) s.extended)

def closeGroup? (s : ReadState) : Option ReadState :=
  match s.groups with
  | [] => none
  | g :: groups =>
      some { s with
        extended := g.extended
        branches := g.branches
        items := .group g.kind s.inner :: g.before
        groups }

def alternate (s : ReadState) : ReadState :=
  { s with branches := .ofItems s.items.reverse :: s.branches, items := [] }

/-- Puts the last item under a repetition. -/
def repeat? (s : ReadState) (min : Nat) (max : Option Nat) (greedy : Bool) : Option ReadState :=
  match s.items with
  | [] => none
  | item :: items =>
      if item.isRepeatable then some { s with items := .repetition min max greedy item :: items }
      else none

end ReadState

/-- One part of a pattern, with no blanks in front of it. -/
def readPart (s : ReadState) : List Char → Option (ReadState × List Char)
  | [] => none
  | c :: rest =>
      let simple (min : Nat) (max : Option Nat) : Option (ReadState × List Char) := do
        let (greedy, rest) := readReluctant rest
        return (← s.repeat? min max greedy, rest)
      match c with
      | '(' => do
          let (opening, rest) ← readGroup s.extended rest
          return (← s.begin? opening, rest)
      | ')' => s.closeGroup?.map (·, rest)
      | '|' => some (s.alternate, rest)
      | '[' => (readClass s.extended (c :: rest)).map fun (item, rest) => (s.push item, rest)
      | '?' => simple 0 (some 1)
      | '*' => simple 0 none
      | '+' => simple 1 none
      | '\x7b' => do
          let (min, max, rest) ← readCounts s.extended rest
          let (greedy, rest) := match readReluctant (skip s.extended rest) with
            | (false, rest) => (false, rest)
            | (true, _) => (true, rest)
          return (← s.repeat? min max greedy, rest)
      | '\\' => (readEscape s.extended rest).map fun (atom, rest) => (s.push atom.toSyntax, rest)
      | '.' => some (s.push .dot, rest)
      | '^' => some (s.push (.anchor .lineStart), rest)
      | '$' => some (s.push (.anchor .lineEnd), rest)
      | c => some (s.push (.literal ⟨c, false⟩), rest)

/-- Reads parts to the end; each takes at least one character. -/
def readParts : Nat → ReadState → List Char → Option ReadState
  | 0, _, _ => none
  | fuel + 1, s, cs =>
      match skip s.extended cs with
      | [] => some s
      | cs => (readPart s cs).bind fun (s, rest) => readParts fuel s rest

/-- The syntax of a pattern, if its text is well formed and not nested too deeply. -/
def Syntax.parse? (text : String) : Option Syntax := do
  let cs := text.toList
  let s ← readParts (cs.length + 1) {} cs
  if !s.groups.isEmpty then none
  if s.inner.depth > Syntax.nestLimit then none
  return s.inner

end TransitionMap.Pattern
