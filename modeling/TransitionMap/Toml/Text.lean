import TransitionMap.Toml.Scalar

/-!
# Texts and keys in TOML

Strings stand between quotes or apostrophes, over several lines between three of them. Only the
tab, of all control characters, may stand in them as it is, and line ends in those of several lines.
-/

namespace TransitionMap.Toml

/-- Reads from the front of a text; `none` where the text is wrong. -/
abbrev Reader (α : Type) := StateT (List Char) Option α

namespace Reader

def peek : Reader (Option Char) := fun cs => some (cs.head?, cs)

def next : Reader Char
  | c :: cs => some (c, cs)
  | [] => none

def refuse {α : Type} : Reader α := fun _ => none

def expect (c : Char) : Reader Unit := fun cs => (after? c cs).map ((), ·)

/-- Passes a word if the text goes on with it. -/
def accept (word : String) : Reader Bool := fun cs =>
  some (if word.toList.isPrefixOf cs then (true, cs.drop word.length) else (false, cs))

def takeWhile (p : Char → Bool) : Reader (List Char) := fun cs =>
  some (cs.takeWhile p, cs.dropWhile p)

/-- The number of characters to come, which bounds every loop. -/
def remaining : Reader Nat := fun cs => some (cs.length, cs)

/-! ## Between the words -/

def isSpace (c : Char) : Bool := c = ' ' || c = '\t'

/-- Characters that may stand in comments and strings as they are. -/
def isPlain (c : Char) : Bool := c = '\t' || (0x20 ≤ c.toNat && c.toNat ≠ 0x7f)

def skipSpace : Reader Unit := do let _ ← takeWhile isSpace

/-- A line feed, with a carriage return in front of it or not. -/
def lineEnd : Reader (List Char) := do
  match ← next with
  | '\n' => return ['\n']
  | '\x0d' =>
      expect '\n'
      return ['\x0d', '\n']
  | _ => refuse

def atLineEnd : Reader Bool := do return (← peek) = some '\n' || (← peek) = some '\x0d'

def skipComment : Reader Unit := do
  if (← peek) = some '#' then let _ ← takeWhile isPlain

/-- Passes spaces, comments and line ends. -/
def skipLines : Nat → Reader Unit
  | 0 => return ()
  | fuel + 1 => do
      skipSpace
      skipComment
      if ← atLineEnd then
        let _ ← lineEnd
        skipLines fuel

def skipAll : Reader Unit := do skipLines (← remaining)

/-! ## Strings -/

/-- The character with a code of `count` hexadecimal digits; `n` is the code so far. -/
def codeEscape : Nat → Nat → Reader Char
  | 0, n => if n.isValidChar then return Char.ofNat n else refuse
  | count + 1, n => do
      match digit? 16 (← next) with
      | some d => codeEscape count (n * 16 + d)
      | none => refuse

/-- The character of an escape behind its backslash. -/
def escape : Reader Char := do
  match ← next with
  | 'b' => return '\x08'
  | 't' => return '\t'
  | 'n' => return '\n'
  | 'f' => return '\x0c'
  | 'r' => return '\x0d'
  | 'e' => return '\x1b'
  | '"' => return '"'
  | '\\' => return '\\'
  | 'x' => codeEscape 2 0
  | 'u' => codeEscape 4 0
  | 'U' => codeEscape 8 0
  | _ => refuse

/-- The rest of a string on one line up to `quote`; `done` holds its characters so far, last first.
Escapes are replaced between quotes, not between apostrophes. -/
def line (quote : Char) : Nat → List Char → Reader String
  | 0, _ => refuse
  | fuel + 1, done => do
      let c ← next
      if c = quote then return String.ofList done.reverse
      else if c = '\\' ∧ quote = '"' then line quote fuel ((← escape) :: done)
      else if isPlain c then line quote fuel (c :: done)
      else refuse

/-- What ends a string of several lines: three quotes, in front of which one or two more belong to
the string. Otherwise gives `none` and the quotes, fewer than three. -/
def closing (quote : Char) : Reader (Bool × List Char) := do
  let quotes ← takeWhile (· = quote)
  if quotes.length < 3 then return (false, quotes)
  else if quotes.length ≤ 5 then return (true, quotes.drop 3)
  else refuse

/-- The rest of a string of several lines. A backslash at the end of a line joins the lines and
drops the blanks between them. -/
def lines (quote : Char) : Nat → List Char → Reader String
  | 0, _ => refuse
  | fuel + 1, done => do
      match ← peek with
      | none => refuse
      | some c =>
          if c = quote then
            let (ends, quotes) ← closing quote
            if ends then return String.ofList (quotes ++ done).reverse
            else lines quote fuel (quotes ++ done)
          else if c = '\\' ∧ quote = '"' then
            expect '\\'
            if (← atLineEnd) || (← peek).any isSpace then
              skipSpace
              let _ ← lineEnd
              skipJoined (← remaining)
              lines quote fuel done
            else lines quote fuel ((← escape) :: done)
          else if ← atLineEnd then lines quote fuel ((← lineEnd).reverse ++ done)
          else if isPlain c then
            let _ ← next
            lines quote fuel (c :: done)
          else refuse
where
  skipJoined : Nat → Reader Unit
    | 0 => return ()
    | fuel + 1 => do
        skipSpace
        if ← atLineEnd then
          let _ ← lineEnd
          skipJoined fuel

/-- A string on one line, if one begins here. -/
def shortString? (quote : Char) : Reader (Option String) := do
  if ← accept (String.ofList [quote]) then return some (← line quote ((← remaining) + 1) [])
  else return none

/-- A string, if one begins here; a line end right behind three opening quotes is no part of it. -/
def string? (quote : Char) : Reader (Option String) := do
  if ← accept (String.ofList [quote, quote, quote]) then
    if ← atLineEnd then let _ ← lineEnd
    return some (← lines quote ((← remaining) + 1) [])
  else shortString? quote

/-! ## Keys -/

def isBare (c : Char) : Bool := c.isAlphanum || c = '-' || c = '_'

def simpleKey : Reader String := do
  match ← shortString? '"' with
  | some s => return s
  | none =>
      match ← shortString? '\'' with
      | some s => return s
      | none =>
          let name ← takeWhile isBare
          if name.isEmpty then refuse else return String.ofList name

/-- More names behind a first one, each after a point. -/
def dottedNames : Nat → List String → Reader (List String)
  | 0, done => return done
  | fuel + 1, done => do
      skipSpace
      if ← accept "." then
        skipSpace
        dottedNames fuel ((← simpleKey) :: done)
      else return done

/-- A dotted key: the names of the tables on the way, and the last name. -/
def key : Reader (List String × String) := do
  let first ← simpleKey
  match ← dottedNames (← remaining) [first] with
  | last :: path => return (path.reverse, last)
  | [] => refuse

end Reader

end TransitionMap.Toml
