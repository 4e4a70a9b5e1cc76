import TransitionMap.Json.Cursor

/-!
# Strings in JSON

A string is read up to its closing quote with its escapes replaced; characters beyond the first
65536 codes are escaped as two halves. Writing escapes quotes, backslashes and control characters
only.
-/

namespace TransitionMap.Json

namespace Reader

def hexDigit? (c : Char) : Option Nat :=
  if '0' ≤ c ∧ c ≤ '9' then some (c.toNat - 48)
  else if 'a' ≤ c ∧ c ≤ 'f' then some (c.toNat - 87)
  else if 'A' ≤ c ∧ c ≤ 'F' then some (c.toNat - 55)
  else none

/-- The four hexadecimal digits of an escape. Where four bytes are left but no four digits, the
place of the error is behind the four bytes. -/
def fourDigits : Reader Nat := fun c =>
  match c.rest with
  | a :: b :: d :: e :: rest =>
      match hexDigit? a, hexDigit? b, hexDigit? d, hexDigit? e with
      | some a, some b, some d, some e =>
          (.ok (((a * 16 + b) * 16 + d) * 16 + e), ⟨rest, c.offset + 4⟩)
      | _, _, _, _ => (.error ⟨.invalidEscape, some (c.offset + 4)⟩, c)
  | rest =>
      let size := (String.ofList rest).utf8ByteSize
      if 4 ≤ size then (.error ⟨.invalidEscape, some (c.offset + 4)⟩, c)
      else (.error ⟨.endOfString, some (c.offset + size)⟩, c)

/-- The next character of a string; the text must not end. -/
def charInString : Reader Char := do
  match ← peek with
  | some c =>
      advance
      return c
  | none => fail .endOfString

/-- The character behind a backslash; the text must not end. -/
def charOfEscape : Reader Char := do
  match ← next with
  | some c => return c
  | none => fail .endOfString

/-- Reads `mark`, which the second half of a character begins with. -/
def halfMark (mark : Char) : Reader Unit := do
  match ← peek with
  | none => fail .endOfString
  | some c => if c = mark then advance else failNext .unexpectedEndOfEscape

/-- A character given by its code in hexadecimal digits, in two halves if it needs them. -/
def codeEscape : Reader Char := do
  let n ← fourDigits
  if n < 0xd800 ∨ 0xdfff < n then return Char.ofNat n
  else if 0xdc00 ≤ n then fail .loneSurrogate
  else
    halfMark '\\'
    halfMark 'u'
    let low ← fourDigits
    if low < 0xdc00 ∨ 0xdfff < low then fail .loneSurrogate
    else return Char.ofNat ((n - 0xd800) * 0x400 + (low - 0xdc00) + 0x10000)

/-- The character of an escape behind its backslash. -/
def escaped : Reader Char := do
  match ← charOfEscape with
  | '"' => return '"'
  | '\\' => return '\\'
  | '/' => return '/'
  | 'b' => return '\x08'
  | 'f' => return '\x0c'
  | 'n' => return '\n'
  | 'r' => return '\x0d'
  | 't' => return '\t'
  | 'u' => codeEscape
  | _ => fail .invalidEscape

/-- The rest of a string; `done` holds its characters so far, last first. -/
def stringBody : Nat → List Char → Reader String
  | 0, _ => fail .endOfString
  | fuel + 1, done => do
      let c ← charInString
      if c = '"' then return String.ofList done.reverse
      else if c = '\\' then stringBody fuel ((← escaped) :: done)
      else if c.toNat < 0x20 then fail .controlCharacter
      else stringBody fuel (c :: done)

/-- A string, at its opening quote. -/
def string : Reader String := do
  advance
  stringBody ((← remaining) + 1) []

/-! ## Skipping -/

def skipEscaped : Reader Unit := do
  let c ← charOfEscape
  if c = 'u' then let _ ← fourDigits
  else if ['"', '\\', '/', 'b', 'f', 'n', 'r', 't'].contains c then return ()
  else fail .invalidEscape

/-- Skips the rest of a string. A control character is noticed in front of it. -/
def skipStringBody : Nat → Reader Unit
  | 0 => fail .endOfString
  | fuel + 1 => do
      match ← peek with
      | none => fail .endOfString
      | some c =>
          if c.toNat < 0x20 then fail .controlCharacter
          advance
          if c = '"' then return ()
          if c = '\\' then skipEscaped
          skipStringBody fuel

/-- Skips a string, at its opening quote. -/
def skipString : Reader Unit := do
  advance
  skipStringBody ((← remaining) + 1)

end Reader

/-! ## Writing -/

/-- A character inside a string. -/
def escapeChar (c : Char) : List Char :=
  if c = '"' then ['\\', '"']
  else if c = '\\' then ['\\', '\\']
  else if c = '\x08' then ['\\', 'b']
  else if c = '\x0c' then ['\\', 'f']
  else if c = '\n' then ['\\', 'n']
  else if c = '\x0d' then ['\\', 'r']
  else if c = '\t' then ['\\', 't']
  else if c.toNat < 0x20 then
    ['\\', 'u', '0', '0', Nat.digitChar (c.toNat / 16), Nat.digitChar (c.toNat % 16)]
  else [c]

def writeString (s : String) : List Char := '"' :: (s.toList.flatMap escapeChar ++ ['"'])

end TransitionMap.Json
