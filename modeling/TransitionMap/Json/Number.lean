import TransitionMap.Json.Cursor

/-!
# Numbers in JSON

An integer of 64 bits, without or with a sign, is kept as it is; any other number, `-0` included, is
rounded to a binary floating point number, from at most 64 bits of its digits.
-/

namespace TransitionMap.Json

inductive Number
  | natural (n : Nat)
  /-- The negative integer `-n`. -/
  | negative (n : Nat)
  | float (minus : Bool) (x : Binary64)
  deriving DecidableEq, Repr

def Number.found : Number → Found
  | .natural n => .integer n
  | .negative n => .integer (-(n : Int))
  | .float minus x => .float minus x

namespace Reader

def digit? (c : Char) : Option Nat := if '0' ≤ c ∧ c ≤ '9' then some (c.toNat - 48) else none

/-- The digit that comes next, if one does. -/
def peekDigit : Reader (Option Nat) := do return (← peek).bind digit?

/-- Whether a number goes on with an exponent. -/
def peekExponent : Reader Bool := do
  match ← peek with
  | some c => return c = 'e' || c = 'E'
  | none => return false

/-- Skips digits and counts them. -/
def skipDigits : Nat → Nat → Reader Nat
  | 0, count => return count
  | fuel + 1, count => do
      match ← peekDigit with
      | some _ =>
          advance
          skipDigits fuel (count + 1)
      | none => return count

/-- Reads digits behind a number while it fits 64 bits; gives the number and how many were read. -/
def digits64 : Nat → Nat → Nat → Reader (Nat × Nat)
  | 0, n, count => return (n, count)
  | fuel + 1, n, count => do
      match ← peekDigit with
      | none => return (n, count)
      | some d =>
          if n * 10 + d < UInt64.size then
            advance
            digits64 fuel (n * 10 + d) (count + 1)
          else return (n, count)

def float (negative : Bool) (significand : Nat) (e : Int) : Reader Number :=
  match Binary64.ofDecimal? significand e with
  | some x => return .float negative x
  | none => fail .numberOutOfRange

/-- Reads digits of an exponent while it fits 31 bits; `none` if it does not. -/
def exponentDigits : Nat → Nat → Reader (Option Nat)
  | 0, n => return some n
  | fuel + 1, n => do
      match ← peekDigit with
      | none => return some n
      | some d =>
          advance
          if n * 10 + d < 1 <<< 31 then exponentDigits fuel (n * 10 + d) else return none

/-- An exponent behind a significand with a decimal exponent of its own. -/
def exponent (negative : Bool) (significand : Nat) (e : Int) : Reader Number := do
  advance
  let down ← match ← peek with
    | some '+' => advance; pure false
    | some '-' => advance; pure true
    | _ => pure false
  match ← next with
  | none => fail .endOfValue
  | some c =>
      match digit? c with
      | none => fail .invalidNumber
      | some d =>
          match ← exponentDigits (← remaining) d with
          | some n => float negative significand (if down then e - n else e + n)
          | none =>
              if significand ≠ 0 ∧ !down then fail .numberOutOfRange
              else
                let _ ← skipDigits (← remaining) 0
                return .float negative .zero

/-- What follows the digits of a significand: an exponent or nothing. -/
def afterDigits (negative : Bool) (significand : Nat) (e : Int) : Reader Number := do
  if ← peekExponent then exponent negative significand e else float negative significand e

/-- The digits behind a point. -/
def fraction (negative : Bool) (significand : Nat) (e : Int) : Reader Number := do
  advance
  let (n, count) ← digits64 (← remaining) significand 0
  let dropped ← skipDigits (← remaining) 0
  if count + dropped = 0 then
    failNext (if (← peek).isSome then .invalidNumber else .endOfValue)
  else afterDigits negative n (e - count)

/-- A number whose integer part has been read to `significand * 10 ^ e`. -/
def afterInteger (negative : Bool) (significand : Nat) (e : Int) : Reader Number := do
  if (← peek) = some '.' then fraction negative significand e
  else if (← peekExponent) || 0 < e then afterDigits negative significand e
  else if !negative then return .natural significand
  else if 0 < significand ∧ significand ≤ 1 <<< 63 then return .negative significand
  else float true significand 0

/-- A number behind its sign. -/
def number (negative : Bool) : Reader Number := do
  match ← next with
  | none => fail .endOfValue
  | some c =>
      match digit? c with
      | none => fail .invalidNumber
      | some 0 =>
          if (← peekDigit).isSome then failNext .invalidNumber else afterInteger negative 0 0
      | some d =>
          let (n, _) ← digits64 (← remaining) d 0
          let dropped ← skipDigits (← remaining) 0
          afterInteger negative n dropped

/-! ## Skipping -/

def skipExponent : Reader Unit := do
  advance
  match ← peek with
  | some '+' | some '-' => advance
  | _ => pure ()
  match (← next).bind digit? with
  | none => fail .invalidNumber
  | some _ => let _ ← skipDigits (← remaining) 0

/-- Skips a number behind its sign. -/
def skipNumber : Reader Unit := do
  match (← next).bind digit? with
  | none => fail .invalidNumber
  | some 0 => if (← peekDigit).isSome then failNext .invalidNumber
  | some _ => let _ ← skipDigits (← remaining) 0
  if (← peek) = some '.' then
    advance
    if (← skipDigits (← remaining) 0) = 0 then failNext .invalidNumber
  if ← peekExponent then skipExponent

end Reader

end TransitionMap.Json
