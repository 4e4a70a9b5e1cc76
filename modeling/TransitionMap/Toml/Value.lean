import TransitionMap.Decimal.Binary64

/-!
# Values of TOML documents

A table remembers how it came to be, because that decides what may still be added to it: nothing to
a table in braces, dotted keys to a table that dotted keys made, a header to a table that only the
headers of its sub-tables have mentioned.
-/

namespace TransitionMap.Toml

inductive Origin
  /-- Written in braces. -/
  | inline
  /-- Mentioned in a dotted key. -/
  | dotted
  /-- Mentioned in the header of a table inside it. -/
  | implied
  /-- Opened by a header of its own. -/
  | declared
  deriving DecidableEq, Repr

/-- The absolute value of a decimal number, `digits * 10 ^ exponent` if it is finite. -/
inductive Decimal
  | finite (digits : Nat) (exponent : Int)
  | infinite
  | undefined
  deriving DecidableEq, Repr

inductive Value
  | string (s : String)
  | integer (i : Int)
  | decimal (d : Decimal)
  | boolean (b : Bool)
  /-- A date, a time of day or both. -/
  | moment
  /-- `ofTables` is set when headers in double brackets made the array. -/
  | array (ofTables : Bool) (items : List Value)
  | table (origin : Origin) (members : List (String × Value))
  deriving Repr

/-- Keys with their values, in the order of the document; no key comes twice. -/
abbrev Members := List (String × Value)

namespace Decimal

/-- Whether a finite number is too large to be rounded to a binary floating point number. Numbers
of at most 308 digits before the point are not, numbers of more than 309 are. -/
def isTooLarge : Decimal → Bool
  | finite digits exponent =>
      let places : Int := digits.repr.length + exponent
      if digits = 0 ∨ places ≤ 308 then false
      else if 309 < places then true
      else match exponent with
        | .ofNat e => (Binary64.ofRatio? (digits * Nat.pow 10 e) 1).isNone
        | .negSucc e => (Binary64.ofRatio? digits (Nat.pow 10 (e + 1))).isNone
  | _ => false

end Decimal

namespace Value

/-- Whether an integer can be held in so many bits, with or without a sign. -/
def integerFits (bits : Nat) : Int → Bool
  | .ofNat n => n < 1 <<< bits
  | .negSucc n => n < 1 <<< (bits - 1)

mutual

/-- Whether all integers in a value fit so many bits and no decimal is too large. -/
def fits (bits : Nat) : Value → Bool
  | integer i => integerFits bits i
  | decimal d => !d.isTooLarge
  | array _ items => allFit bits items
  | table _ members => membersFit bits members
  | _ => true

def allFit (bits : Nat) : List Value → Bool
  | [] => true
  | v :: rest => fits bits v && allFit bits rest

def membersFit (bits : Nat) : List (String × Value) → Bool
  | [] => true
  | (_, v) :: rest => fits bits v && membersFit bits rest

end

end Value

end TransitionMap.Toml
