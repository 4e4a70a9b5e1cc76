/-!
# Binary floating point numbers

Non-negative numbers of 53 significant bits with exponents from -1074 to 971, and their operations:
the exact result, rounded to the nearest such number, a tie going to the one with an even
significand.
-/

namespace TransitionMap

/-- The number `significand * 2 ^ exponent`. -/
structure Binary64 where
  significand : Nat
  exponent : Int
  deriving DecidableEq, Repr

namespace Binary64

def zero : Binary64 := ⟨0, 0⟩

/-- Numerator and denominator. -/
def ratio (x : Binary64) : Nat × Nat :=
  match x.exponent with
  | .ofNat e => (x.significand <<< e, 1)
  | .negSucc e => (x.significand, 1 <<< (e + 1))

/-- The quotient of `num * 2 ^ (-e)` by `den`: quotient, remainder and divisor. -/
def scaled (num den : Nat) (e : Int) : Nat × Nat × Nat :=
  let (n, d) := match e with
    | .ofNat e => (num, den <<< e)
    | .negSucc e => (num <<< (e + 1), den)
  (n / d, n % d, d)

/-- The quotient rounded to the nearest number, a tie to the even one. -/
def roundDiv (quotient remainder divisor : Nat) : Nat :=
  if 2 * remainder < divisor then quotient
  else if divisor < 2 * remainder then quotient + 1
  else quotient + quotient % 2

/-- The exponent at which a positive ratio has 53 bits before the point, but not below -1074. -/
def exponentOf (num den : Nat) : Int :=
  let guess : Int := (num.log2 : Int) - (den.log2 : Int) - 52
  let (q, _, _) := scaled num den guess
  max (if q < 1 <<< 52 then guess - 1 else guess) (-1074)

/-- The number nearest to a ratio; `none` if it is too large. -/
def ofRatio? (num den : Nat) : Option Binary64 :=
  if num = 0 then some zero
  else
    let e := exponentOf num den
    let (q, r, d) := scaled num den e
    let m := roundDiv q r d
    let x : Binary64 := if m = 1 <<< 53 then ⟨1 <<< 52, e + 1⟩ else ⟨m, e⟩
    if 971 < x.exponent then none else some x

def mul? (x y : Binary64) : Option Binary64 :=
  let (n, d) := x.ratio
  let (n', d') := y.ratio
  ofRatio? (n * n') (d * d')

def div? (x y : Binary64) : Option Binary64 :=
  let (n, d) := x.ratio
  let (n', d') := y.ratio
  ofRatio? (n * d') (d * n')

/-- Multiplies by a power of ten in steps of at most 308, each rounded; `none` if the result is too
large. -/
def timesPowerOfTen? (x : Binary64) (e : Int) : Nat → Option Binary64
  | 0 => some x
  | fuel + 1 =>
      if x.significand = 0 then some x
      else if e.natAbs ≤ 308 then do
        let p ← ofRatio? (Nat.pow 10 e.natAbs) 1
        if 0 ≤ e then mul? x p else div? x p
      else if 0 < e then none
      else do
        let p ← ofRatio? (Nat.pow 10 308) 1
        timesPowerOfTen? (← div? x p) (e + 308) fuel

/-- The number of a decimal significand and exponent. Three steps of 308 take any significand of 64
bits to zero. -/
def ofDecimal? (significand : Nat) (e : Int) : Option Binary64 := do
  timesPowerOfTen? (← ofRatio? significand 1) e 5

end Binary64

end TransitionMap
