import TransitionMap.Decimal.Binary64

/-!
# Shortest decimals

The shortest decimal that rounds to a given number: of all decimals between the midpoints to its
neighbours, one with the fewest digits, and of those the nearest.
-/

namespace TransitionMap

/-- The number `digits * 10 ^ exponent`. -/
structure ShortDecimal where
  digits : Nat
  exponent : Int
  deriving DecidableEq, Repr

namespace Binary64

/-- Compares a decimal with a ratio. -/
def compareDecimal (digits : Nat) (e : Int) (num den : Nat) : Ordering :=
  match e with
  | .ofNat e => compare (digits * Nat.pow 10 e * den) num
  | .negSucc e => compare (digits * den) (num * Nat.pow 10 (e + 1))

/-- The midpoints to the neighbours below and above, as ratios over one denominator. -/
def midpoints (x : Binary64) : Nat × Nat × Nat :=
  let (n, d) := x.ratio
  let unit := match x.exponent with
    | .ofNat e => 1 <<< e
    | .negSucc _ => 1
  let below := if x.significand = 1 <<< 52 ∧ -1074 < x.exponent then unit else 2 * unit
  (4 * n - below, 4 * n + 2 * unit, 4 * d)

/-- Whether a decimal rounds to the number. The midpoints themselves round to an even
significand. -/
def roundsTo (x : Binary64) (digits : Nat) (e : Int) : Bool :=
  let (lo, hi, d) := x.midpoints
  let even := x.significand % 2 = 0
  (match compareDecimal digits e lo d with
    | .lt => false
    | .eq => even
    | .gt => true) &&
  (match compareDecimal digits e hi d with
    | .lt => true
    | .eq => even
    | .gt => false)

/-- The decimals with exponent `e` next to the number, and whether the upper one is nearer. -/
def neighbours (x : Binary64) (e : Int) : Nat × Nat × Bool :=
  let (n, d) := x.ratio
  let (n, d) := match e with
    | .ofNat e => (n, d * Nat.pow 10 e)
    | .negSucc e => (n * Nat.pow 10 (e + 1), d)
  let q := n / d
  (q, q + 1, d < 2 * (n % d) || (d = 2 * (n % d) && q % 2 = 1))

/-- The first grid, from coarse to fine, with a decimal that rounds to the number. -/
def shortestFrom (x : Binary64) : Nat → Int → ShortDecimal
  | 0, e => ⟨(x.neighbours e).1, e⟩
  | fuel + 1, e =>
      let (lower, upper, nearer) := x.neighbours e
      let lowerFits := 0 < lower && x.roundsTo lower e
      let upperFits := x.roundsTo upper e
      if lowerFits && upperFits then ⟨if nearer then upper else lower, e⟩
      else if lowerFits then ⟨lower, e⟩
      else if upperFits then ⟨upper, e⟩
      else shortestFrom x fuel (e - 1)

/-- Drops zeros at the end. -/
def trim : Nat → ShortDecimal → ShortDecimal
  | 0, s => s
  | fuel + 1, s =>
      if s.digits % 10 = 0 ∧ s.digits ≠ 0 then trim fuel ⟨s.digits / 10, s.exponent + 1⟩ else s

/-- The power of ten of the first digit of a positive number. -/
def magnitude (x : Binary64) : Int :=
  let (n, d) := x.ratio
  let digits (k : Nat) : Int := k.repr.length
  if d ≤ n then digits (n / d) - 1 else - digits (d / n)

def shortest (x : Binary64) : ShortDecimal := trim 20 (x.shortestFrom 20 (x.magnitude + 1))

/-- The text of a number: positional with a digit after the point where its first digit stands less
than sixteen places before the point and at most five behind it, otherwise with an exponent. -/
def text (x : Binary64) : String :=
  if x.significand = 0 then "0.0"
  else
    let s := x.shortest
    let digits := s.digits.repr.toList
    let zeros (n : Int) := List.replicate n.toNat '0'
    let point : Int := digits.length + s.exponent
    String.ofList <|
      if 0 ≤ s.exponent ∧ point ≤ 16 then digits ++ zeros s.exponent ++ ['.', '0']
      else if 0 < point ∧ point ≤ 16 then
        digits.take point.toNat ++ '.' :: digits.drop point.toNat
      else if -5 < point ∧ point ≤ 0 then '0' :: '.' :: (zeros (-point) ++ digits)
      else
        (match digits with
          | [d] => [d]
          | d :: rest => d :: '.' :: rest
          | [] => []) ++ 'e' :: (point - 1).repr.toList

end Binary64

end TransitionMap
