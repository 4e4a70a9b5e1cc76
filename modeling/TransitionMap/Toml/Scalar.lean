import TransitionMap.Toml.Value

/-!
# Numbers, dates and words in TOML

What stands without quotes: integers in four bases, decimals, dates and times, and the words `true`,
`false`, `inf` and `nan`. Underscores may stand between digits; a decimal integer has no leading
zeros.
-/

namespace TransitionMap.Toml

/-! ## Numbers -/

def digit? (base : Nat) (c : Char) : Option Nat :=
  let n :=
    if '0' ≤ c ∧ c ≤ '9' then c.toNat - 48
    else if 'a' ≤ c ∧ c ≤ 'f' then c.toNat - 87
    else if 'A' ≤ c ∧ c ≤ 'F' then c.toNat - 55
    else base
  if n < base then some n else none

/-- Goes on behind a digit with more digits, each after an underscore or not. -/
def digitsFrom? (base n : Nat) : List Char → Option Nat
  | [] => some n
  | '_' :: c :: rest => (digit? base c).bind fun d => digitsFrom? base (n * base + d) rest
  | c :: rest => (digit? base c).bind fun d => digitsFrom? base (n * base + d) rest

def digits? (base : Nat) : List Char → Option Nat
  | [] => none
  | c :: rest => (digit? base c).bind fun d => digitsFrom? base d rest

/-- A decimal integer without a sign. -/
def natural? : List Char → Option Nat
  | '0' :: rest => if rest.isEmpty then some 0 else none
  | cs => digits? 10 cs

/-- The sign in front of a number, true for minus, and the rest. -/
def splitSign : List Char → Bool × List Char
  | '+' :: rest => (false, rest)
  | '-' :: rest => (true, rest)
  | cs => (false, cs)

def signed (negative : Bool) (n : Nat) : Int := if negative then -(n : Int) else n

def integer? (cs : List Char) : Option Int :=
  match cs with
  | '0' :: 'x' :: rest => (digits? 16 rest).map Int.ofNat
  | '0' :: 'o' :: rest => (digits? 8 rest).map Int.ofNat
  | '0' :: 'b' :: rest => (digits? 2 rest).map Int.ofNat
  | _ =>
      let (negative, rest) := splitSign cs
      (natural? rest).map (signed negative)

def isExponentMark (c : Char) : Bool := c = 'e' || c = 'E'

/-- What follows the significant digits: an exponent or nothing. -/
def exponent? : List Char → Option Int
  | [] => some 0
  | _ :: rest =>
      let (negative, rest) := splitSign rest
      (digits? 10 rest).map (signed negative)

/-- A number with a fraction, an exponent or both. -/
def decimal? (cs : List Char) : Option Decimal :=
  let (_, cs) := splitSign cs
  if cs = "inf".toList then some .infinite
  else if cs = "nan".toList then some .undefined
  else
    let isMark := fun c => c = '.' || isExponentMark c
    match natural? (cs.takeWhile (!isMark ·)), cs.dropWhile (!isMark ·) with
    | some n, '.' :: rest => do
        let places := rest.takeWhile (!isExponentMark ·)
        let fraction ← digits? 10 places
        let e ← exponent? (rest.dropWhile (!isExponentMark ·))
        let count := (places.filter (· ≠ '_')).length
        return .finite (n * Nat.pow 10 count + fraction) (e - count)
    | some n, mark :: rest => (exponent? (mark :: rest)).map (.finite n)
    | _, _ => none

/-! ## Dates and times -/

/-- A number of `count` digits in front of a text. -/
def fixedDigits? (count : Nat) (cs : List Char) : Option (Nat × List Char) :=
  if (cs.take count).length = count ∧ (cs.take count).all Char.isDigit then
    (digits? 10 (cs.take count)).map fun n => (n, cs.drop count)
  else none

def after? (c : Char) : List Char → Option (List Char)
  | d :: rest => if d = c then some rest else none
  | [] => none

def daysInMonth (year month : Nat) : Nat :=
  if month = 2 then
    if year % 4 = 0 ∧ (year % 100 ≠ 0 ∨ year % 400 = 0) then 29 else 28
  else if month = 4 ∨ month = 6 ∨ month = 9 ∨ month = 11 then 30
  else 31

/-- Passes a date of the calendar. -/
def skipDate? (cs : List Char) : Option (List Char) := do
  let (year, cs) ← fixedDigits? 4 cs
  let (month, cs) ← fixedDigits? 2 (← after? '-' cs)
  let (day, cs) ← fixedDigits? 2 (← after? '-' cs)
  if 1 ≤ month ∧ month ≤ 12 ∧ 1 ≤ day ∧ day ≤ daysInMonth year month then some cs else none

/-- Passes hours and minutes. -/
def skipHours? (cs : List Char) : Option (List Char) := do
  let (hour, cs) ← fixedDigits? 2 cs
  let (minute, cs) ← fixedDigits? 2 (← after? ':' cs)
  if hour ≤ 23 ∧ minute ≤ 59 then some cs else none

/-- Passes a time of day; seconds may be left out, and a leap second is one. -/
def skipTime? (cs : List Char) : Option (List Char) := do
  match ← skipHours? cs with
  | ':' :: cs =>
      let (second, cs) ← fixedDigits? 2 cs
      if 60 < second then none
      else match cs with
        | '.' :: cs =>
            if (cs.takeWhile Char.isDigit).isEmpty then none else some (cs.dropWhile Char.isDigit)
        | _ => some cs
  | cs => some cs

/-- The distance from universal time behind a date and a time. -/
def isOffset : List Char → Bool
  | [c] => c = 'Z' || c = 'z'
  | c :: rest => (c = '+' || c = '-') && skipHours? rest = some []
  | [] => true

def isMoment (cs : List Char) : Bool :=
  match skipDate? cs with
  | some [] => true
  | some (c :: rest) => (c = 'T' || c = 't' || c = ' ') && (skipTime? rest).any isOffset
  | none => skipTime? cs = some []

/-! ## Any of them -/

def scalar? (cs : List Char) : Option Value :=
  if cs = "true".toList then some (.boolean true)
  else if cs = "false".toList then some (.boolean false)
  else match integer? cs, decimal? cs with
    | some i, _ => some (.integer i)
    | none, some d => some (.decimal d)
    | none, none => if isMoment cs then some .moment else none

end TransitionMap.Toml
