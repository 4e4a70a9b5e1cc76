import TransitionMap.Bytes

/-!
# Keys and values of the transition map

The map is read by a program that holds a state number and looks at one byte at a time. A key is the
current state (two bytes, least significant first), the byte, and one zero byte; a value is the
accepting flag of the next state and then the next state. `Key.ofBytes` and `Value.ofBytes` refuse
what no key or value encodes to: another length, a padding byte other than zero, a flag above one.
-/

namespace TransitionMap

/-- A state number, dense from zero within one table. -/
abbrev StateId := UInt16

namespace StateId

/-- How many states a two-byte field can tell apart. -/
def count : Nat := 65536

def ofIndex? (index : Nat) : Option StateId :=
  if index < count then some (UInt16.ofNat index) else none

def label (s : StateId) : String := "S" ++ s.toNat.repr

end StateId

/-! ## The text of a byte -/

/-- The two lower-case hexadecimal digits of a byte. -/
def hexPair (b : UInt8) : List Char := [Nat.digitChar (b.toNat / 16), Nat.digitChar (b.toNat % 16)]

/-- A printable byte stands between quotes, with a backslash before a quote or a backslash; any
other byte is written `0xNN`. -/
def unitLabel (b : UInt8) : List Char :=
  if b = 0x27 then ['\'', '\\', '\'', '\'']
  else if b = 0x5c then ['\'', '\\', '\\', '\'']
  else if 0x20 ≤ b ∧ b ≤ 0x7e then ['\'', Char.ofNat b.toNat, '\'']
  else '0' :: 'x' :: hexPair b

/-! ## Records -/

/-- Which part of a record a complaint is about. -/
inductive Field
  | key
  | value
  deriving DecidableEq, Repr

/-- The encoded length of either part of a record. -/
def Field.size : Field → Nat := fun _ => 4

def Field.name : Field → String
  | .key => "key"
  | .value => "value"

structure Key where
  state : StateId
  unit : UInt8
  padding : UInt8 := 0
  deriving DecidableEq, Repr

structure Value where
  /-- One when `state` accepts, otherwise zero. -/
  finalState : UInt16
  state : StateId
  deriving DecidableEq, Repr

structure Entry where
  key : Key
  value : Value
  deriving DecidableEq, Repr

inductive LayoutError
  | length (what : Field) (actual : Nat)
  | nonZeroPadding (padding : UInt8)
  | invalidFlag (flag : UInt16)
  deriving DecidableEq, Repr

def LayoutError.message : LayoutError → String
  | .length what actual =>
      what.name ++ " must be " ++ what.size.repr ++ " bytes, got " ++ actual.repr
  | .nonZeroPadding padding =>
      "key padding must be zero, got 0x" ++ String.ofList (hexPair padding)
  | .invalidFlag flag => "accepting flag must be 0 or 1, got " ++ flag.toNat.repr

namespace Key

def toBytes (k : Key) : Bytes := Bytes.ofWord16 k.state ++ [k.unit, k.padding]

def ofBytes : Bytes → Except LayoutError Key
  | [s0, s1, unit, padding] =>
      if padding = 0 then .ok ⟨Bytes.word16 s0 s1, unit, 0⟩ else .error (.nonZeroPadding padding)
  | bytes => .error (.length .key bytes.length)

/-- Position of a key in the order by state, then unit, then padding. -/
def rank (k : Key) : Nat := k.state.toNat * 65536 + k.unit.toNat * 256 + k.padding.toNat

theorem length_toBytes (k : Key) : k.toBytes.length = 4 := rfl

end Key

namespace Value

/-- The value of a transition to `state`. -/
def leadingTo (state : StateId) (accepting : Bool) : Value := ⟨if accepting then 1 else 0, state⟩

def accepting (v : Value) : Bool := v.finalState != 0

def toBytes (v : Value) : Bytes := Bytes.ofWord16 v.finalState ++ Bytes.ofWord16 v.state

def ofBytes : Bytes → Except LayoutError Value
  | [f0, f1, s0, s1] =>
      let flag := Bytes.word16 f0 f1
      if flag ≤ 1 then .ok ⟨flag, Bytes.word16 s0 s1⟩ else .error (.invalidFlag flag)
  | bytes => .error (.length .value bytes.length)

theorem length_toBytes (v : Value) : v.toBytes.length = 4 := rfl

end Value

namespace Entry

def toBytes (e : Entry) : Bytes := e.key.toBytes ++ e.value.toBytes

/-- The record with these key and value bytes; of two faults the key's is reported. -/
def ofBytes (key value : Bytes) : Except LayoutError Entry := do
  let key ← Key.ofBytes key
  let value ← Value.ofBytes value
  return ⟨key, value⟩

/-- Entries in key order; entries of one key keep the order they come in. -/
def sortByKey (entries : List Entry) : List Entry :=
  entries.mergeSort fun a b => a.key.rank ≤ b.key.rank

end Entry

end TransitionMap
