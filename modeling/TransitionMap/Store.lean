import TransitionMap.Layout

/-!
# Key-value stores

A store takes single writes of byte strings. It declares the sizes of its keys and values, says
whether it can be written at all, and answers each write with success or an error; a failed write
may change the store's state too. `checkLayout` says whether a store was made for the records of a
transition map.
-/

namespace TransitionMap

inductive StoreError
  | closed
  | sizeMismatch (what : Field) (expected actual : Nat)
  | capacityExceeded (maxEntries : Nat)
  /-- An error of the operating system, by number. -/
  | os (code : Int) (message : String)
  | io (message : String)
  deriving DecidableEq, Repr

def StoreError.message : StoreError → String
  | .closed => "store handle is closed"
  | .sizeMismatch what expected actual =>
      what.name ++ " size is " ++ actual.repr ++ " bytes, expected " ++ expected.repr
  | .capacityExceeded maxEntries => "map is full (" ++ maxEntries.repr ++ " entries)"
  | .os code message => "err(" ++ code.repr ++ "): " ++ message
  | .io message => message

class Store (σ : Type) where
  keySize : σ → Nat
  valueSize : σ → Nat
  /-- Whether the store takes writes at all. -/
  check : σ → Except StoreError Unit
  /-- Inserts or overwrites one pair. -/
  put : σ → Bytes → Bytes → Except StoreError Unit × σ

namespace Store

variable {σ : Type} [Store σ]

/-- The store is open and its keys and values have the sizes of the layout; checked in this
order. -/
def checkLayout (s : σ) : Except StoreError Unit :=
  match check s with
  | .error e => .error e
  | .ok () =>
      if keySize s ≠ 4 then .error (.sizeMismatch .key 4 (keySize s))
      else if valueSize s ≠ 4 then .error (.sizeMismatch .value 4 (valueSize s))
      else .ok ()

end Store

end TransitionMap
