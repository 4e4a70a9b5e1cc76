import TransitionMap.Store.Memory

/-!
# A store with failing writes

A `FaultyStore` lets through the writes to a map in memory but for those whose number, counted from
one, is on a list. Such a write fails as if the operating system had refused it, and changes
nothing.
-/

namespace TransitionMap

structure FaultyStore where
  inner : MemoryStore
  failing : List Nat
  /-- How many writes have been asked for. -/
  calls : Nat := 0

namespace FaultyStore

/-- The error of a failing write. -/
def fault : StoreError := .os 7 "Argument list too long"

def put (s : FaultyStore) (key value : Bytes) : Except StoreError Unit × FaultyStore :=
  let s := { s with calls := s.calls + 1 }
  if s.failing.contains s.calls then (.error fault, s)
  else
    let (result, inner) := s.inner.put key value
    (result, { s with inner })

instance : Store FaultyStore where
  keySize s := s.inner.keySize
  valueSize s := s.inner.valueSize
  check _ := .ok ()
  put := FaultyStore.put

end FaultyStore

end TransitionMap
