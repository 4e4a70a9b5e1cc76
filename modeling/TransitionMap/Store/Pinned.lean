import TransitionMap.Store

/-!
# Pinned maps

The system keeps maps that outlive a program, pinned at paths. A map that has been opened is a
store: each pair is handed over to the system at once, which reads as many bytes as the map has
sizes, so that a pair of other sizes is refused before.
-/

namespace TransitionMap

/-- Maps that a system keeps. -/
class SystemMap (κ : Type) where
  keySize : κ → Nat
  valueSize : κ → Nat
  /-- Inserts or overwrites one pair of the sizes of the map. -/
  update : κ → Bytes → Bytes → Except StoreError Unit × κ

/-- A system without maps. -/
instance : SystemMap Empty := ⟨nofun, nofun, nofun⟩

/-- A map of the system with the sizes it had when it was opened. -/
structure PinnedMap (κ : Type) where
  keySize : Nat
  valueSize : Nat
  map : κ

namespace PinnedMap

variable {κ : Type} [SystemMap κ]

def ofMap (map : κ) : PinnedMap κ := ⟨SystemMap.keySize map, SystemMap.valueSize map, map⟩

def put (p : PinnedMap κ) (key value : Bytes) : Except StoreError Unit × PinnedMap κ :=
  if key.length ≠ p.keySize then (.error (.sizeMismatch .key p.keySize key.length), p)
  else if value.length ≠ p.valueSize then
    (.error (.sizeMismatch .value p.valueSize value.length), p)
  else
    let (answer, map) := SystemMap.update p.map key value
    (answer, { p with map })

instance : Store (PinnedMap κ) where
  keySize p := p.keySize
  valueSize p := p.valueSize
  check _ := .ok ()
  put := PinnedMap.put

end PinnedMap

end TransitionMap
