import Std.Data.TreeMap
import TransitionMap.Store

/-!
# A bounded map in memory

`MemoryStore` keeps its pairs sorted by key bytes. With a limit on the number of pairs, a new key is
refused when the limit is reached, while a key that is present can still be overwritten. A closed
store refuses every write. All writes are counted, refused ones too.
-/

namespace TransitionMap

/-- Byte strings by their keys, in the order of the keys' bytes. -/
abbrev Records := Std.TreeMap Bytes Bytes

structure MemoryStore where
  records : Records := {}
  keySize : Nat := 4
  valueSize : Nat := 4
  maxEntries : Option Nat := none
  closed : Bool := false
  /-- How often a write was asked for. -/
  attempts : Nat := 0

namespace MemoryStore

def new : MemoryStore := {}

/-- An empty store for keys and values of other sizes. -/
def withLayout (keySize valueSize : Nat) : MemoryStore := { keySize, valueSize }

def withMaxEntries (s : MemoryStore) (maxEntries : Nat) : MemoryStore :=
  { s with maxEntries := some maxEntries }

def close (s : MemoryStore) : MemoryStore := { s with closed := true }

def get? (s : MemoryStore) (key : Bytes) : Option Bytes := s.records[key]?

def size (s : MemoryStore) : Nat := s.records.size

/-- The pairs as they are stored, in the order of their key bytes. -/
def entries (s : MemoryStore) : List (Bytes × Bytes) := s.records.toList

/-- The pairs as entries of a transition map, in key order. -/
def decoded (s : MemoryStore) : Except LayoutError (List Entry) :=
  (s.entries.mapM fun (key, value) => Entry.ofBytes key value).map Entry.sortByKey

def check (s : MemoryStore) : Except StoreError Unit :=
  if s.closed then .error .closed else .ok ()

/-- Why a write is refused, if it is. -/
def refusal? (s : MemoryStore) (key value : Bytes) : Option StoreError :=
  if s.closed then some .closed
  else if key.length ≠ s.keySize then some (.sizeMismatch .key s.keySize key.length)
  else if value.length ≠ s.valueSize then some (.sizeMismatch .value s.valueSize value.length)
  else match s.maxEntries with
    | none => none
    | some maxEntries =>
        if maxEntries ≤ s.size ∧ ¬ s.records.contains key then some (.capacityExceeded maxEntries)
        else none

def put (s : MemoryStore) (key value : Bytes) : Except StoreError Unit × MemoryStore :=
  match s.refusal? key value with
  | some e => (.error e, { s with attempts := s.attempts + 1 })
  | none =>
      (.ok (), { s with attempts := s.attempts + 1, records := s.records.insert key value })

instance : Store MemoryStore where
  keySize := MemoryStore.keySize
  valueSize := MemoryStore.valueSize
  check := MemoryStore.check
  put := MemoryStore.put

end MemoryStore

end TransitionMap
