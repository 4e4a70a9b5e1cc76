import TransitionMap.Image
import TransitionMap.Store.Memory

/-!
# Collecting records for a table image

An `ImageBuffer` takes the writes of a table and keeps the last value of each key. It never runs
full and never closes; it refuses only keys and values of the wrong size.
-/

namespace TransitionMap

structure ImageBuffer where
  records : Records := {}

namespace ImageBuffer

def new : ImageBuffer := {}

def size (b : ImageBuffer) : Nat := b.records.size

def put (b : ImageBuffer) (key value : Bytes) : Except StoreError Unit × ImageBuffer :=
  if key.length ≠ 4 then (.error (.sizeMismatch .key 4 key.length), b)
  else if value.length ≠ 4 then (.error (.sizeMismatch .value 4 value.length), b)
  else (.ok (), ⟨b.records.insert key value⟩)

instance : Store ImageBuffer where
  keySize _ := 4
  valueSize _ := 4
  check _ := .ok ()
  put := ImageBuffer.put

/-- The image of the collected records; a record that is none is named by its place among the sorted
key bytes. -/
def toImage (b : ImageBuffer) : Except ImageError Image :=
  let entry : (Bytes × Bytes) × Nat → Except ImageError Entry := fun ((key, value), index) =>
    (Entry.ofBytes key value).mapError (ImageError.record index)
  (b.records.toList.zipIdx.mapM entry).map Image.ofEntries

end ImageBuffer

end TransitionMap
