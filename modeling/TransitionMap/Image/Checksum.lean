import TransitionMap.Bytes

/-!
# The checksum of a record section

The cyclic redundancy check of 32 bits over the polynomial of Ethernet frames, in its reflected
form: the remainder starts with all bits set, each byte is added at its low end and shifted out bit
by bit, and the result is the complement of the remainder.
-/

namespace TransitionMap.Checksum

/-- The polynomial with its coefficients from low to high powers, the highest left out. -/
def polynomial : UInt32 := 0xedb88320

/-- Moves the remainder one bit on, and subtracts the polynomial when a one falls out. -/
def shift (r : UInt32) : UInt32 :=
  if r &&& 1 = 1 then (r >>> 1) ^^^ polynomial else r >>> 1

def shift8 (r : UInt32) : UInt32 :=
  shift (shift (shift (shift (shift (shift (shift (shift r)))))))

def step (r : UInt32) (b : UInt8) : UInt32 := shift8 (r ^^^ b.toUInt32)

def run (r : UInt32) (bytes : Bytes) : UInt32 := bytes.foldl step r

end TransitionMap.Checksum

namespace TransitionMap

/-- The checksum of a byte string. -/
def checksum (bytes : Bytes) : UInt32 := ~~~ (Checksum.run 0xffffffff bytes)

end TransitionMap
