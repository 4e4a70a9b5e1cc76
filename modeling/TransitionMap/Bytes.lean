/-!
# Byte strings and fixed-width words

Byte strings are lists of `UInt8`. Words of two and four bytes are written with the least
significant byte first; `Bytes.word16` and `Bytes.word32` read them back.
-/

namespace TransitionMap

abbrev Bytes := List UInt8

namespace Bytes

/-- The two bytes of a word, least significant first. -/
def ofWord16 (w : UInt16) : Bytes := [w.toUInt8, (w >>> 8).toUInt8]

/-- The four bytes of a word, least significant first. -/
def ofWord32 (w : UInt32) : Bytes :=
  [w.toUInt8, (w >>> 8).toUInt8, (w >>> 16).toUInt8, (w >>> 24).toUInt8]

/-- The word whose bytes are `b0` and `b1`, least significant first. -/
def word16 (b0 b1 : UInt8) : UInt16 := b0.toUInt16 ||| (b1.toUInt16 <<< 8)

/-- The word whose bytes are `b0` to `b3`, least significant first. -/
def word32 (b0 b1 b2 b3 : UInt8) : UInt32 :=
  b0.toUInt32 ||| (b1.toUInt32 <<< 8) ||| (b2.toUInt32 <<< 16) ||| (b3.toUInt32 <<< 24)

theorem length_ofWord16 (w : UInt16) : (ofWord16 w).length = 2 := rfl

theorem length_ofWord32 (w : UInt32) : (ofWord32 w).length = 4 := rfl

/-- The UTF-8 bytes of a text. -/
def ofString (s : String) : Bytes := s.toUTF8.toList

end Bytes

end TransitionMap
