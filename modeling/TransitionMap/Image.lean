import TransitionMap.Layout
import TransitionMap.Image.Checksum

/-!
# Table images

A table image is the file form of a transition map: a header of 32 bytes, then one record of eight
bytes per entry, key before value, as the map stores them. The header holds the letters `DFAM`, the
format version, the checksum and the number of the records, the sizes of a key and a value, and
twelve bytes that are written as zero and not looked at.
-/

namespace TransitionMap

/-- The eight-digit hexadecimal form of a word, after `0x`. -/
def hexWord (w : UInt32) : List Char :=
  '0' :: 'x' :: ((Bytes.ofWord32 w).reverse.flatMap hexPair)

namespace Image

def magic : Bytes := [0x44, 0x46, 0x41, 0x4d]

def version : UInt32 := 1

structure Header where
  magic : Bytes := Image.magic
  version : UInt32 := Image.version
  /-- Checksum of everything after the header. -/
  checksum : UInt32 := 0
  entryCount : UInt32 := 0
  keySize : UInt16 := 4
  valueSize : UInt16 := 4
  reserved : Bytes := List.replicate 12 0
  deriving DecidableEq, Repr

namespace Header

def size : Nat := 32

def toBytes (h : Header) : Bytes :=
  h.magic ++ Bytes.ofWord32 h.version ++ Bytes.ofWord32 h.checksum ++ Bytes.ofWord32 h.entryCount ++
    Bytes.ofWord16 h.keySize ++ Bytes.ofWord16 h.valueSize ++ h.reserved

/-- The header at the front of a byte string and what follows it; `none` if there are too few
bytes. -/
def split? : Bytes → Option (Header × Bytes)
  | m0 :: m1 :: m2 :: m3 :: v0 :: v1 :: v2 :: v3 :: c0 :: c1 :: c2 :: c3 ::
    n0 :: n1 :: n2 :: n3 :: k0 :: k1 :: s0 :: s1 ::
    r0 :: r1 :: r2 :: r3 :: r4 :: r5 :: r6 :: r7 :: r8 :: r9 :: r10 :: r11 :: rest =>
      some ({ magic := [m0, m1, m2, m3]
              version := Bytes.word32 v0 v1 v2 v3
              checksum := Bytes.word32 c0 c1 c2 c3
              entryCount := Bytes.word32 n0 n1 n2 n3
              keySize := Bytes.word16 k0 k1
              valueSize := Bytes.word16 s0 s1
              reserved := [r0, r1, r2, r3, r4, r5, r6, r7, r8, r9, r10, r11] }, rest)
  | _ => none

def hasMagic (h : Header) : Bool := h.magic == Image.magic

def hasVersion (h : Header) : Bool := h.version == Image.version

end Header
end Image

inductive ImageError
  | fileTooSmall (size : Nat)
  | invalidMagic
  | unsupportedVersion (version : UInt32)
  | recordLayout (keySize valueSize : UInt16)
  | sizeMismatch (entries : UInt32) (actual : Nat)
  | checksum (header computed : UInt32)
  | record (index : Nat) (cause : LayoutError)
  | io (message : String)
  deriving DecidableEq, Repr

def ImageError.message : ImageError → String
  | .fileTooSmall size => "file too small: " ++ size.repr ++ " bytes (minimum 32)"
  | .invalidMagic => "invalid magic: expected DFAM"
  | .unsupportedVersion version =>
      "unsupported version: " ++ version.toNat.repr ++ " (expected 1)"
  | .recordLayout keySize valueSize =>
      "record layout mismatch: key " ++ keySize.toNat.repr ++ " bytes, value " ++
        valueSize.toNat.repr ++ " bytes (expected 4 and 4)"
  | .sizeMismatch entries actual =>
      "size mismatch: header declares " ++ entries.toNat.repr ++ " entries (" ++
        (entries.toNat * 8).repr ++ " bytes), got " ++ actual.repr
  | .checksum header computed =>
      "checksum mismatch: header " ++ String.ofList (hexWord header) ++ ", computed " ++
        String.ofList (hexWord computed)
  | .record index cause => "invalid record " ++ index.repr ++ ": " ++ cause.message
  | .io message => "io error: " ++ message

structure Image where
  entries : List Entry
  deriving DecidableEq, Repr

namespace Image

/-- The image of a table, its entries in key order. -/
def ofEntries (entries : List Entry) : Image := ⟨Entry.sortByKey entries⟩

def recordBytes (entries : List Entry) : Bytes := entries.flatMap Entry.toBytes

def header (image : Image) : Header :=
  { checksum := TransitionMap.checksum (recordBytes image.entries)
    entryCount := UInt32.ofNat image.entries.length }

def toBytes (image : Image) : Bytes := image.header.toBytes ++ recordBytes image.entries

/-- Reads records of eight bytes up to the end. `index` numbers the next record; `done` holds the
records read so far, last first. -/
def readRecords (index : Nat) (done : List Entry) : Bytes → Except ImageError (List Entry)
  | k0 :: k1 :: k2 :: k3 :: v0 :: v1 :: v2 :: v3 :: rest =>
      match Entry.ofBytes [k0, k1, k2, k3] [v0, v1, v2, v3] with
      | .ok entry => readRecords (index + 1) (entry :: done) rest
      | .error cause => .error (.record index cause)
  | _ => .ok done.reverse

/-- Accepts an image of this version with the sizes and the checksum that its header declares. -/
def ofBytes (bytes : Bytes) : Except ImageError Image :=
  match Header.split? bytes with
  | none => .error (.fileTooSmall bytes.length)
  | some (header, records) =>
      if !header.hasMagic then .error .invalidMagic
      else if !header.hasVersion then .error (.unsupportedVersion header.version)
      else if header.keySize ≠ 4 ∨ header.valueSize ≠ 4 then
        .error (.recordLayout header.keySize header.valueSize)
      else if records.length ≠ header.entryCount.toNat * 8 then
        .error (.sizeMismatch header.entryCount records.length)
      else
        let computed := TransitionMap.checksum records
        if computed ≠ header.checksum then .error (.checksum header.checksum computed)
        else (readRecords 0 [] records).map Image.mk

end Image

end TransitionMap
