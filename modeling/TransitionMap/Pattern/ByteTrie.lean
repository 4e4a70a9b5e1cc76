import TransitionMap.Bytes
import TransitionMap.CharSet

/-!
# Byte sequences of characters

A `ByteTrie` is a decision tree on the bytes of a sequence. `ByteTrie.ofChars` builds the tree of
the UTF-8 sequences of a set of characters: one level per byte, neighbouring bytes with equal
subtrees in one arm.
-/

namespace TransitionMap.Pattern

inductive ByteTrie
  | accept
  | reject
  /-- On a byte from `lo` to `hi` go on with `next`, on any other with `rest`. -/
  | arm (lo hi : UInt8) (next rest : ByteTrie)
  deriving DecidableEq, Hashable, Repr

namespace ByteTrie

/-- Whether a sequence leads to `accept` exactly at its end. -/
def accepts : ByteTrie → Bytes → Bool
  | accept, word => word.isEmpty
  | reject, _ => false
  | arm _ _ _ _, [] => false
  | arm lo hi next rest, b :: word =>
      if lo ≤ b ∧ b ≤ hi then accepts next word else accepts rest (b :: word)

/-- The codes of a set between two bounds, counted from the lower one. -/
def slice (lo hi : Nat) (s : CharSet) : CharSet :=
  s.filterMap fun r =>
    let first := max lo r.1
    let last := min hi r.2
    if first ≤ last then some (first - lo, last - lo) else none

/-- The non-empty blocks of a set, each of `width` codes, with their numbers below `count`. -/
def blocks (width count : Nat) (s : CharSet) : List (Nat × CharSet) :=
  (List.range count).filterMap fun i =>
    match slice (i * width) (i * width + width - 1) s with
    | [] => none
    | block => some (i, block)

/-- Puts neighbouring equal blocks together, with the first and the last of their numbers. -/
def joinBlocks : List (Nat × CharSet) → List (Nat × Nat × CharSet)
  | [] => []
  | (i, block) :: rest =>
      match joinBlocks rest with
      | (first, last, block') :: more =>
          if i + 1 = first ∧ block = block' then (i, last, block) :: more
          else (i, i, block) :: (first, last, block') :: more
      | [] => [(i, i, block)]

/-- Arms for the leading bytes from `base` on, one per block of codes. -/
def arms (base width count : Nat) (next : CharSet → ByteTrie) (s : CharSet) (rest : ByteTrie) :
    ByteTrie :=
  (joinBlocks (blocks width count s)).foldr
    (fun (first, last, block) rest =>
      arm (UInt8.ofNat (base + first)) (UInt8.ofNat (base + last)) (next block) rest)
    rest

/-- How many sequences of `k` continuation bytes there are; each byte carries six bits. -/
def tailCount (k : Nat) : Nat := 1 <<< (6 * k)

/-- The tree of `k` continuation bytes. -/
def tails : Nat → CharSet → ByteTrie
  | 0, _ => accept
  | k + 1, s => arms 0x80 (tailCount k) 64 (tails k) s reject

/-- The tree of the UTF-8 sequences of a set of characters. -/
def ofChars (s : CharSet) : ByteTrie :=
  let part (codes : CharSet) := CharSet.overlap s codes
  arms 0 (tailCount 0) 0x80 (tails 0) (part [(0, 0x7f)]) <|
    arms 0xc0 (tailCount 1) 32 (tails 1) (part [(0x80, 0x7ff)]) <|
      arms 0xe0 (tailCount 2) 16 (tails 2) (part [(0x800, 0xd7ff), (0xe000, 0xffff)]) <|
        arms 0xf0 (tailCount 3) 8 (tails 3) (part [(0x10000, 0x10ffff)]) reject

end ByteTrie

end TransitionMap.Pattern
