/-!
# Sets of characters

A set of character codes is a list of inclusive ranges, sorted, disjoint and with a gap between any
two. The universe is the codes that stand for a character: 0 to 10FFFF in hexadecimal without D800
to DFFF. `normalize` brings any list of ranges into this form; the set operations keep it.
-/

namespace TransitionMap

/-- Ranges of codes, both ends included. -/
abbrev CharSet := List (Nat × Nat)

namespace CharSet

def mem (s : CharSet) (c : Nat) : Bool := s.any fun r => r.1 ≤ c && c ≤ r.2

/-- The largest character code. -/
def top : Nat := 0x10ffff

/-- Merges a sorted list of ranges; `lo` to `hi` is the range under construction. -/
def mergeFrom (lo hi : Nat) : CharSet → CharSet
  | [] => [(lo, hi)]
  | r :: rest =>
      if r.1 ≤ hi + 1 then mergeFrom lo (max hi r.2) rest else (lo, hi) :: mergeFrom r.1 r.2 rest

def merge : CharSet → CharSet
  | [] => []
  | r :: rest => mergeFrom r.1 r.2 rest

def normalize (ranges : List (Nat × Nat)) : CharSet :=
  merge (ranges.mergeSort fun a b => a.1 ≤ b.1)

def union (s t : CharSet) : CharSet := normalize (s ++ t)

/-- The codes from `next` to `last` that a sorted set leaves out. -/
def gaps (next last : Nat) : CharSet → CharSet
  | [] => if next ≤ last then [(next, last)] else []
  | r :: rest =>
      if next < r.1 then (next, r.1 - 1) :: gaps (r.2 + 1) last rest else gaps (r.2 + 1) last rest

/-- The parts of two sorted sets that overlap, range by range. -/
def overlap (s t : CharSet) : CharSet :=
  s.flatMap fun r => t.filterMap fun q =>
    let lo := max r.1 q.1
    let hi := min r.2 q.2
    if lo ≤ hi then some (lo, hi) else none

/-- All characters. -/
def full : CharSet := [(0, 0xd7ff), (0xe000, top)]

def complement (s : CharSet) : CharSet := overlap full (gaps 0 top s)

def inter (s t : CharSet) : CharSet := overlap s t

def diff (s t : CharSet) : CharSet := overlap s (gaps 0 top t)

def symmDiff (s t : CharSet) : CharSet := diff (union s t) (inter s t)

/-- The characters of a range of codes. -/
def range (lo hi : Nat) : CharSet := overlap full [(lo, hi)]

def singleton (c : Char) : CharSet := [(c.toNat, c.toNat)]

/-- The only member, if there is exactly one. -/
def only? : CharSet → Option Nat
  | [(lo, hi)] => if lo = hi then some lo else none
  | _ => none

end CharSet

end TransitionMap
