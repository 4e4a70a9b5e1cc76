import Std.Data.HashMap

/-!
# Sets in order of insertion

An `OrderedSet` keeps each element once, at the position of its first insertion, and finds that
position by hashing. Everything is said through the view `toList`: `toList_insert`, `nodup_toList`,
`position?_eq_some_iff`.
-/

namespace TransitionMap

structure OrderedSet (α : Type) [DecidableEq α] [Hashable α] where
  items : Array α
  positions : Std.HashMap α Nat
  /-- The table of positions says where each element stands. -/
  positions_iff : ∀ (a : α) (i : Nat), positions[a]? = some i ↔ items[i]? = some a

namespace OrderedSet

variable {α : Type} [DecidableEq α] [Hashable α]

def empty : OrderedSet α := ⟨#[], {}, by simp⟩

def toList (s : OrderedSet α) : List α := s.items.toList

def size (s : OrderedSet α) : Nat := s.items.size

def get? (s : OrderedSet α) (i : Nat) : Option α := s.items[i]?

def position? (s : OrderedSet α) (a : α) : Option Nat := s.positions[a]?

def contains (s : OrderedSet α) (a : α) : Bool := s.positions.contains a

theorem contains_iff (s : OrderedSet α) (a : α) : s.contains a = true ↔ a ∈ s.items := by
  rw [contains, Std.HashMap.contains_eq_isSome_getElem?, Option.isSome_iff_exists,
    Array.mem_iff_getElem?]
  exact exists_congr fun i => s.positions_iff a i

private theorem insert_positions (s : OrderedSet α) (a : α) (h : ¬ s.contains a = true) (b : α)
    (i : Nat) :
    (s.positions.insert a s.items.size)[b]? = some i ↔ (s.items.push a)[i]? = some b := by
  have fresh : a ∉ s.items := fun m => h ((s.contains_iff a).2 m)
  rw [Std.HashMap.getElem?_insert, Array.getElem?_push]
  by_cases hab : a = b
  · subst hab
    simp only [beq_self_eq_true, if_true, Option.some.injEq]
    constructor
    · rintro rfl; simp
    · intro hi
      split at hi
      · omega
      · exact absurd (Array.mem_iff_getElem?.2 ⟨i, hi⟩) fresh
  · simp only [beq_eq_false_iff_ne.2 hab, Bool.false_eq_true, if_false, s.positions_iff]
    split
    · subst i; simp [hab]
    · rfl

/-- Adds an element at the end unless it is there already. -/
def insert (s : OrderedSet α) (a : α) : OrderedSet α :=
  if h : s.contains a = true then s
  else
    let positions := s.positions.insert a s.items.size
    ⟨s.items.push a, positions, insert_positions s a h⟩

def insertAll (s : OrderedSet α) (as : List α) : OrderedSet α := as.foldl insert s

def ofList (as : List α) : OrderedSet α := empty.insertAll as

/-- Visits the elements from position `cursor` on and adds the successors of each behind the others,
for at most `fuel` visits. -/
def explore (next : α → List α) : Nat → Nat → OrderedSet α → OrderedSet α
  | 0, _, s => s
  | fuel + 1, cursor, s =>
      match s.get? cursor with
      | none => s
      | some a => explore next fuel (cursor + 1) (s.insertAll (next a))

/-- Everything that successors lead to from `start`, breadth first; complete when no more than
`bound` elements can be reached. -/
def reachable (next : α → List α) (bound : Nat) (start : α) : OrderedSet α :=
  explore next bound 0 (empty.insert start)

/-! ## The view -/

@[simp] theorem toList_empty : (empty : OrderedSet α).toList = [] := rfl

theorem toList_insert (s : OrderedSet α) (a : α) :
    (s.insert a).toList = if a ∈ s.toList then s.toList else s.toList ++ [a] := by
  by_cases h : s.contains a = true
  · have m : a ∈ s.toList := by simpa [toList] using (s.contains_iff a).1 h
    simp [insert, h, m]
  · have m : a ∉ s.items := fun m => h ((s.contains_iff a).2 m)
    simp [insert, h, m, toList]

theorem size_eq_length (s : OrderedSet α) : s.size = s.toList.length := by simp [size, toList]

theorem get?_eq (s : OrderedSet α) (i : Nat) : s.get? i = s.toList[i]? := by simp [get?, toList]

theorem position?_eq_some_iff (s : OrderedSet α) (a : α) (i : Nat) :
    s.position? a = some i ↔ s.toList[i]? = some a := by
  simpa [position?, toList] using s.positions_iff a i

theorem mem_insert (s : OrderedSet α) (a b : α) :
    b ∈ (s.insert a).toList ↔ b ∈ s.toList ∨ b = a := by
  rw [toList_insert]
  split
  · exact ⟨.inl, fun h => h.elim id fun e => e ▸ ‹a ∈ s.toList›⟩
  · simp

theorem nodup_toList (s : OrderedSet α) : s.toList.Nodup := by
  rw [List.Nodup, List.pairwise_iff_getElem]
  intro i j hi hj hij e
  have hi' := (s.position?_eq_some_iff s.toList[i] i).2 (by simp)
  have hj' := (s.position?_eq_some_iff s.toList[j] j).2 (by simp)
  rw [e, hj'] at hi'
  simp only [Option.some.injEq] at hi'
  omega

end OrderedSet

end TransitionMap
