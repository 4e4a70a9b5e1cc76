import TransitionMap.Machine

/-!
# Machines as tables

Bytes that no state tells apart form one column of the table; one more column is for the end of the
input. `Tabled.explore` numbers the states that can be reached from the start and fills in their
rows.
-/

namespace TransitionMap

/-- A division of the bytes into columns: the column of each byte, and a byte of each column. -/
structure Columns where
  columnOf : Array Nat
  samples : List UInt8
  deriving Repr

namespace Columns

/-- The division with a new column at every byte of a list. -/
def ofStarts (starts : List Nat) : Columns :=
  let isStart := starts.foldl (fun (a : Array Bool) i => a.setIfInBounds i true)
    ((Array.replicate 256 false).setIfInBounds 0 true)
  let (columns, _) := isStart.foldl
    (fun (acc : Array Nat × Nat) start =>
      let count := if start then acc.2 + 1 else acc.2
      (acc.1.push (count - 1), count)) (#[], 0)
  { columnOf := columns
    samples := allBytes.filter fun b => isStart.getD b.toNat false }

def column (c : Columns) (b : UInt8) : Nat := c.columnOf.getD b.toNat 0

/-- One symbol per column, the end of the input last. -/
def symbols (c : Columns) : List Symbol := c.samples.map some ++ [none]

/-- The column of a symbol. -/
def index (c : Columns) : Symbol → Nat
  | some b => c.column b
  | none => c.samples.length

end Columns

/-- A machine on the states 0, 1, 2, … with state 0 as the start. -/
structure Tabled where
  columns : Columns
  rows : Array (Array Nat)
  isMatch : Array Bool
  nonempty : 0 < rows.size
  /-- Every row leads to states of the table. -/
  closed : ∀ row ∈ rows, ∀ t ∈ row, t < rows.size

namespace Tabled

def size (t : Tabled) : Nat := t.rows.size

def row (t : Tabled) (s : Nat) : Array Nat := t.rows.getD s #[]

def next (t : Tabled) (s : Nat) (x : Symbol) : Nat := (t.row s).getD (t.columns.index x) 0

theorem next_lt (t : Tabled) (s : Nat) (x : Symbol) : t.next s x < t.size := by
  unfold next row size
  rw [Array.getD_eq_getD_getElem?, Array.getD_eq_getD_getElem?]
  cases hr : t.rows[s]? with
  | none => simpa using t.nonempty
  | some r =>
    rw [Option.getD_some]
    cases hx : r[t.columns.index x]? with
    | none => simpa using t.nonempty
    | some v => exact t.closed r (Array.mem_of_getElem? hr) v (Array.mem_of_getElem? hx)

def matchesAt (t : Tabled) (s : Nat) : Bool := t.isMatch.getD s false

/-- A state is dead when it is no match state and every symbol leads back to it. -/
def isDead (t : Tabled) (s : Nat) : Bool := !t.matchesAt s && (t.row s).all (· == s)

def toMachine (t : Tabled) : Machine Nat where
  start := 0
  next := t.next
  isMatch := t.matchesAt
  isDead := t.isDead

/-- For each state whether it is spent. -/
def spent (t : Tabled) : Array Bool := ((List.range t.size).map t.toMachine.isSpent).toArray

/-- The automaton of a table, without the transitions to states that are spent. -/
def toAutomaton (t : Tabled) : Automaton Nat :=
  let spent := t.spent
  t.toMachine.pruned (fun s => spent.getD s false) (List.range t.size) (List.mem_range.2 t.nonempty)
    (fun s _ x => List.mem_range.2 (t.next_lt s x)) fun s => "dfa state " ++ s.repr

theorem spent_getD (t : Tabled) (s : Nat) (h : s < t.size) :
    t.spent.getD s false = t.toMachine.isSpent s := by
  simp [spent, h]

theorem transitions_toAutomaton (t : Tabled) (s : Nat) :
    t.toAutomaton.transitions s = t.toMachine.transitions t.toMachine.isSpent s := by
  unfold toAutomaton Machine.pruned Machine.transitions
  simp only [show ∀ b, t.toMachine.next s b = t.next s b from fun _ => rfl,
    t.spent_getD _ (t.next_lt s _)]

/-- The table with given rows; an entry that names no row stands for the start. -/
def ofRows (columns : Columns) (rows : Array (Array Nat)) (isMatch : Array Bool)
    (nonempty : 0 < rows.size) : Tabled where
  columns := columns
  rows := rows.map (·.map fun t => if t < rows.size then t else 0)
  isMatch := isMatch
  nonempty := by simpa using nonempty
  closed := by
    intro row hrow t ht
    obtain ⟨r, _, rfl⟩ := Array.mem_map.1 hrow
    obtain ⟨v, _, rfl⟩ := Array.mem_map.1 ht
    rw [Array.size_map]
    split
    · assumption
    · exact nonempty

variable {σ : Type} [DecidableEq σ] [Hashable σ]

/-- Adds the rows of the states that have none yet, and numbers the states they lead to. -/
def fill (next : σ → List σ) : Nat → OrderedSet σ → Array (Array Nat) →
    OrderedSet σ × Array (Array Nat)
  | 0, states, rows => (states, rows)
  | fuel + 1, states, rows =>
      match states.get? rows.size with
      | none => (states, rows)
      | some s =>
          let targets := next s
          let states := states.insertAll targets
          fill next fuel states
            (rows.push (targets.map fun t => (states.position? t).getD 0).toArray)

/-- The table of the states that can be reached, if they are at most `bound`. -/
def explore (m : Machine σ) (columns : Columns) (bound : Nat) : Tabled :=
  let (states, rows) := fill (fun s => columns.symbols.map (m.next s)) bound
    (OrderedSet.empty.insert m.start) #[]
  if h : 0 < rows.size then ofRows columns rows (states.items.map m.isMatch) h
  else ofRows columns #[#[]] #[] (by simp)

end Tabled

end TransitionMap
