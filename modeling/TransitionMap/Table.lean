import TransitionMap.Automaton
import TransitionMap.StateIds
import TransitionMap.Store

/-!
# Transition tables

A table holds one entry per transition of an automaton: the states in the order of their numbers,
each state's transitions in its own order. A state with two transitions on one byte has no table,
nor has an automaton with a transition to a state that has no number.

`Table.plan` numbers the states that can be reached and builds the table; `Table.compile` writes it
to a store. What can stop a compilation is checked before the first write; a write that fails does
not stop the others and is recorded in the summary.
-/

namespace TransitionMap

inductive CompileError
  /-- A state has two transitions on one byte; `origin` is the automaton's name for it. -/
  | nonDeterministic (state : StateId) (origin : String) (symbol : UInt8)
  | tooManyStates (count max : Nat)
  | unknownTarget (state : StateId) (symbol : UInt8)
  | invalidStore (cause : StoreError)
  deriving DecidableEq, Repr

def CompileError.message : CompileError → String
  | .nonDeterministic state origin symbol =>
      "state " ++ state.label ++ " (" ++ origin ++ ") has more than one transition on " ++
        String.ofList (unitLabel symbol)
  | .tooManyStates count max =>
      "automaton has " ++ count.repr ++ " reachable states, at most " ++ max.repr ++
        " are representable"
  | .unknownTarget state symbol =>
      "transition from " ++ state.label ++ " on " ++ String.ofList (unitLabel symbol) ++
        " leads to a state outside the enumeration"
  | .invalidStore cause => "store rejected before compilation: " ++ cause.message

structure Table where
  entries : List Entry
  stateCount : Nat
  deriving DecidableEq, Repr

namespace Table

section Build

variable {σ : Type} [DecidableEq σ] [Hashable σ]

/-- The entries of one state's transitions. `seen` holds the bytes of its earlier transitions. -/
def entriesOf (a : Automaton σ) (ids : StateIds σ) (id : StateId) (s : σ) (seen : List UInt8) :
    List (UInt8 × σ) → Except CompileError (List Entry)
  | [] => .ok []
  | (symbol, target) :: rest =>
      if seen.contains symbol then .error (.nonDeterministic id (a.describe s) symbol)
      else match ids.id? target with
        | none => .error (.unknownTarget id symbol)
        | some targetId =>
            (entriesOf a ids id s (symbol :: seen) rest).map
              (⟨{ state := id, unit := symbol }, .leadingTo targetId (a.accepting target)⟩ :: ·)

def build (a : Automaton σ) (ids : StateIds σ) : Except CompileError Table := do
  let entries ← ids.pairs.mapM fun (id, s) => entriesOf a ids id s [] (a.transitions s)
  return ⟨entries.flatten, ids.size⟩

/-- The table of the states that can be reached, unless there are more than `maxStates`. -/
def plan (a : Automaton σ) (maxStates : Nat) : Except CompileError Table :=
  match StateIds.ofSet a.reachable maxStates with
  | .error e => .error (.tooManyStates e.count e.max)
  | .ok ids => build a ids

end Build

def size (t : Table) : Nat := t.entries.length

/-- The distinct accepting states that some transition leads to. -/
def acceptingTargets (t : Table) : Nat :=
  (OrderedSet.ofList ((t.entries.filter (·.value.accepting)).map (·.value.state))).size

end Table

/-! ## Writing -/

structure WriteFailure where
  key : Key
  error : StoreError
  deriving DecidableEq, Repr

structure WriteSummary where
  attempted : Nat
  /-- The refused writes, in the order of the table. -/
  failures : List WriteFailure
  deriving DecidableEq, Repr

namespace WriteSummary

def failed (s : WriteSummary) : Nat := s.failures.length

def written (s : WriteSummary) : Nat := s.attempted - s.failed

def isComplete (s : WriteSummary) : Bool := s.failures.isEmpty

def text (s : WriteSummary) : String :=
  "attempted=" ++ s.attempted.repr ++ " failed=" ++ s.failed.repr

end WriteSummary

/-- The writes so far. -/
structure Tally where
  attempted : Nat := 0
  /-- The refused writes, the last one first. -/
  refused : List WriteFailure := []

namespace Tally

/-- One more write, with the answer to it. -/
def add (t : Tally) (key : Key) : Except StoreError Unit → Tally
  | .ok () => { t with attempted := t.attempted + 1 }
  | .error error => { attempted := t.attempted + 1, refused := ⟨key, error⟩ :: t.refused }

def finish (t : Tally) : WriteSummary := ⟨t.attempted, t.refused.reverse⟩

variable (t : Tally) (key : Key)

@[simp] theorem attempted_add (answer : Except StoreError Unit) :
    (t.add key answer).attempted = t.attempted + 1 := by
  cases answer <;> rfl

@[simp] theorem refused_add_ok : (t.add key (.ok ())).refused = t.refused := rfl

@[simp] theorem refused_add_error (error : StoreError) :
    (t.add key (.error error)).refused = ⟨key, error⟩ :: t.refused := rfl

@[simp] theorem attempted_finish : t.finish.attempted = t.attempted := rfl

@[simp] theorem failures_finish : t.finish.failures = t.refused.reverse := rfl

end Tally

namespace Table

variable {τ : Type} [Store τ]

/-- Writes entries one after the other and tallies the answers. -/
def writeEntries (store : τ) (tally : Tally) : List Entry → WriteSummary × τ
  | [] => (tally.finish, store)
  | e :: rest =>
      let (answer, store) := Store.put store e.key.toBytes e.value.toBytes
      writeEntries store (tally.add e.key answer) rest

/-- Writes every entry once, in table order, to a store of the right layout. -/
def writeTo (t : Table) (store : τ) : Except CompileError WriteSummary × τ :=
  match Store.checkLayout store with
  | .error e => (.error (.invalidStore e), store)
  | .ok () =>
      let (summary, store) := writeEntries store {} t.entries
      (.ok summary, store)

variable {σ : Type} [DecidableEq σ] [Hashable σ]

/-- Plans a table and writes it; the store is checked first. -/
def compile (a : Automaton σ) (maxStates : Nat) (store : τ) :
    Except CompileError WriteSummary × τ :=
  match Store.checkLayout store with
  | .error e => (.error (.invalidStore e), store)
  | .ok () =>
      match plan a maxStates with
      | .error e => (.error e, store)
      | .ok table => table.writeTo store

end Table

end TransitionMap
