import TransitionMap.Bytes
import TransitionMap.OrderedSet

/-!
# Automata over bytes

An automaton has a start state, a list of transitions on bytes for every state, accepting states,
and a name for each state in messages. Nothing here asks it to be deterministic: a state may have
several transitions on one byte, and a walk takes the first. From the start only finitely many
states can be reached, and `bound` says how many at most.
-/

namespace TransitionMap

structure Automaton (σ : Type) where
  start : σ
  /-- The outgoing transitions of a state, in the state's own order. -/
  transitions : σ → List (UInt8 × σ)
  accepting : σ → Bool
  /-- The name of a state in messages. -/
  describe : σ → String
  bound : Nat
  /-- Some list of at most `bound` states holds the start and is closed under transitions. -/
  bounded : ∃ support : List σ, support.length ≤ bound ∧ start ∈ support ∧
    ∀ s ∈ support, ∀ t ∈ transitions s, t.2 ∈ support

namespace Automaton

variable {σ : Type}

def targets (a : Automaton σ) (s : σ) : List σ := (a.transitions s).map Prod.snd

/-- The state after one byte, by the first transition on it. -/
def step? (a : Automaton σ) (s : σ) (byte : UInt8) : Option σ :=
  ((a.transitions s).find? (·.1 == byte)).map Prod.snd

/-- The states after each byte of a word, up to the first byte without a transition. -/
def walkFrom (a : Automaton σ) (s : σ) : Bytes → List σ
  | [] => []
  | byte :: rest =>
      match a.step? s byte with
      | none => []
      | some t => t :: walkFrom a t rest

/-- The state after a whole word, if no byte of it lacks a transition. -/
def run? (a : Automaton σ) (s : σ) : Bytes → Option σ
  | [] => some s
  | byte :: rest => (a.step? s byte).bind fun t => run? a t rest

/-- A word is accepted when the walk consumes it and ends in an accepting state. -/
def accepts (a : Automaton σ) (word : Bytes) : Bool := (a.run? a.start word).any a.accepting

variable [DecidableEq σ] [Hashable σ]

/-- The states that can be reached from the start, the start first, in breadth-first order. -/
def reachable (a : Automaton σ) : OrderedSet σ := OrderedSet.reachable a.targets a.bound a.start

def enumerate (a : Automaton σ) : List σ := a.reachable.toList

end Automaton

end TransitionMap
