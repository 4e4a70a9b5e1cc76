import TransitionMap.Automaton

/-!
# Complete machines with delayed matches

A machine reads bytes and at last the end of the input, and goes from every state on every symbol to
some state. A match is reported one symbol late: a state is a match state when a match ended in
front of the symbol that led to it. Dead states are those that nothing leads out of.

`Machine.pruned` turns a machine into an automaton: a state accepts when the end of the input leads
to a match state, and transitions to some states are left out, such as those to states that are
spent.
-/

namespace TransitionMap

/-- A byte, or `none` for the end of the input. -/
abbrev Symbol := Option UInt8

def allBytes : List UInt8 := (List.range 256).map UInt8.ofNat

structure Machine (σ : Type) where
  start : σ
  next : σ → Symbol → σ
  isMatch : σ → Bool
  isDead : σ → Bool

namespace Machine

variable {σ : Type}

/-- The state after some bytes. -/
def after (m : Machine σ) (s : σ) (word : Bytes) : σ := word.foldl (fun s b => m.next s (some b)) s

/-- Whether a match would end here if the input did. -/
def accepting (m : Machine σ) (s : σ) : Bool := m.isMatch (m.next s none)

/-- Whether every byte leads to a dead state. -/
def isDeadEnd (m : Machine σ) (s : σ) : Bool := allBytes.all fun b => m.isDead (m.next s (some b))

/-- Whether a state is dead or does nothing but report an earlier match. -/
def isSpent (m : Machine σ) (s : σ) : Bool := m.isDead s || (!m.accepting s && m.isDeadEnd s)

/-- The transitions to states that are not on `dropped`, in the order of the bytes. -/
def transitions (m : Machine σ) (dropped : σ → Bool) (s : σ) : List (UInt8 × σ) :=
  allBytes.filterMap fun b =>
    let t := m.next s (some b)
    if dropped t then none else some (b, t)

theorem mem_transitions {m : Machine σ} {dropped : σ → Bool} {s : σ} {t : UInt8 × σ}
    (h : t ∈ m.transitions dropped s) : t.2 = m.next s (some t.1) := by
  simp only [transitions, List.mem_filterMap] at h
  obtain ⟨b, _, hb⟩ := h
  split at hb
  · simp at hb
  · obtain rfl := Option.some.inj hb
    rfl

/-- The automaton of a machine whose states are all among `states`, without the transitions to the
states on `dropped`. -/
def pruned (m : Machine σ) (dropped : σ → Bool) (states : List σ) (start_mem : m.start ∈ states)
    (closed : ∀ s ∈ states, ∀ x, m.next s x ∈ states) (describe : σ → String) : Automaton σ where
  start := m.start
  transitions := m.transitions dropped
  accepting := m.accepting
  describe := describe
  bound := states.length
  bounded := ⟨states, Nat.le_refl _, start_mem, fun s hs t ht => by
    rw [mem_transitions ht]
    exact closed s hs _⟩

end Machine

end TransitionMap
