import Mathlib
import TransitionMap.Automaton.Arena
import TransitionMap.Proofs.Planning
import TransitionMap.Proofs.Walks
import TransitionMap.Proofs.Writing

/-!
# The consumer of a table walks the automaton

A consumer knows the number of its current state and the pairs of the store, nothing else: for each
byte it looks up the key of its state and the byte, stops if there is none, and goes on with the
state of the value.

* `Table.Holds.read?_eq`: what the consumer finds on one byte, in terms of the automaton's step and
  of the writes that failed;
* `Table.Holds.follows`: along a word it visits the states of the automaton's own walk and stops
  early only at a transition whose write has failed;
* `Table.compile_walk`: so it is after every compilation into an empty store.
-/

namespace TransitionMap

open LawfulStore

/-! ## The consumer -/

namespace Consumer

/-- What the consumer in state `id` finds on a byte. -/
def read? (get? : Bytes → Option Bytes) (id : StateId) (b : UInt8) : Option Value :=
  (get? (Key.toBytes { state := id, unit := b, padding := 0 })).bind Value.read?

/-- The values that the consumer finds on the bytes of a word, up to the first byte where it finds
none. -/
def walk (get? : Bytes → Option Bytes) (id : StateId) : Bytes → List Value
  | [] => []
  | b :: rest =>
      match read? get? id b with
      | none => []
      | some v => v :: walk get? v.state rest

end Consumer

/-! ## The consumer's walk -/

theorem Automaton.accepting_value {σ : Type} [DecidableEq σ] [Hashable σ] {a : Automaton σ}
    (s : σ) :
    (a.value s).accepting = a.accepting s := by
  cases h : a.accepting s <;> simp [Automaton.value, Value.accepting, h]

namespace Table

variable {σ : Type} [DecidableEq σ] [Hashable σ] {a : Automaton σ}

/-- The pairs of a store after a compilation: under the key of each transition of the reachable
states stands its value, unless the write has failed, and there is nothing else. -/
structure Holds (a : Automaton σ) (failures : List WriteFailure) (get? : Bytes → Option Bytes) :
    Prop where
  few : a.enumerate.length ≤ StateId.count
  stored : ∀ e ∈ a.entries, e.key ∉ failures.map WriteFailure.key →
    get? e.key.toBytes = some e.value.toBytes
  absent : ∀ k, (∀ e ∈ a.entries, e.key ∉ failures.map WriteFailure.key → e.key.toBytes ≠ k) →
    get? k = none

/-- The key of a byte in a state. -/
abbrev keyAt (a : Automaton σ) (s : σ) (b : UInt8) : Key :=
  { state := a.number s, unit := b, padding := 0 }

theorem mem_entries_of_step? {s t : σ} (hs : a.Reaches s) {b : UInt8}
    (hstep : a.step? s b = some t) : ⟨keyAt a s b, a.value t⟩ ∈ a.entries :=
  Automaton.mem_entries.2 ⟨s, hs, (b, t), Automaton.step?_eq_some hstep, rfl⟩

theorem key_ne_keyAt_of_step? (few : a.enumerate.length ≤ StateId.count) {s : σ}
    (hs : a.Reaches s) {b : UInt8} (hstep : a.step? s b = none) :
    ∀ e ∈ a.entries, e.key ≠ keyAt a s b := by
  intro e he hkey
  obtain ⟨r, hr, t, ht, rfl⟩ := Automaton.mem_entries.1 he
  obtain rfl : r = s := Automaton.number_injective few ((a.mem_enumerate_iff r).2 hr)
    ((a.mem_enumerate_iff s).2 hs) (congrArg Key.state hkey)
  exact Automaton.step?_eq_none_iff.1 hstep t ht (congrArg Key.unit hkey)

namespace Holds

variable {failures : List WriteFailure} {get? : Bytes → Option Bytes}

theorem read?_eq (h : Holds a failures get?) {s : σ} (hs : a.Reaches s) (b : UInt8) :
    Consumer.read? get? (a.number s) b =
      if keyAt a s b ∈ failures.map WriteFailure.key then none else (a.step? s b).map a.value := by
  split
  case isTrue hfailed =>
    have hnone : get? (keyAt a s b).toBytes = none := by
      refine h.absent _ fun e _ hnot hbytes => hnot ?_
      rw [Key.toBytes_injective hbytes]
      exact hfailed
    rw [Consumer.read?, hnone]
    rfl
  case isFalse hkept =>
    cases hstep : a.step? s b with
    | none =>
      have hnone : get? (keyAt a s b).toBytes = none := by
        refine h.absent _ fun e he _ hbytes => ?_
        exact key_ne_keyAt_of_step? h.few hs hstep e he (Key.toBytes_injective hbytes)
      rw [Consumer.read?, hnone]
      rfl
    | some t =>
      have hentry := mem_entries_of_step? hs hstep
      have hsome : get? (keyAt a s b).toBytes = some (a.value t).toBytes := h.stored _ hentry hkept
      rw [Consumer.read?, hsome]
      exact Value.read?_toBytes _

/-- The values found stand for the states of the automaton's walk, as far as they go; where they end
before the word does, there is no transition or its write has failed. -/
theorem follows (h : Holds a failures get?) {s : σ} (hs : a.Reaches s) (word : Bytes) :
    let read := Consumer.walk get? (a.number s) word
    read = ((a.walkFrom s word).take read.length).map a.value ∧
      ∀ b, word[read.length]? = some b → ∃ r, (s :: a.walkFrom s word)[read.length]? = some r ∧
        (a.step? r b = none ∨ keyAt a r b ∈ failures.map WriteFailure.key) := by
  induction word generalizing s with
  | nil => simp [Consumer.walk]
  | cons b rest ih =>
    rw [Consumer.walk, h.read?_eq hs b, Automaton.walkFrom]
    by_cases hfailed : keyAt a s b ∈ failures.map WriteFailure.key
    · rw [if_pos hfailed]
      refine ⟨rfl, fun c hc => ⟨s, rfl, .inr ?_⟩⟩
      obtain rfl : b = c := Option.some.inj hc
      exact hfailed
    · rw [if_neg hfailed]
      cases hstep : a.step? s b with
      | none =>
        refine ⟨rfl, fun c hc => ⟨s, rfl, .inl ?_⟩⟩
        obtain rfl : b = c := Option.some.inj hc
        exact hstep
      | some t =>
        obtain ⟨hvisits, hstops⟩ := ih (hs.step hstep)
        refine ⟨?_, fun c hc => ?_⟩
        · rw [Option.map_some, List.length_cons, List.take_succ_cons, List.map_cons]
          exact congrArg _ hvisits
        · rw [Option.map_some, List.length_cons, List.getElem?_cons_succ] at hc ⊢
          exact hstops c hc

/-- Without failures the consumer goes as far as the automaton does. -/
theorem walk_eq (h : Holds a [] get?) {s : σ} (hs : a.Reaches s) (word : Bytes) :
    Consumer.walk get? (a.number s) word = (a.walkFrom s word).map a.value := by
  induction word generalizing s with
  | nil => rfl
  | cons b rest ih =>
    rw [Consumer.walk, h.read?_eq hs b, if_neg (by simp), Automaton.walkFrom]
    cases hstep : a.step? s b with
    | none => rfl
    | some t => exact congrArg _ (ih (hs.step hstep))

end Holds

variable {τ : Type} [Store τ] [LawfulStore τ]

theorem holds_of_compile {maxStates : Nat} {store store' : τ} {summary : WriteSummary}
    (empty : ∀ key, get? store key = none)
    (compiled : compile a maxStates store = (.ok summary, store')) :
    Holds a summary.failures (get? store') ∧
      ∃ ids, StateIds.ofSet a.reachable maxStates = .ok ids ∧
        ∀ s, a.Reaches s → ids.id? s = some (a.number s) := by
  obtain ⟨table, hplan, hwrite⟩ := compile_eq_ok compiled
  cases (plan_eq_iff a maxStates _).1 hplan with
  | table few deterministic =>
    obtain ⟨ids, hids, hset, -⟩ := plan_of_few few
    have hsize : a.enumerate.length ≤ StateId.count := by
      rw [a.length_enumerate]
      exact Nat.le_trans few (Nat.min_le_right _ _)
    have hkeys := Automaton.nodup_keys hsize fun s hs =>
      deterministic s ((a.mem_enumerate_iff s).1 hs)
    obtain ⟨failures, hfailures, written⟩ := written_writeEntries store {} hkeys
    rw [hwrite] at hfailures written
    obtain rfl : summary.failures = failures := hfailures
    refine ⟨⟨hsize, written.get?_stored, fun k hk => ?_⟩, ids, hset,
      fun s hs => id?_reachable hids hs⟩
    rw [written.get?_kept k hk, empty]

/-- After a compilation into an empty store the consumer's walk is the automaton's walk in the
numbers of the states, up to the first transition whose write has failed. -/
theorem compile_walk (a : Automaton σ) (maxStates : Nat) (store store' : τ) (summary : WriteSummary)
    (empty : ∀ key, get? store key = none)
    (compiled : compile a maxStates store = (.ok summary, store')) :
    (∃ ids, StateIds.ofSet a.reachable maxStates = .ok ids ∧
      ∀ s, a.Reaches s → ids.id? s = some (a.number s)) ∧
    a.number a.start = 0 ∧
    ∀ word : Bytes,
      let read := Consumer.walk (get? store') 0 word
      let visited := a.walkFrom a.start word
      read = (visited.take read.length).map
          (fun s => { finalState := if a.accepting s then 1 else 0, state := a.number s }) ∧
        (∀ b, word[read.length]? = some b → ∃ s, (a.start :: visited)[read.length]? = some s ∧
          (a.step? s b = none ∨
            ∃ f ∈ summary.failures, f.key = { state := a.number s, unit := b, padding := 0 })) ∧
        (summary.isComplete = true → read.length = visited.length ∧
          (word ≠ [] → (a.accepts word = true ↔
            read.length = word.length ∧ read.getLast?.any Value.accepting = true))) := by
  obtain ⟨holds, hids⟩ := holds_of_compile empty compiled
  refine ⟨hids, a.number_start, fun word => ?_⟩
  have hstart : a.Reaches a.start := .refl
  obtain ⟨hvisits, hstops⟩ := holds.follows hstart word
  rw [a.number_start] at hvisits hstops
  refine ⟨hvisits, fun b hb => ?_, fun hcomplete => ?_⟩
  · obtain ⟨r, hr, hstop⟩ := hstops b hb
    exact ⟨r, hr, hstop.imp id List.mem_map.1⟩
  · rw [List.isEmpty_iff.1 hcomplete] at holds
    have hwalk := holds.walk_eq hstart word
    rw [a.number_start] at hwalk
    refine ⟨by rw [hwalk, List.length_map], fun hne => ?_⟩
    rw [hwalk, List.length_map, Automaton.accepts_iff_of_ne_nil hne, List.getLast?_map,
      Option.any_map]
    simp only [Automaton.accepting_value]

/-- The store refuses the second of three writes, the one for the byte 98. -/
theorem compile_walk_second_refused :
    let a := (Arena.mk #[⟨none, false, [(97, 1), (98, 7)]⟩, ⟨none, true, [(97, 0)]⟩] 0).toAutomaton
    let written := compile a 10 (FaultyStore.mk .new [2] 0)
    written.1 = .ok ⟨3, [⟨⟨0, 98, 0⟩, FaultyStore.fault⟩]⟩ ∧
      ∀ word, Consumer.walk (get? written.2) 0 word =
        ((a.walkFrom a.start word).take (Consumer.walk (get? written.2) 0 word).length).map
          fun s => { finalState := if a.accepting s then 1 else 0, state := a.number s } := by
  intro a written
  have compiled : written.1 = .ok ⟨3, [⟨⟨0, 98, 0⟩, FaultyStore.fault⟩]⟩ := by
    simp only [written, a]
    cbv
  have empty : ∀ key, get? (FaultyStore.mk .new [2] 0) key = none := fun key => by
    simp [LawfulStore.get?, MemoryStore.get?, MemoryStore.new]
  refine ⟨compiled, fun word => ?_⟩
  exact ((compile_walk a 10 _ written.2 _ empty (Prod.ext compiled rfl)).2.2 word).1

end Table

end TransitionMap
