import TransitionMap.Proofs.Accepting
import TransitionMap.Proofs.Consuming

/-!
# Compiling over an older table

A store is only ever written, so what an older table has put under keys that a newer one does not
use stays there. The consumer walks the newer automaton as long as that goes on
(`Table.HoldsOver.walk_append`), and where it has no transition it is led on by the older table, if
that has the key (`Table.HoldsOver.walk_cons_eq_nil_iff`). So the newer table is the one that the
consumer sees if and only if it uses all keys of the older one that belong to its states
(`Table.recompile_walk`).
-/

namespace TransitionMap

open LawfulStore

namespace Automaton

variable {σ : Type} {a : Automaton σ}

/-! ## Words that lead to states -/

theorem step?_of_mem {s t : σ} {c : UInt8} (hdet : a.Deterministic s)
    (ht : (c, t) ∈ a.transitions s) : a.step? s c = some t := by
  cases hstep : a.step? s c with
  | none => exact absurd rfl (step?_eq_none_iff.1 hstep (c, t) ht)
  | some u =>
    have hsame : (c, u) = (c, t) := List.inj_on_of_nodup_map hdet (step?_eq_some hstep) ht rfl
    rw [(Prod.mk.inj hsame).2]

theorem exists_run?_eq_some {s : σ} (hdet : ∀ r, a.Reaches r → a.Deterministic r)
    (hs : a.Reaches s) : ∃ word, a.run? a.start word = some s := by
  induction hs with
  | refl => exact ⟨[], rfl⟩
  | @tail r s hr hstep ih =>
    obtain ⟨word, hrun⟩ := ih
    obtain ⟨⟨c, s⟩, ht, rfl⟩ := List.mem_map.1 hstep
    have hlast : a.run? r [c] = some s := by
      rw [run?, step?_of_mem (hdet r hr) ht]
      rfl
    exact ⟨word ++ [c], by rw [run?_append, hrun]; exact hlast⟩

theorem Reaches.run? {s r : σ} {word : Bytes} (hs : a.Reaches s) (hrun : a.run? s word = some r) :
    a.Reaches r := by
  induction word generalizing s with
  | nil => exact Option.some.inj hrun ▸ hs
  | cons c word ih =>
    rw [Automaton.run?] at hrun
    obtain ⟨t, hstep, hrun⟩ := Option.bind_eq_some_iff.1 hrun
    exact ih (hs.step hstep) hrun

theorem walkFrom_append {s r : σ} {word : Bytes} (hrun : a.run? s word = some r) (rest : Bytes) :
    a.walkFrom s (word ++ rest) = a.walkFrom s word ++ a.walkFrom r rest := by
  induction word generalizing s with
  | nil =>
    obtain rfl := Option.some.inj hrun
    rfl
  | cons c word ih =>
    rw [run?] at hrun
    obtain ⟨t, hstep, hrun⟩ := Option.bind_eq_some_iff.1 hrun
    rw [List.cons_append, walkFrom, walkFrom, hstep]
    exact congrArg (t :: ·) (ih hrun)

/-- A walk consumes a word or is stuck in front of one of its bytes. -/
theorem consumed_or_stuck (a : Automaton σ) (s : σ) (word : Bytes) :
    (∃ r, a.run? s word = some r) ∨
      ∃ u c rest r, word = u ++ c :: rest ∧ a.run? s u = some r ∧ a.step? r c = none := by
  induction word generalizing s with
  | nil => exact .inl ⟨s, rfl⟩
  | cons c word ih =>
    cases hstep : a.step? s c with
    | none => exact .inr ⟨[], c, word, s, rfl, rfl, hstep⟩
    | some t =>
      have hrun : ∀ u, a.run? s (c :: u) = a.run? t u := fun u => by
        rw [run?, hstep, Option.bind_some]
      rcases ih t with ⟨r, hr⟩ | ⟨u, d, rest, r, rfl, hr, hstuck⟩
      · exact .inl ⟨r, (hrun _).trans hr⟩
      · exact .inr ⟨c :: u, d, rest, r, rfl, (hrun _).trans hr, hstuck⟩

end Automaton

namespace Table

variable {τ : Type} [DecidableEq τ] [Hashable τ] {b : Automaton τ}

/-! ## Pairs over older pairs -/

/-- The pairs of a store after a compilation over older pairs: the older ones are left where the
automaton has no entry. -/
structure HoldsOver (b : Automaton τ) (older get? : Bytes → Option Bytes) : Prop where
  few : b.enumerate.length ≤ StateId.count
  stored : ∀ e ∈ b.entries, get? e.key.toBytes = some e.value.toBytes
  kept : ∀ k, (∀ e ∈ b.entries, e.key.toBytes ≠ k) → get? k = older k

namespace HoldsOver

variable {older get? : Bytes → Option Bytes} (h : HoldsOver b older get?)
include h

theorem read?_of_step? {s t : τ} (hs : b.Reaches s) {c : UInt8} (hstep : b.step? s c = some t) :
    Consumer.read? get? (b.number s) c = some (b.value t) := by
  have hsome : get? (keyAt b s c).toBytes = some (b.value t).toBytes :=
    h.stored _ (mem_entries_of_step? hs hstep)
  rw [Consumer.read?, hsome]
  exact Value.read?_toBytes _

theorem read?_of_stuck {s : τ} (hs : b.Reaches s) {c : UInt8} (hstep : b.step? s c = none) :
    Consumer.read? get? (b.number s) c = Consumer.read? older (b.number s) c := by
  have hkept : get? (keyAt b s c).toBytes = older (keyAt b s c).toBytes := by
    refine h.kept _ fun e he hbytes => ?_
    exact key_ne_keyAt_of_step? h.few hs hstep e he (Key.toBytes_injective hbytes)
  rw [Consumer.read?, Consumer.read?, hkept]

/-- The consumer goes along with the walk of the automaton as long as that is not stuck. -/
theorem walk_append {s r : τ} (hs : b.Reaches s) {word : Bytes} (hrun : b.run? s word = some r)
    (rest : Bytes) :
    Consumer.walk get? (b.number s) (word ++ rest) =
      (b.walkFrom s word).map b.value ++ Consumer.walk get? (b.number r) rest := by
  induction word generalizing s with
  | nil =>
    obtain rfl := Option.some.inj hrun
    rfl
  | cons c word ih =>
    rw [Automaton.run?] at hrun
    obtain ⟨t, hstep, hrun⟩ := Option.bind_eq_some_iff.1 hrun
    rw [List.cons_append, Consumer.walk, h.read?_of_step? hs hstep, Automaton.walkFrom, hstep]
    exact congrArg (b.value t :: ·) (ih (hs.step hstep) hrun)

theorem walk_eq {s r : τ} (hs : b.Reaches s) {word : Bytes} (hrun : b.run? s word = some r) :
    Consumer.walk get? (b.number s) word = (b.walkFrom s word).map b.value := by
  have happend := h.walk_append hs hrun []
  rwa [List.append_nil, Consumer.walk, List.append_nil] at happend

/-- Where the automaton has no transition the consumer stops unless it finds an older pair. -/
theorem walk_cons_eq_nil_iff {s : τ} (hs : b.Reaches s) {c : UInt8} (hstep : b.step? s c = none)
    (rest : Bytes) :
    Consumer.walk get? (b.number s) (c :: rest) = [] ↔
      Consumer.read? older (b.number s) c = none := by
  rw [Consumer.walk, h.read?_of_stuck hs hstep]
  cases Consumer.read? older (b.number s) c <;> simp

theorem walk_append_cons_eq_iff {s r : τ} (hs : b.Reaches s) {word : Bytes}
    (hrun : b.run? s word = some r) {c : UInt8} (hstep : b.step? r c = none) (rest : Bytes) :
    Consumer.walk get? (b.number s) (word ++ c :: rest) = (b.walkFrom s word).map b.value ↔
      Consumer.read? older (b.number r) c = none := by
  rw [h.walk_append hs hrun, List.append_right_eq_self, h.walk_cons_eq_nil_iff (hs.run? hrun) hstep]

end HoldsOver

variable {σ : Type} [DecidableEq σ] [Hashable σ] {a : Automaton σ}

/-- The consumer finds nothing where a table has no entry. -/
theorem Holds.read?_eq_none_iff {get? : Bytes → Option Bytes} (h : Holds a [] get?) (id : StateId)
    (c : UInt8) :
    Consumer.read? get? id c = none ↔ ∀ e ∈ a.entries, e.key ≠ { state := id, unit := c } := by
  rw [Consumer.read?]
  constructor
  · intro hnone e he hkey
    rw [← hkey, h.stored e he (by simp), Option.bind_some, Value.read?_toBytes] at hnone
    cases hnone
  · intro hne
    rw [h.absent _ fun e he _ hbytes => hne e he (Key.toBytes_injective hbytes)]
    rfl

/-- What an older table has for the states of a newer one under keys that this does not use. -/
def Leftover (older newer : Table) (e : Entry) : Prop :=
  e ∈ older.entries ∧ e.key.state.toNat < newer.stateCount ∧ e.key ∉ newer.entries.map Entry.key

/-- An entry that is left over belongs to a transition that the newer automaton does not have. -/
theorem Leftover.exists_stuck {older : Table} {e : Entry} (hpadding : e.key.padding = 0)
    (h : Leftover older ⟨b.entries, b.enumerate.length⟩ e) :
    ∃ s, b.Reaches s ∧ b.step? s e.key.unit = none ∧ e.key = keyAt b s e.key.unit := by
  obtain ⟨-, hlt, hunused⟩ := h
  have hnumber : b.number b.enumerate[e.key.state.toNat] = e.key.state := by
    rw [Automaton.number, b.nodup_enumerate.idxOf_getElem, UInt16.ofNat_toNat]
  have hreach := (b.mem_enumerate_iff _).1 (List.getElem_mem hlt)
  have hkey : e.key = keyAt b b.enumerate[e.key.state.toNat] e.key.unit := by
    rw [keyAt, hnumber, ← hpadding]
  refine ⟨_, hreach, ?_, hkey⟩
  by_contra hstep
  obtain ⟨t, ht⟩ := Option.ne_none_iff_exists'.1 hstep
  have hmem := List.mem_map_of_mem (f := Entry.key) (mem_entries_of_step? hreach ht)
  rw [← hkey] at hmem
  exact hunused hmem

theorem leftover_of_stuck {older : Table} {e : Entry} (few : b.enumerate.length ≤ StateId.count)
    (he : e ∈ older.entries) {s : τ} (hs : b.Reaches s) {c : UInt8} (hstep : b.step? s c = none)
    (hkey : e.key = keyAt b s c) : Leftover older ⟨b.entries, b.enumerate.length⟩ e := by
  refine ⟨he, ?_, fun hmem => ?_⟩
  · rw [hkey]
    exact Automaton.number_lt few hs
  · obtain ⟨f, hf, hsame⟩ := List.mem_map.1 hmem
    exact key_ne_keyAt_of_step? few hs hstep f hf (hsame.trans hkey)

/-- The consumer sees the newer table exactly if nothing of the older one is left over. -/
theorem HoldsOver.agrees_iff {older get? : Bytes → Option Bytes} (h : HoldsOver b older get?)
    (hdet : ∀ s, b.Reaches s → b.Deterministic s) (holds : Holds a [] older) :
    (∀ word, (Consumer.walk get? 0 word).map Value.accepting =
      (b.walkFrom b.start word).map b.accepting) ↔
        ∀ e, ¬ Leftover ⟨a.entries, a.enumerate.length⟩ ⟨b.entries, b.enumerate.length⟩ e := by
  have hstart : b.Reaches b.start := .refl
  have hvalues : ∀ l : List τ, (l.map b.value).map Value.accepting = l.map b.accepting := by
    intro l
    rw [List.map_map]
    exact List.map_congr_left fun s _ => Automaton.accepting_value s
  rw [← b.number_start]
  constructor
  · intro hagrees e hleft
    have hpadding : e.key.padding = 0 := by
      obtain ⟨r, -, t, -, rfl⟩ := Automaton.mem_entries.1 hleft.1
      rfl
    -- A word that leads to the state of the entry, with its byte behind it, tells the walks apart.
    obtain ⟨s, hs, hstep, hkey⟩ := hleft.exists_stuck hpadding
    obtain ⟨word, hrun⟩ := Automaton.exists_run?_eq_some hdet hs
    have hwalk : b.walkFrom b.start (word ++ [e.key.unit]) = b.walkFrom b.start word := by
      rw [Automaton.walkFrom_append hrun, Automaton.walkFrom, hstep, List.append_nil]
    have hlength := congrArg List.length (hagrees (word ++ [e.key.unit]))
    rw [h.walk_append hstart hrun, hwalk] at hlength
    simp only [List.length_map, List.length_append] at hlength
    have hnil : Consumer.walk get? (b.number s) [e.key.unit] = [] :=
      List.length_eq_zero_iff.1 (by omega)
    rw [h.walk_cons_eq_nil_iff hs hstep, holds.read?_eq_none_iff] at hnil
    exact hnil e hleft.1 hkey
  · intro hnone word
    rcases b.consumed_or_stuck b.start word with ⟨r, hrun⟩ | ⟨u, c, rest, r, rfl, hrun, hstep⟩
    · rw [h.walk_eq hstart hrun, hvalues]
    · have hr := hstart.run? hrun
      have hstops := (h.walk_append_cons_eq_iff hstart hrun hstep rest).2
        ((holds.read?_eq_none_iff _ c).2 fun e he hkey =>
          hnone e (leftover_of_stuck h.few he hr hstep hkey))
      rw [hstops, hvalues, Automaton.walkFrom_append hrun, Automaton.walkFrom, hstep,
        List.append_nil]

/-! ## Two compilations -/

/-- Two automata are compiled one after the other into an empty map without a limit. Both tables are
written completely. The consumer finds the states of the newer automaton's walk as long as that goes
on; where it is stuck, the consumer stops unless the older table has an entry under the key. So the
consumer agrees with the newer automaton on every word, on where it stops and on what accepts,
exactly if no entry of the older table is left over. -/
theorem recompile_walk (a : Automaton σ) (b : Automaton τ) (maxA maxB : Nat) (store : MemoryStore)
    (unlimited : store.maxEntries = none) (usable : Store.checkLayout store = .ok ())
    (empty : ∀ key, store.get? key = none) {older newer : Table}
    (plannedA : plan a maxA = .ok older) (plannedB : plan b maxB = .ok newer) :
    let first := compile a maxA store
    let second := compile b maxB first.2
    first.1 = .ok ⟨older.size, []⟩ ∧ second.1 = .ok ⟨newer.size, []⟩ ∧
    (∀ word s, b.run? b.start word = some s →
      Consumer.walk second.2.get? 0 word = (b.walkFrom b.start word).map b.value ∧
      ∀ c, b.step? s c = none → ∀ rest,
        (Consumer.walk second.2.get? 0 (word ++ c :: rest) =
            (b.walkFrom b.start word).map b.value ↔
          ∀ e ∈ older.entries, e.key ≠ { state := b.number s, unit := c, padding := 0 })) ∧
    ((∀ word, (Consumer.walk second.2.get? 0 word).map Value.accepting =
        (b.walkFrom b.start word).map b.accepting) ↔
      ∀ e, ¬ Leftover older newer e) := by
  have hkind := MemoryStore.unlimited_of_checkLayout unlimited usable
  obtain ⟨store', hfirst, hkind', written⟩ :=
    compile_of_accepting MemoryStore.accepting_unlimited hkind usable plannedA
  have usable' : Store.checkLayout store' = .ok () := hkind'.checkLayout_eq
  obtain ⟨store'', hsecond, -, written'⟩ :=
    compile_of_accepting MemoryStore.accepting_unlimited hkind' usable' plannedB
  obtain ⟨rfl, hsize, -⟩ := eq_of_plan_eq_ok plannedA
  obtain ⟨rfl, hsize', hdet'⟩ := eq_of_plan_eq_ok plannedB
  have holds : Holds a [] store'.get? := by
    refine ⟨hsize, fun e he => written.get?_stored e he, fun k hk => ?_⟩
    exact (written.get?_kept k hk).trans (empty k)
  have together : HoldsOver b store'.get? store''.get? :=
    ⟨hsize', fun e he => written'.get?_stored e he (by simp),
      fun k hk => written'.get?_kept k fun e he _ => hk e he⟩
  have hstart : b.Reaches b.start := .refl
  intro first second
  have htwice : second = (.ok ⟨b.entries.length, []⟩, store'') := by
    simp only [second, first, hfirst]
    exact hsecond
  rw [htwice]
  refine ⟨by simp only [first, hfirst], rfl, fun word s hrun => ⟨?_, fun c hstep rest => ?_⟩, ?_⟩
  · rw [← b.number_start]
    exact together.walk_eq hstart hrun
  · rw [← b.number_start, together.walk_append_cons_eq_iff hstart hrun hstep,
      holds.read?_eq_none_iff]
  · exact together.agrees_iff (fun s hs => hdet' s ((b.mem_enumerate_iff s).2 hs)) holds

/-- The newer automaton uses the one key of the older table again, for another target. -/
theorem recompile_walk_of_used_again :
    let a := (Arena.mk #[⟨none, false, [(98, 1)]⟩, ⟨none, true, []⟩] 0).toAutomaton
    let b := (Arena.mk #[⟨none, true, [(97, 1), (98, 0)]⟩, ⟨none, false, []⟩] 0).toAutomaton
    let second := compile b 10 (compile a 10 MemoryStore.new).2
    second.1 = .ok ⟨2, []⟩ ∧
      ∀ word, (Consumer.walk second.2.get? 0 word).map Value.accepting =
        (b.walkFrom b.start word).map b.accepting := by
  intro a b second
  have plannedA : plan a 10 = .ok ⟨[⟨⟨0, 98, 0⟩, ⟨1, 1⟩⟩], 2⟩ := by
    simp only [a]
    cbv
  have plannedB : plan b 10 = .ok ⟨[⟨⟨0, 97, 0⟩, ⟨0, 1⟩⟩, ⟨⟨0, 98, 0⟩, ⟨1, 0⟩⟩], 2⟩ := by
    simp only [b]
    cbv
  obtain ⟨-, hsecond, -, hagrees⟩ :=
    recompile_walk a b 10 10 .new rfl rfl MemoryStore.get?_new plannedA plannedB
  refine ⟨hsecond, hagrees.2 ?_⟩
  rintro e ⟨he, -, hunused⟩
  obtain rfl := List.mem_singleton.1 he
  exact hunused (by decide)

/-- The older automaton reads both bytes and the newer one only 97, but the consumer still reads
98 as well. -/
theorem consumer_reads_dropped_byte :
    let a := (Arena.mk #[⟨none, false, [(97, 1), (98, 1)]⟩, ⟨none, true, []⟩] 0).toAutomaton
    let b := (Arena.mk #[⟨none, false, [(97, 1)]⟩, ⟨none, true, []⟩] 0).toAutomaton
    let first := compile a 10 MemoryStore.new
    let second := compile b 10 first.2
    MemoryStore.new.maxEntries = none ∧ (∀ key, MemoryStore.new.get? key = none) ∧
      first.1 = .ok ⟨2, []⟩ ∧ second.1 = .ok ⟨1, []⟩ ∧
      Consumer.walk second.2.get? 0 [98] = [⟨1, 1⟩] ∧ b.walkFrom b.start [98] = [] := by
  intro a b first second
  refine ⟨rfl, MemoryStore.get?_new, ?_, ?_, ?_, ?_⟩ <;> simp only [first, second, a, b] <;> cbv

end Table

end TransitionMap
