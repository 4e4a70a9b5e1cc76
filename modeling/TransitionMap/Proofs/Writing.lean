import TransitionMap.Proofs.Records
import TransitionMap.Proofs.Refusing
import TransitionMap.Store.Faulty
import TransitionMap.Table

/-!
# What writing leaves in a store

A store is *lawful* when it can be seen as a map from byte strings to byte strings, where a write
that succeeds sets the value of its key and a write that fails changes no value. Which writes fail
is left open: the store decides it by its own state. Writing entries with distinct keys to such a
store leaves the value of each entry under its key, unless the write is listed as a failure, and
touches no other key (`written_writeEntries`).
-/

namespace TransitionMap

/-- A store that keeps a map. -/
class LawfulStore (τ : Type) [Store τ] where
  get? : τ → Bytes → Option Bytes
  get?_put : ∀ (s : τ) (key value k : Bytes), get? (Store.put s key value).2 k =
    if (Store.put s key value).1.isOk = true ∧ k = key then some value else get? s k

namespace MemoryStore

theorem get?_withLayout (keySize valueSize : Nat) (key : Bytes) :
    (withLayout keySize valueSize).get? key = none := by
  simp [withLayout, get?]

theorem get?_new (key : Bytes) : new.get? key = none := get?_withLayout 4 4 key

theorem get?_put (s : MemoryStore) (key value k : Bytes) :
    (s.put key value).2.get? k =
      if (s.put key value).1.isOk = true ∧ k = key then some value else s.get? k := by
  rcases s.refuses_or_taken key value with ⟨e, he⟩ | taken
  · simp [put_of_refuses he, get?, Except.isOk, Except.toBool]
  · rw [put_of_taken taken]
    by_cases h : k = key
    · subst h
      simp [get?, Except.isOk, Except.toBool]
    · simp [get?, h, Std.TreeMap.getElem?_insert, Ne.symm h]

instance : LawfulStore MemoryStore := ⟨MemoryStore.get?, get?_put⟩

end MemoryStore

namespace FaultyStore

theorem get?_put (s : FaultyStore) (key value k : Bytes) :
    (s.put key value).2.inner.get? k =
      if (s.put key value).1.isOk = true ∧ k = key then some value else s.inner.get? k := by
  simp only [put]
  split
  · simp [Except.isOk, Except.toBool]
  · exact s.inner.get?_put key value k

instance : LawfulStore FaultyStore := ⟨fun s => s.inner.get?, get?_put⟩

end FaultyStore

open LawfulStore

namespace Table

variable {τ : Type} [Store τ]

/-- A compilation that answers with a summary has planned a table and written it. -/
theorem compile_eq_ok {σ : Type} [DecidableEq σ] [Hashable σ] {a : Automaton σ} {maxStates : Nat}
    {store store' : τ} {summary : WriteSummary}
    (h : compile a maxStates store = (.ok summary, store')) :
    ∃ table, plan a maxStates = .ok table ∧
      writeEntries store {} table.entries = (summary, store') := by
  unfold compile at h
  cases hcheck : Store.checkLayout store with
  | error e => simp [hcheck] at h
  | ok =>
    cases hplan : plan a maxStates with
    | error e => simp [hcheck, hplan] at h
    | ok table =>
      simp only [hcheck, hplan, writeTo, Prod.mk.injEq, Except.ok.injEq] at h
      obtain ⟨rfl, rfl⟩ := h
      exact ⟨table, rfl, rfl⟩

variable [LawfulStore τ]

/-- The failures and the store that writing `entries` ends with, told entry by entry. -/
structure Written (store : τ) (entries : List Entry) (failures : List WriteFailure) (store' : τ) :
    Prop where
  /-- Failures are of entries. -/
  failed_mem : ∀ f ∈ failures, f.key ∈ entries.map Entry.key
  get?_stored : ∀ e ∈ entries, e.key ∉ failures.map WriteFailure.key →
    get? store' e.key.toBytes = some e.value.toBytes
  get?_kept : ∀ k, (∀ e ∈ entries, e.key ∉ failures.map WriteFailure.key → e.key.toBytes ≠ k) →
    get? store' k = get? store k

/-- Entries of other keys leave the value of a key alone. -/
theorem Written.get?_of_notMem {store store' : τ} {entries : List Entry}
    {failures : List WriteFailure}
    (h : Written store entries failures store') {key : Key} (hkey : key ∉ entries.map Entry.key) :
    get? store' key.toBytes = get? store key.toBytes :=
  h.get?_kept _ fun _ he _ hbytes => hkey (Key.toBytes_injective hbytes ▸ List.mem_map_of_mem he)

variable {store store' store'' : τ} {e : Entry} {rest : List Entry} {failures : List WriteFailure}

theorem Written.cons_ok (hfresh : e.key ∉ rest.map Entry.key)
    (hput : Store.put store e.key.toBytes e.value.toBytes = (.ok (), store'))
    (h : Written store' rest failures store'') : Written store (e :: rest) failures store'' where
  failed_mem f hf := List.mem_cons_of_mem _ (h.failed_mem f hf)
  get?_stored f hf hnot := by
    rcases List.mem_cons.1 hf with rfl | hf
    · have hset := get?_put store f.key.toBytes f.value.toBytes f.key.toBytes
      rw [hput, if_pos ⟨rfl, rfl⟩] at hset
      rw [h.get?_of_notMem hfresh, hset]
    · exact h.get?_stored f hf hnot
  get?_kept k hk := by
    have hne : e.key.toBytes ≠ k := by
      refine hk e List.mem_cons_self fun hmem => hfresh ?_
      obtain ⟨f, hf, hfe⟩ := List.mem_map.1 hmem
      exact hfe ▸ h.failed_mem f hf
    have hset := get?_put store e.key.toBytes e.value.toBytes k
    rw [hput, if_neg fun hand => hne hand.2.symm] at hset
    rw [h.get?_kept k fun f hf => hk f (List.mem_cons_of_mem e hf), hset]

theorem Written.cons_error {error : StoreError} (hfresh : e.key ∉ rest.map Entry.key)
    (hput : Store.put store e.key.toBytes e.value.toBytes = (.error error, store'))
    (h : Written store' rest failures store'') :
    Written store (e :: rest) (⟨e.key, error⟩ :: failures) store'' where
  failed_mem f hf := by
    rcases List.mem_cons.1 hf with rfl | hf
    · exact List.mem_cons_self
    · exact List.mem_cons_of_mem _ (h.failed_mem f hf)
  get?_stored f hf hnot := by
    obtain ⟨hne, hnot⟩ := not_or.1 (mt List.mem_cons.2 hnot)
    rcases List.mem_cons.1 hf with rfl | hf
    · exact absurd rfl hne
    · exact h.get?_stored f hf hnot
  get?_kept k hk := by
    have hset := get?_put store e.key.toBytes e.value.toBytes k
    rw [hput, if_neg fun hand => Bool.false_ne_true hand.1] at hset
    rw [h.get?_kept k fun f hf hnot => hk f (List.mem_cons_of_mem e hf) fun hmem => ?_, hset]
    rcases List.mem_cons.1 hmem with heq | hmem
    · exact hfresh ((show f.key = e.key from heq) ▸ List.mem_map_of_mem hf)
    · exact hnot hmem

theorem written_writeEntries (store : τ) (tally : Tally) {entries : List Entry}
    (hkeys : (entries.map Entry.key).Nodup) :
    ∃ failures,
      (writeEntries store tally entries).1.failures = tally.refused.reverse ++ failures ∧
      Written store entries failures (writeEntries store tally entries).2 := by
  induction entries generalizing store tally with
  | nil =>
    exact ⟨[], by simp [writeEntries], by simp, by simp, by simp [writeEntries]⟩
  | cons e rest ih =>
    obtain ⟨hfresh, hkeys⟩ := List.nodup_cons.1 hkeys
    rw [writeEntries]
    cases hput : Store.put store e.key.toBytes e.value.toBytes with
    | mk result store' =>
    cases result with
    | ok =>
      obtain ⟨failures, hfst, hwritten⟩ := ih store' (tally.add e.key (.ok ())) hkeys
      exact ⟨failures, hfst, hwritten.cons_ok hfresh hput⟩
    | error error =>
      obtain ⟨failures, hfst, hwritten⟩ := ih store' (tally.add e.key (.error error)) hkeys
      exact ⟨⟨e.key, error⟩ :: failures, by simp [hfst], hwritten.cons_error hfresh hput⟩

end Table

end TransitionMap
