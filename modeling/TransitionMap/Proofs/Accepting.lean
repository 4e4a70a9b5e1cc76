import TransitionMap.Proofs.Aborting
import TransitionMap.Proofs.Planning
import TransitionMap.Proofs.Writing
import TransitionMap.Store.ImageBuffer

/-!
# Stores that refuse no record

Some stores take every key and value of four bytes and go on doing so (`Accepting`): a map in memory
without a limit (`MemoryStore.accepting_unlimited`) and the buffer of an image
(`ImageBuffer.accepting`). A table that is compiled into such a store is written completely
(`Table.compile_of_accepting`).
-/

namespace TransitionMap

/-- Stores of this kind take every key and value of four bytes, and stay of this kind. -/
def Accepting {τ : Type} [Store τ] (kind : τ → Prop) : Prop :=
  ∀ s, kind s → ∀ key value : Bytes, key.length = 4 → value.length = 4 →
    (Store.put s key value).1 = .ok () ∧ kind (Store.put s key value).2

namespace MemoryStore

/-- An open map for records of the layout. -/
structure Usable (s : MemoryStore) : Prop where
  closed : s.closed = false
  keySize : s.keySize = 4
  valueSize : s.valueSize = 4

theorem checkLayout_eq_ok_iff {s : MemoryStore} :
    Store.checkLayout s = .ok () ↔ s.Usable := by
  constructor
  · intro h
    unfold Store.checkLayout at h
    cases hclosed : s.closed with
    | true => simp [Store.check, check, hclosed] at h
    | false =>
      simp only [Store.check, check, hclosed] at h
      by_cases hkey : Store.keySize s = 4
      · by_cases hvalue : Store.valueSize s = 4
        · exact ⟨hclosed, hkey, hvalue⟩
        · simp [hkey, hvalue] at h
      · simp [hkey] at h
  · intro h
    have hkey : Store.keySize s = 4 := h.keySize
    have hvalue : Store.valueSize s = 4 := h.valueSize
    simp [Store.checkLayout, Store.check, check, h.closed, hkey, hvalue]

/-- An open map for records that never runs full. -/
structure Unlimited (s : MemoryStore) : Prop where
  maxEntries : s.maxEntries = none
  closed : s.closed = false
  keySize : s.keySize = 4
  valueSize : s.valueSize = 4

theorem unlimited_of_checkLayout {s : MemoryStore} (hmax : s.maxEntries = none)
    (h : Store.checkLayout s = .ok ()) : s.Unlimited := by
  obtain ⟨hclosed, hkey, hvalue⟩ := checkLayout_eq_ok_iff.1 h
  exact ⟨hmax, hclosed, hkey, hvalue⟩

theorem Unlimited.checkLayout_eq {s : MemoryStore} (h : s.Unlimited) :
    Store.checkLayout s = .ok () :=
  checkLayout_eq_ok_iff.2 ⟨h.closed, h.keySize, h.valueSize⟩

theorem accepting_unlimited : Accepting Unlimited := by
  intro s h key value hkey hvalue
  have taken : ∀ e, ¬ s.Refuses key value e := by
    rintro e (shut | ⟨-, wrong⟩ | ⟨-, -, wrong⟩ | ⟨-, -, -, -, limited, -⟩)
    · exact Bool.false_ne_true (h.closed.symm.trans shut)
    · exact wrong (hkey.trans h.keySize.symm)
    · exact wrong (hvalue.trans h.valueSize.symm)
    · exact Option.some_ne_none _ (limited.symm.trans h.maxEntries)
  have hput : Store.put s key value = (.ok (),
      { s with attempts := s.attempts + 1, records := s.records.insert key value }) :=
    put_of_taken taken
  rw [hput]
  exact ⟨rfl, ⟨h.maxEntries, h.closed, h.keySize, h.valueSize⟩⟩

end MemoryStore

namespace ImageBuffer

theorem put_eq (b : ImageBuffer) {key value : Bytes} (hkey : key.length = 4)
    (hvalue : value.length = 4) :
    b.put key value = (.ok (), ⟨b.records.insert key value⟩) := by
  simp [put, hkey, hvalue]

theorem accepting : Accepting fun _ : ImageBuffer => True := by
  intro b _ key value hkey hvalue
  have hput : Store.put b key value = (.ok (), ⟨b.records.insert key value⟩) :=
    b.put_eq hkey hvalue
  rw [hput]
  exact ⟨rfl, trivial⟩

end ImageBuffer

namespace Table

variable {τ : Type} [Store τ] {kind : τ → Prop} (accepting : Accepting kind)
include accepting

theorem writeEntries_of_accepting {store : τ} (h : kind store) (tally : Tally)
    (entries : List Entry) :
    (writeEntries store tally entries).1.failures = tally.refused.reverse ∧
      kind (writeEntries store tally entries).2 := by
  induction entries generalizing store tally with
  | nil => exact ⟨rfl, h⟩
  | cons e rest ih =>
    obtain ⟨hok, hkind⟩ := accepting store h e.key.toBytes e.value.toBytes e.key.length_toBytes
      e.value.length_toBytes
    rw [writeEntries]
    cases hput : Store.put store e.key.toBytes e.value.toBytes with
    | mk result store' =>
      rw [hput] at hok hkind
      obtain rfl : result = .ok () := hok
      exact ih hkind (tally.add e.key (.ok ()))

variable {σ : Type} [DecidableEq σ] [Hashable σ] {a : Automaton σ} {maxStates : Nat}
  [LawfulStore τ]

/-- Every entry of a planned table arrives, and nothing else changes. -/
theorem compile_of_accepting {store : τ} (h : kind store)
    (layout : Store.checkLayout store = .ok ()) {table : Table}
    (planned : plan a maxStates = .ok table) :
    ∃ store', compile a maxStates store = (.ok ⟨table.size, []⟩, store') ∧ kind store' ∧
      Written store table.entries [] store' := by
  obtain ⟨rfl, hsize, hdet⟩ := eq_of_plan_eq_ok planned
  obtain ⟨hnone, hkind⟩ := writeEntries_of_accepting accepting h {} a.entries
  obtain ⟨failures, hfailures, written⟩ :=
    written_writeEntries store {} (Automaton.nodup_keys hsize hdet)
  obtain rfl : failures = [] := by
    rw [hnone] at hfailures
    simpa using hfailures.symm
  refine ⟨(writeEntries store {} a.entries).2, ?_, hkind, written⟩
  rw [compile_of_planned layout planned, writeEntries_eq_of_failures hnone]
  rfl

end Table

end TransitionMap
