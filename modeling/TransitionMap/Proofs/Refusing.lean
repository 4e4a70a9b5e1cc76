import Mathlib.Tactic.ByContra
import TransitionMap.Store.Memory

/-!
# Writes that a map in memory refuses

A map refuses a write for one of four reasons, and for the first one that applies
(`MemoryStore.Refuses`). A refused write is counted and changes nothing else
(`MemoryStore.put_of_refuses`); any other write is taken (`MemoryStore.put_of_taken`), has the
declared sizes, and keeps the map within its limit if that has grown (`MemoryStore.size_put_le`).
-/

namespace TransitionMap.MemoryStore

/-- Why a map refuses a write: the first reason that applies. -/
inductive Refuses (s : MemoryStore) (key value : Bytes) : StoreError → Prop
  | closed (shut : s.closed = true) : Refuses s key value .closed
  | key (isOpen : s.closed = false) (wrong : key.length ≠ s.keySize) :
      Refuses s key value (.sizeMismatch .key s.keySize key.length)
  | value (isOpen : s.closed = false) (right : key.length = s.keySize)
      (wrong : value.length ≠ s.valueSize) :
      Refuses s key value (.sizeMismatch .value s.valueSize value.length)
  | full {limit : Nat} (isOpen : s.closed = false) (right : key.length = s.keySize)
      (right' : value.length = s.valueSize) (new : s.get? key = none)
      (limited : s.maxEntries = some limit) (reached : limit ≤ s.size) :
      Refuses s key value (.capacityExceeded limit)

variable {s : MemoryStore} {key value : Bytes}

theorem contains_eq (s : MemoryStore) (key : Bytes) :
    s.records.contains key = (s.get? key).isSome :=
  Std.TreeMap.contains_eq_isSome_getElem?

theorem contains_eq_false_iff : s.records.contains key = false ↔ s.get? key = none := by
  rw [contains_eq, Option.isSome_eq_false_iff, Option.isNone_iff_eq_none]

theorem Refuses.refusal?_eq {e : StoreError} (h : s.Refuses key value e) :
    s.refusal? key value = some e := by
  cases h with
  | closed shut => simp [refusal?, shut]
  | key isOpen wrong => simp [refusal?, isOpen, wrong]
  | value isOpen right wrong => simp [refusal?, isOpen, right, wrong]
  | full isOpen right right' new limited reached =>
    simp [refusal?, isOpen, right, right', limited, reached, contains_eq_false_iff.2 new]

/-- There is at most one reason. -/
theorem Refuses.unique {e e' : StoreError} (h : s.Refuses key value e)
    (h' : s.Refuses key value e') : e = e' :=
  Option.some.inj (h.refusal?_eq.symm.trans h'.refusal?_eq)

theorem exists_refuses (h : s.refusal? key value ≠ none) : ∃ e, s.Refuses key value e := by
  cases hclosed : s.closed with
  | true => exact ⟨_, .closed hclosed⟩
  | false =>
    by_cases hkey : key.length = s.keySize
    · by_cases hvalue : value.length = s.valueSize
      · cases hlimit : s.maxEntries with
        | none => simp [refusal?, hclosed, hkey, hvalue, hlimit] at h
        | some limit =>
          simp only [refusal?, hclosed, hkey, hvalue, hlimit, Bool.false_eq_true, ne_eq,
            not_true_eq_false, if_false, ite_eq_right_iff, reduceCtorEq, imp_false, not_not,
            Bool.not_eq_true, contains_eq_false_iff] at h
          exact ⟨_, .full hclosed hkey hvalue h.2 hlimit h.1⟩
      · exact ⟨_, .value hclosed hkey hvalue⟩
    · exact ⟨_, .key hclosed hkey⟩

theorem put_of_refuses {e : StoreError} (h : s.Refuses key value e) :
    s.put key value = (.error e, { s with attempts := s.attempts + 1 }) := by
  rw [put, h.refusal?_eq]

theorem put_of_taken (h : ∀ e, ¬ s.Refuses key value e) :
    s.put key value = (.ok (), { s with
      attempts := s.attempts + 1, records := s.records.insert key value }) := by
  have hnone : s.refusal? key value = none := by
    by_contra hsome
    obtain ⟨e, he⟩ := exists_refuses hsome
    exact h e he
  rw [put, hnone]

theorem refuses_or_taken (s : MemoryStore) (key value : Bytes) :
    (∃ e, s.Refuses key value e) ∨ ∀ e, ¬ s.Refuses key value e := by
  by_cases h : ∃ e, s.Refuses key value e
  · exact .inl h
  · exact .inr (not_exists.1 h)

theorem put_eq_error_iff {e : StoreError} :
    (s.put key value).1 = .error e ↔ s.Refuses key value e := by
  rcases s.refuses_or_taken key value with ⟨e', he'⟩ | taken
  · rw [put_of_refuses he', Except.error.injEq]
    exact ⟨fun heq => heq ▸ he', he'.unique⟩
  · rw [put_of_taken taken]
    exact ⟨fun h => (by cases h), fun h => absurd h (taken e)⟩

theorem isOpen_of_taken (taken : ∀ e, ¬ s.Refuses key value e) : s.closed = false :=
  Bool.eq_false_iff.2 fun shut => taken _ (.closed shut)

/-- A write that is taken has the declared sizes. -/
theorem lengths_of_taken (taken : ∀ e, ¬ s.Refuses key value e) :
    key.length = s.keySize ∧ value.length = s.valueSize := by
  have isOpen := isOpen_of_taken taken
  have hkey : key.length = s.keySize := by
    by_contra wrong
    exact taken _ (.key isOpen wrong)
  refine ⟨hkey, ?_⟩
  by_contra wrong
  exact taken _ (.value isOpen hkey wrong)

/-- A write after which a map is larger has stayed within the limit. -/
theorem size_put_le (larger : s.size < (s.put key value).2.size) {limit : Nat}
    (limited : s.maxEntries = some limit) : (s.put key value).2.size ≤ limit := by
  rcases s.refuses_or_taken key value with ⟨e, he⟩ | taken
  · rw [put_of_refuses he] at larger
    exact absurd larger (Nat.lt_irrefl _)
  · rw [put_of_taken taken] at larger ⊢
    simp only [size, Std.TreeMap.size_insert] at larger ⊢
    split at larger
    · exact absurd larger (Nat.lt_irrefl _)
    case isFalse hnew =>
      obtain ⟨hkey, hvalue⟩ := lengths_of_taken taken
      have new := contains_eq_false_iff.1 (Bool.eq_false_iff.2 hnew)
      have hroom : ¬ limit ≤ s.size := fun reached =>
        taken _ (.full (isOpen_of_taken taken) hkey hvalue new limited reached)
      rw [if_neg hnew]
      exact Nat.not_le.1 hroom

end TransitionMap.MemoryStore
