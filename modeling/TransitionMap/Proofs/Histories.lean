import TransitionMap.Proofs.Writing

/-!
# Histories of a map in memory

A map in memory may be written, closed, and given a limit, in any order and as often as wanted, and
the limit may be below the number of its pairs. What the map is like then is told by the history
alone: by the last write of each key that succeeds (`MemoryStore.lastValue`), by whether it has been
closed, and by the last limit.

* `MemoryStore.run_eq`, `MemoryStore.get?_run`: what a run leaves;
* `MemoryStore.Sized.run`: keys and values have the declared sizes;
* `MemoryStore.run_bounded_map`: the behaviour of a map through any history.
-/

namespace TransitionMap

theorem Bytes.compare_eq_lt_iff (x y : Bytes) : compare x y = .lt ↔ x < y := by
  induction x generalizing y with
  | nil => cases y <;> simp
  | cons b x ih =>
    cases y with
    | nil => simp
    | cons c y =>
      rw [List.compare_cons_cons, Ordering.then_eq_lt, List.cons_lt_cons_iff, Std.compare_eq_lt,
        Std.compare_eq_iff_eq, ih]

namespace MemoryStore

/-! ## Histories -/

/-- What can be asked of a map. -/
inductive Step
  | put (key value : Bytes)
  | close
  | limit (maxEntries : Nat)
  deriving DecidableEq, Repr

namespace Step

def isPut : Step → Bool
  | .put _ _ => true
  | _ => false

def limit? : Step → Option Nat
  | .limit maxEntries => some maxEntries
  | _ => none

end Step

def step (s : MemoryStore) : Step → MemoryStore
  | .put key value => (s.put key value).2
  | .close => s.close
  | .limit maxEntries => s.withMaxEntries maxEntries

def run (s : MemoryStore) (steps : List Step) : MemoryStore := steps.foldl step s

/-- The pair that a step stores. -/
def stores? (s : MemoryStore) : Step → Option (Bytes × Bytes)
  | .put key value => if (s.put key value).1.isOk then some (key, value) else none
  | _ => none

/-- The writes of a history that succeed, in their order. -/
def successes (s : MemoryStore) : List Step → List (Bytes × Bytes)
  | [] => []
  | a :: rest => (s.stores? a).toList ++ successes (s.step a) rest

/-- The value of the last write of a key. -/
def lastValue (key : Bytes) (writes : List (Bytes × Bytes)) : Option Bytes :=
  ((writes.filter fun w => w.1 = key).getLast?).map Prod.snd

/-- The last limit that is set. -/
def lastLimit (steps : List Step) : Option Nat := (steps.filterMap Step.limit?).getLast?

theorem run_cons (s : MemoryStore) (a : Step) (rest : List Step) :
    s.run (a :: rest) = (s.step a).run rest := rfl

theorem lastValue_append (key : Bytes) (earlier later : List (Bytes × Bytes)) :
    lastValue key (earlier ++ later) = (lastValue key later).or (lastValue key earlier) := by
  rw [lastValue, List.filter_append, List.getLast?_append, Option.map_or]
  rfl

theorem lastValue_singleton (key : Bytes) (write : Bytes × Bytes) :
    lastValue key [write] = if key = write.1 then some write.2 else none := by
  by_cases h : key = write.1
  · simp [lastValue, h]
  · simp [lastValue, h, Ne.symm h]

theorem lastLimit_cons (a : Step) (rest : List Step) :
    lastLimit (a :: rest) = (lastLimit rest).or a.limit? := by
  have hfirst : ([a].filterMap Step.limit?).getLast? = a.limit? := by
    cases a <;> rfl
  rw [lastLimit, ← List.singleton_append, List.filterMap_append, List.getLast?_append, hfirst]
  rfl

variable {s : MemoryStore} {key value : Bytes}

/-! ## One step -/

/-- A step changes the pairs of a map, and what it says about itself as the step says. -/
theorem step_eq (s : MemoryStore) (a : Step) :
    s.step a = { s with
      records := (s.step a).records
      maxEntries := a.limit?.or s.maxEntries
      closed := s.closed || a = .close
      attempts := s.attempts + if a.isPut then 1 else 0 } := by
  cases a with
  | put key value =>
    rcases s.refuses_or_taken key value with ⟨e, he⟩ | taken
    · simp [step, put_of_refuses he, Step.limit?, Step.isPut]
    · simp [step, put_of_taken taken, Step.limit?, Step.isPut]
  | close => simp [step, close, Step.limit?, Step.isPut]
  | limit maxEntries => simp [step, withMaxEntries, Step.limit?, Step.isPut]

theorem get?_step (s : MemoryStore) (a : Step) (key : Bytes) :
    (s.step a).get? key = (lastValue key (s.stores? a).toList).or (s.get? key) := by
  cases a with
  | put k value =>
    rw [step, get?_put, stores?]
    by_cases hok : (s.put k value).1.isOk = true
    · simp only [hok, true_and, if_true, Option.toList_some, lastValue_singleton]
      split <;> rfl
    · simp [lastValue, hok]
  | close => rfl
  | limit maxEntries => rfl

theorem records_step_of_closed (shut : s.closed = true) (a : Step) :
    (s.step a).records = s.records := by
  cases a with
  | put key value => rw [step, put_of_refuses (.closed shut)]
  | close => rfl
  | limit maxEntries => rfl

/-- All keys and values of a map have the sizes that it declares. -/
def Sized (s : MemoryStore) : Prop :=
  ∀ key value, s.get? key = some value → key.length = s.keySize ∧ value.length = s.valueSize

theorem Sized.step (h : s.Sized) (a : Step) : (s.step a).Sized := by
  cases a with
  | put k v =>
    rcases s.refuses_or_taken k v with ⟨e, he⟩ | taken
    · rw [MemoryStore.step, put_of_refuses he]
      exact h
    · have hsizes := lengths_of_taken taken
      intro key value hget
      rw [MemoryStore.step, get?_put, put_of_taken taken] at hget
      rw [MemoryStore.step, put_of_taken taken]
      split at hget
      case isTrue hand =>
        obtain rfl := hand.2
        obtain rfl := Option.some.inj hget
        exact hsizes
      case isFalse => exact h key value hget
  | close => exact h
  | limit maxEntries => exact h

/-! ## Whole histories -/

theorem run_eq (s : MemoryStore) (steps : List Step) :
    s.run steps = { s with
      records := (s.run steps).records
      maxEntries := (lastLimit steps).or s.maxEntries
      closed := s.closed || decide (.close ∈ steps)
      attempts := s.attempts + steps.countP Step.isPut } := by
  induction steps generalizing s with
  | nil => simp [run, lastLimit]
  | cons a rest ih =>
    have hkeySize : (s.step a).keySize = s.keySize := by rw [step_eq]
    have hvalueSize : (s.step a).valueSize = s.valueSize := by rw [step_eq]
    have hmax : (s.step a).maxEntries = a.limit?.or s.maxEntries := by rw [step_eq]
    have hclosed : (s.step a).closed = (s.closed || a = .close) := by rw [step_eq]
    have hattempts : (s.step a).attempts = s.attempts + if a.isPut then 1 else 0 := by rw [step_eq]
    have hmem : decide (Step.close ∈ a :: rest) = (decide (a = .close) || .close ∈ rest) := by
      simp [eq_comm]
    rw [run_cons, ih (s.step a), hkeySize, hvalueSize, hmax, hclosed, hattempts, lastLimit_cons,
      List.countP_cons, Option.or_assoc, hmem, Bool.or_assoc, Nat.add_comm (List.countP _ _),
      Nat.add_assoc]

theorem get?_run (s : MemoryStore) (steps : List Step) (key : Bytes) :
    (s.run steps).get? key = (lastValue key (s.successes steps)).or (s.get? key) := by
  induction steps generalizing s with
  | nil => rfl
  | cons a rest ih =>
    rw [run_cons, ih, get?_step, successes, lastValue_append, Option.or_assoc]

theorem Sized.run (h : s.Sized) (steps : List Step) : (s.run steps).Sized := by
  induction steps generalizing s with
  | nil => exact h
  | cons a rest ih => exact ih (h.step a)

/-- Once a map is closed, its pairs stay as they are. -/
theorem records_run_of_closed (shut : s.closed = true) (steps : List Step) :
    (s.run steps).records = s.records := by
  induction steps generalizing s with
  | nil => rfl
  | cons a rest ih =>
    have hshut : (s.step a).closed = true := by
      rw [step_eq]
      simp [shut]
    rw [run_cons, ih hshut, records_step_of_closed shut]

theorem pairwise_entries (s : MemoryStore) : s.entries.Pairwise fun p q => p.1 < q.1 :=
  s.records.ordered_keys_toList.imp fun h => (Bytes.compare_eq_lt_iff _ _).1 h

theorem mem_entries_iff (s : MemoryStore) (key value : Bytes) :
    (key, value) ∈ s.entries ↔ s.get? key = some value :=
  Std.TreeMap.mem_toList_iff_getElem?_eq_some

/-- A map that has been fresh is what its history makes of it. It has the declared sizes and the
last limit, is closed if it has ever been, and has counted the writes. Each key has the value of its
last write that has succeeded, and no other key has one; the pairs are listed once each, in the
order of their keys, and have the declared sizes. The next write is refused for the first reason
that applies, if any does; a refused one is counted and changes nothing else, and one that makes the
map larger keeps it within its limit. Once the map is closed, its pairs never change. -/
theorem run_bounded_map (keySize valueSize : Nat) (steps : List Step) :
    let fresh := withLayout keySize valueSize
    let s := fresh.run steps
    s =
      { records := s.records, keySize, valueSize, maxEntries := lastLimit steps,
        closed := decide (.close ∈ steps), attempts := steps.countP Step.isPut } ∧
    (∀ key, s.get? key = lastValue key (fresh.successes steps)) ∧
    (∀ key value, (key, value) ∈ s.entries ↔ s.get? key = some value) ∧
    (s.entries.Pairwise fun p q => p.1 < q.1) ∧ s.entries.length = s.size ∧
    (∀ p ∈ s.entries, p.1.length = keySize ∧ p.2.length = valueSize) ∧
    (∀ key value,
      (∀ e, (s.put key value).1 = .error e ↔ s.Refuses key value e) ∧
      (∀ e, (s.put key value).1 = .error e →
        (s.put key value).2 = { s with attempts := s.attempts + 1 }) ∧
      (s.size < (s.put key value).2.size →
        ∀ limit, s.maxEntries = some limit → (s.put key value).2.size ≤ limit)) ∧
    (.close ∈ steps → ∀ more, (s.run more).entries = s.entries ∧
      ∀ key, (s.run more).get? key = s.get? key) := by
  intro fresh s
  have hrun : s =
      { records := s.records, keySize, valueSize, maxEntries := lastLimit steps,
        closed := decide (.close ∈ steps), attempts := steps.countP Step.isPut } := by
    have h := fresh.run_eq steps
    simp only [fresh, withLayout, Option.or_none, Bool.false_or, Nat.zero_add] at h
    exact h
  have hfresh : ∀ key, fresh.get? key = none := get?_withLayout keySize valueSize
  have hsized : s.Sized := by
    refine Sized.run (fun key value hget => ?_) steps
    rw [hfresh] at hget
    cases hget
  refine ⟨hrun, fun key => ?_, s.mem_entries_iff, s.pairwise_entries, Std.TreeMap.length_toList,
    fun p hp => ?_, fun key value => ⟨fun e => put_eq_error_iff, fun e he => ?_, ?_⟩, ?_⟩
  · rw [get?_run, hfresh, Option.or_none]
  · have hkeySize : s.keySize = keySize := by rw [hrun]
    have hvalueSize : s.valueSize = valueSize := by rw [hrun]
    rw [← hkeySize, ← hvalueSize]
    exact hsized p.1 p.2 ((s.mem_entries_iff p.1 p.2).1 hp)
  · rw [put_of_refuses (put_eq_error_iff.1 he)]
  · exact fun larger limit => size_put_le larger
  · intro hclose more
    have shut : s.closed = true := by
      rw [hrun]
      exact decide_eq_true hclose
    have hrecords := records_run_of_closed shut more
    simp only [entries, get?, hrecords, implies_true, and_self]

/-- A limit may be set below the number of the pairs; then no key is added, but those that are
there are still overwritten. -/
example : ((withLayout 1 1).run [.put [2] [7], .put [1] [8], .limit 1, .put [2] [9], .put [3] [0],
    .close, .put [1] [0]]).entries = [([1], [8]), ([2], [9])] := by
  decide

end MemoryStore

end TransitionMap
