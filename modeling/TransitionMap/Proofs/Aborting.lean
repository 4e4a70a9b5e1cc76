import Mathlib.Data.List.Permutation
import TransitionMap.Automaton.Arena
import TransitionMap.Store.Memory
import TransitionMap.Table

/-!
# A compilation that fails has asked for no write

`Store.Refuses` lists what can be wrong with a store before the first write, in the order of the
checks. A `Recorder` is a store that notes every write it is asked for and is otherwise the store
inside it.

* `Table.writeEntries_recorder`: whatever the store answers, writing asks once for each entry, in
  the order of the entries;
* `Table.attempted_writeEntries`: the summary counts every entry, refused or not;
* `Table.compile_of_refused`, `Table.compile_of_unplanned`, `Table.compile_of_planned`: the three
  ways in which a compilation can end;
* `Table.compile_aborts_before_writing`: so a compilation fails exactly when the store is refused
  or planning fails, the store's fault comes first, and no write has been asked for.
-/

namespace TransitionMap

namespace Store

variable {τ : Type} [Store τ]

/-- Why a store is refused: its own check comes first, then the size of its keys, then that of its
values. -/
inductive Refuses (store : τ) : StoreError → Prop
  | check {e : StoreError} : check store = .error e → Refuses store e
  | keySize : check store = .ok () → keySize store ≠ 4 →
      Refuses store (.sizeMismatch .key 4 (keySize store))
  | valueSize : check store = .ok () → keySize store = 4 → valueSize store ≠ 4 →
      Refuses store (.sizeMismatch .value 4 (valueSize store))

theorem checkLayout_eq_error_iff {store : τ} {e : StoreError} :
    checkLayout store = .error e ↔ Refuses store e := by
  constructor
  · intro h
    unfold checkLayout at h
    cases hcheck : check store with
    | error c =>
      simp only [hcheck, Except.error.injEq] at h
      subst h
      exact .check hcheck
    | ok =>
      simp only [hcheck] at h
      by_cases hkey : keySize store = 4
      · by_cases hvalue : valueSize store = 4
        · simp [hkey, hvalue] at h
        · simp only [hkey, hvalue, ne_eq, not_true_eq_false, not_false_eq_true, if_false, if_true,
            Except.error.injEq] at h
          subst h
          exact .valueSize hcheck hkey hvalue
      · simp only [hkey, ne_eq, not_false_eq_true, if_true, Except.error.injEq] at h
        subst h
        exact .keySize hcheck hkey
  · intro h
    cases h with
    | check hcheck => simp [checkLayout, hcheck]
    | keySize hcheck hkey => simp [checkLayout, hcheck, hkey]
    | valueSize hcheck hkey hvalue => simp [checkLayout, hcheck, hkey, hvalue]

end Store

/-! ## Recording -/

/-- A store that notes the writes it is asked for, the first one first. -/
structure Recorder (τ : Type) where
  inner : τ
  asked : List (Bytes × Bytes) := []

namespace Recorder

variable {τ : Type} [Store τ]

def put (r : Recorder τ) (key value : Bytes) : Except StoreError Unit × Recorder τ :=
  ((Store.put r.inner key value).1, ⟨(Store.put r.inner key value).2, r.asked ++ [(key, value)]⟩)

instance : Store (Recorder τ) where
  keySize r := Store.keySize r.inner
  valueSize r := Store.valueSize r.inner
  check r := Store.check r.inner
  put := Recorder.put

theorem checkLayout_eq (r : Recorder τ) : Store.checkLayout r = Store.checkLayout r.inner := rfl

end Recorder

/-- The bytes of the key and of the value of an entry. -/
def Entry.pair (e : Entry) : Bytes × Bytes := (e.key.toBytes, e.value.toBytes)

namespace Table

variable {τ : Type} [Store τ]

/-- A recorder is asked for one write per entry, and the store inside it is written as without
it. -/
theorem writeEntries_recorder (store : τ) (asked : List (Bytes × Bytes)) (tally : Tally)
    (entries : List Entry) :
    writeEntries (Recorder.mk store asked) tally entries =
      ((writeEntries store tally entries).1,
        ⟨(writeEntries store tally entries).2, asked ++ entries.map Entry.pair⟩) := by
  induction entries generalizing store asked tally with
  | nil => simp [writeEntries]
  | cons e rest ih =>
    have hput : Store.put (Recorder.mk store asked) e.key.toBytes e.value.toBytes =
        ((Store.put store e.key.toBytes e.value.toBytes).1,
          ⟨(Store.put store e.key.toBytes e.value.toBytes).2, asked ++ [e.pair]⟩) := rfl
    -- the store goes on from what the write has left, failed or not
    simp only [writeEntries, hput, ih, List.append_assoc, List.singleton_append, List.map_cons]

/-! ## Counting -/

/-- Every entry counts as one write, refused or not. -/
theorem attempted_writeEntries (store : τ) (tally : Tally) (entries : List Entry) :
    (writeEntries store tally entries).1.attempted = tally.attempted + entries.length := by
  induction entries generalizing store tally with
  | nil => rfl
  | cons e rest ih =>
    rw [writeEntries, ih, Tally.attempted_add, List.length_cons]
    omega

/-- The summary of some writes, when the refused ones are known. -/
theorem writeEntries_eq_of_failures {store : τ} {entries : List Entry}
    {failures : List WriteFailure} (h : (writeEntries store {} entries).1.failures = failures) :
    (writeEntries store {} entries).1 = ⟨entries.length, failures⟩ := by
  have hattempted := attempted_writeEntries store {} entries
  rw [Nat.zero_add] at hattempted
  cases hsummary : (writeEntries store {} entries).1 with
  | mk attempted failures' =>
    rw [hsummary] at h hattempted
    exact congrArg₂ _ hattempted h

/-! ## How a compilation ends -/

variable {σ : Type} [DecidableEq σ] [Hashable σ] {a : Automaton σ} {maxStates : Nat} {store : τ}

theorem compile_of_refused {c : StoreError} (h : Store.checkLayout store = .error c) :
    compile a maxStates store = (.error (.invalidStore c), store) := by
  simp [compile, h]

theorem compile_of_unplanned {e : CompileError} (h : Store.checkLayout store = .ok ())
    (hplan : plan a maxStates = .error e) : compile a maxStates store = (.error e, store) := by
  simp [compile, h, hplan]

theorem compile_of_planned {table : Table} (h : Store.checkLayout store = .ok ())
    (hplan : plan a maxStates = .ok table) :
    compile a maxStates store =
      (.ok (writeEntries store {} table.entries).1, (writeEntries store {} table.entries).2) := by
  simp [compile, h, hplan, writeTo]

theorem compile_eq_error_iff {e : CompileError} :
    (compile a maxStates store).1 = .error e ↔
      (∃ c, Store.checkLayout store = .error c ∧ e = .invalidStore c) ∨
        (Store.checkLayout store = .ok () ∧ plan a maxStates = .error e) := by
  cases hlayout : Store.checkLayout store with
  | error c =>
    rw [compile_of_refused hlayout]
    simp [eq_comm]
  | ok =>
    cases hplan : plan a maxStates with
    | error e' =>
      rw [compile_of_unplanned hlayout hplan]
      simp
    | ok table =>
      rw [compile_of_planned hlayout hplan]
      simp

theorem store_of_compile_eq_error {e : CompileError}
    (h : (compile a maxStates store).1 = .error e) : (compile a maxStates store).2 = store := by
  rcases compile_eq_error_iff.1 h with ⟨c, hlayout, -⟩ | ⟨hlayout, hplan⟩
  · rw [compile_of_refused hlayout]
  · rw [compile_of_unplanned hlayout hplan]

/-- Recording changes neither the answer of a compilation nor the store it leaves. -/
theorem compile_recorder (store : τ) (asked : List (Bytes × Bytes)) :
    (compile a maxStates (Recorder.mk store asked)).1 = (compile a maxStates store).1 ∧
      (compile a maxStates (Recorder.mk store asked)).2.inner = (compile a maxStates store).2 := by
  have hsame := (Recorder.mk store asked).checkLayout_eq
  cases hlayout : Store.checkLayout store with
  | error c =>
    have hrecorder := hsame.trans hlayout
    rw [compile_of_refused hlayout, compile_of_refused hrecorder]
    exact ⟨rfl, rfl⟩
  | ok =>
    have hrecorder := hsame.trans hlayout
    cases hplan : plan a maxStates with
    | error e =>
      rw [compile_of_unplanned hlayout hplan, compile_of_unplanned hrecorder hplan]
      exact ⟨rfl, rfl⟩
    | ok table =>
      rw [compile_of_planned hlayout hplan, compile_of_planned hrecorder hplan,
        writeEntries_recorder]
      exact ⟨rfl, rfl⟩

theorem asked_of_compile_eq_ok {summary : WriteSummary} (asked : List (Bytes × Bytes))
    (h : (compile a maxStates store).1 = .ok summary) :
    ∃ table, plan a maxStates = .ok table ∧
      (compile a maxStates (Recorder.mk store asked)).2.asked =
        asked ++ table.entries.map Entry.pair := by
  cases hlayout : Store.checkLayout store with
  | error c =>
    rw [compile_of_refused hlayout] at h
    cases h
  | ok =>
    cases hplan : plan a maxStates with
    | error e =>
      rw [compile_of_unplanned hlayout hplan] at h
      cases h
    | ok table =>
      have hrecorder := (Recorder.mk store asked).checkLayout_eq.trans hlayout
      refine ⟨table, rfl, ?_⟩
      rw [compile_of_planned hrecorder hplan, writeEntries_recorder]

/-- A compilation fails exactly when the store is refused or there is no table. A fault of the store
is reported whatever the automaton is like, and otherwise the error is that of planning. A failed
compilation has asked for no write and leaves the store as it was, while a compilation that succeeds
has asked for one write per entry of the table, in its order. -/
theorem compile_aborts_before_writing (a : Automaton σ) (maxStates : Nat) (store : τ)
    (asked : List (Bytes × Bytes)) :
    let result := compile a maxStates store
    let recorded := compile a maxStates (Recorder.mk store asked)
    (recorded.1 = result.1 ∧ recorded.2.inner = result.2) ∧
    ((∃ e, result.1 = .error e) ↔
      (∃ c, Store.checkLayout store = .error c) ∨ ∃ e, plan a maxStates = .error e) ∧
    (∀ c, Store.checkLayout store = .error c ↔ Store.Refuses store c) ∧
    (∀ c, Store.Refuses store c → result.1 = .error (.invalidStore c)) ∧
    ((∀ c, ¬ Store.Refuses store c) → ∀ e, result.1 = .error e ↔ plan a maxStates = .error e) ∧
    (∀ e, result.1 = .error e → result.2 = store ∧ recorded.2.asked = asked) ∧
    (∀ summary, result.1 = .ok summary → ∃ table, plan a maxStates = .ok table ∧
      recorded.2.asked = asked ++ table.entries.map Entry.pair) := by
  intro result recorded
  have hsame : recorded.1 = result.1 ∧ recorded.2.inner = result.2 := compile_recorder store asked
  have herror : ∀ e, result.1 = .error e ↔ _ := fun e => compile_eq_error_iff
  refine ⟨hsame, ?_, fun c => Store.checkLayout_eq_error_iff, ?_, ?_, ?_, ?_⟩
  · constructor
    · rintro ⟨e, he⟩
      rcases (herror e).1 he with ⟨c, hlayout, -⟩ | ⟨-, hplan⟩
      · exact .inl ⟨c, hlayout⟩
      · exact .inr ⟨e, hplan⟩
    · intro hfails
      cases hlayout : Store.checkLayout store with
      | error c => exact ⟨_, (herror _).2 (.inl ⟨c, hlayout, rfl⟩)⟩
      | ok =>
        rcases hfails with ⟨c, hc⟩ | ⟨e, hplan⟩
        · rw [hlayout] at hc
          cases hc
        · exact ⟨e, (herror e).2 (.inr ⟨hlayout, hplan⟩)⟩
  · intro c hc
    exact (herror _).2 (.inl ⟨c, Store.checkLayout_eq_error_iff.2 hc, rfl⟩)
  · intro hnone e
    have hlayout : Store.checkLayout store = .ok () := by
      cases h : Store.checkLayout store with
      | error c => exact absurd (Store.checkLayout_eq_error_iff.1 h) (hnone c)
      | ok => rfl
    rw [herror e, hlayout]
    simp
  · intro e he
    have hrecorded : recorded.2 = ⟨store, asked⟩ := store_of_compile_eq_error (hsame.1.trans he)
    exact ⟨store_of_compile_eq_error he, by rw [hrecorded]⟩
  · intro summary hok
    exact asked_of_compile_eq_ok asked hok

/-- State 0 of the automaton has two transitions on one byte. A closed store of other key sizes is
refused as closed; an open one of the right sizes is left alone for the automaton's sake. -/
theorem compile_aborts_closed_and_malformed :
    let a := (Arena.mk #[⟨none, false, [(97, 0), (97, 1)]⟩, ⟨none, true, []⟩] 0).toAutomaton
    let written := (MemoryStore.new.put [0, 0, 97, 0] [1, 0, 0, 0]).2
    let closed : MemoryStore := { written with keySize := 8, closed := true }
    (compile a 10 closed).1 = .error (.invalidStore .closed) ∧ (compile a 10 closed).2 = closed ∧
    (compile a 10 written).1 = .error (.nonDeterministic 0 "#0" 97) ∧
    (compile a 10 written).2 = written ∧ written.attempts = 1 ∧
    (compile a 10 (Recorder.mk written [])).2.asked = [] := by
  intro a written closed
  obtain ⟨-, -, -, hfault, -, hkept, -⟩ := compile_aborts_before_writing a 10 closed []
  obtain ⟨-, -, -, -, hotherwise, huntouched, -⟩ := compile_aborts_before_writing a 10 written []
  have hrefused : (compile a 10 closed).1 = .error (.invalidStore .closed) :=
    hfault .closed (.check rfl)
  have hnone : ∀ c, ¬ Store.Refuses written c := by
    intro c hc
    have hlayout := Store.checkLayout_eq_error_iff.2 hc
    cases hlayout
  have hplan : plan a 10 = .error (.nonDeterministic 0 "#0" 97) := by
    simp only [a]
    cbv
  have hmalformed := (hotherwise hnone _).2 hplan
  obtain ⟨hstore, hasked⟩ := huntouched _ hmalformed
  exact ⟨hrefused, (hkept _ hrefused).1, hmalformed, hstore, rfl, hasked⟩

end Table

end TransitionMap
