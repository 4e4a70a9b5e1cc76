import TransitionMap.Proofs.Aborting
import TransitionMap.Store.Faulty

/-!
# Every write is accounted for

`Store.Answers` tells a run of writes step by step: each is asked of the store that the one before
has left, and gives one answer. Writing entries is such a run over their bytes, whatever the
answers are, and notes the refused ones (`Table.answers_writeEntries`); the counter goes up by one
with each write (`Table.attempted_writeEntries`). So the summary of a table counts one write per
entry, has the refused writes in the order of the table, each with the error of its own answer, and
counts the others as written (`Table.writeTo_accounts`).
-/

namespace TransitionMap

namespace Store

variable {τ : Type} [Store τ]

/-- A store that is asked for some writes, one after the other, gives these answers and becomes
another store. -/
inductive Answers : τ → List (Bytes × Bytes) → List (Except StoreError Unit) → τ → Prop
  | nil (store : τ) : Answers store [] [] store
  | cons {store store' store'' : τ} {write : Bytes × Bytes} {writes : List (Bytes × Bytes)}
      {answer : Except StoreError Unit} {answers : List (Except StoreError Unit)} :
      put store write.1 write.2 = (answer, store') → Answers store' writes answers store'' →
        Answers store (write :: writes) (answer :: answers) store''

theorem Answers.length_eq {store store' : τ} {writes : List (Bytes × Bytes)}
    {answers : List (Except StoreError Unit)} (h : Answers store writes answers store') :
    answers.length = writes.length := by
  induction h with
  | nil => rfl
  | cons _ _ ih => rw [List.length_cons, List.length_cons, ih]

/-- The answers of a store depend on nothing but the store and the writes. -/
theorem Answers.unique {store store₁ store₂ : τ} {writes : List (Bytes × Bytes)}
    {answers₁ answers₂ : List (Except StoreError Unit)} (h₁ : Answers store writes answers₁ store₁)
    (h₂ : Answers store writes answers₂ store₂) : answers₁ = answers₂ ∧ store₁ = store₂ := by
  induction h₁ generalizing answers₂ with
  | nil =>
    cases h₂
    exact ⟨rfl, rfl⟩
  | cons hput₁ _ ih =>
    cases h₂ with
    | cons hput₂ hrest₂ =>
      obtain ⟨rfl, rfl⟩ := Prod.mk.inj (hput₁.symm.trans hput₂)
      obtain ⟨rfl, rfl⟩ := ih hrest₂
      exact ⟨rfl, rfl⟩

end Store

/-! ## Refused writes -/

/-- The note of a write that was refused. -/
def Entry.refused? (e : Entry) : Except StoreError Unit → Option WriteFailure
  | .ok () => none
  | .error error => some ⟨e.key, error⟩

/-- The refused writes of some entries, by the answers to the writes. -/
def refusals (entries : List Entry) (answers : List (Except StoreError Unit)) : List WriteFailure :=
  (entries.zip answers).filterMap fun (e, answer) => e.refused? answer

theorem refusals_cons_ok (e : Entry) (entries : List Entry)
    (answers : List (Except StoreError Unit)) :
    refusals (e :: entries) (.ok () :: answers) = refusals entries answers := rfl

theorem refusals_cons_error (e : Entry) (error : StoreError) (entries : List Entry)
    (answers : List (Except StoreError Unit)) :
    refusals (e :: entries) (.error error :: answers) =
      ⟨e.key, error⟩ :: refusals entries answers := rfl

/-- Each answer is that of a refused write or of one that succeeds. -/
theorem countP_isOk_add_length_refusals {entries : List Entry}
    {answers : List (Except StoreError Unit)} (h : answers.length = entries.length) :
    answers.countP (·.isOk) + (refusals entries answers).length = entries.length := by
  induction answers generalizing entries with
  | nil =>
    obtain rfl := List.length_eq_zero_iff.1 h.symm
    rfl
  | cons answer answers ih =>
    cases entries with
    | nil => cases h
    | cons e entries =>
      have ih := ih (Nat.succ.inj h)
      cases answer with
      | ok =>
        rw [refusals_cons_ok, List.countP_cons_of_pos rfl, List.length_cons]
        omega
      | error error =>
        rw [refusals_cons_error, List.countP_cons_of_neg Bool.false_ne_true, List.length_cons,
          List.length_cons]
        omega

theorem refusals_eq_nil_iff {entries : List Entry} {answers : List (Except StoreError Unit)}
    (h : answers.length = entries.length) :
    refusals entries answers = [] ↔ ∀ answer ∈ answers, answer = .ok () := by
  induction answers generalizing entries with
  | nil => simp [refusals]
  | cons answer answers ih =>
    cases entries with
    | nil => cases h
    | cons e entries =>
      have ih := ih (Nat.succ.inj h)
      cases answer with
      | ok =>
        rw [refusals_cons_ok, ih, List.forall_mem_cons]
        exact (and_iff_right rfl).symm
      | error error => simp [refusals_cons_error]

namespace Table

variable {τ : Type} [Store τ]

/-- Writing entries is a run of writes of their bytes, in which every refused write is noted. -/
theorem answers_writeEntries (store : τ) (tally : Tally) (entries : List Entry) :
    ∃ answers,
      Store.Answers store (entries.map Entry.pair) answers (writeEntries store tally entries).2 ∧
      (writeEntries store tally entries).1.failures =
        tally.refused.reverse ++ refusals entries answers := by
  induction entries generalizing store tally with
  | nil => exact ⟨[], .nil store, (List.append_nil _).symm⟩
  | cons e rest ih =>
    rw [writeEntries]
    cases hput : Store.put store e.key.toBytes e.value.toBytes with
    | mk answer store' =>
      cases answer with
      | ok =>
        obtain ⟨answers, hrun, hnoted⟩ := ih store' (tally.add e.key (.ok ()))
        exact ⟨.ok () :: answers, .cons hput hrun, hnoted⟩
      | error error =>
        obtain ⟨answers, hrun, hnoted⟩ := ih store' (tally.add e.key (.error error))
        refine ⟨.error error :: answers, .cons hput hrun, ?_⟩
        rw [refusals_cons_error, hnoted, Tally.refused_add_error, List.reverse_cons,
          List.append_assoc, List.singleton_append]

/-- Writing a table to a store of the right layout succeeds whatever the store answers. The store is
asked for one write per entry, in the order of the table, each of four bytes and four bytes, and for
nothing else. The summary counts these writes; its failures are the refused ones, in the same order,
each with the key of its entry and the error of its answer; what it counts as written are the
others; and it is complete when there is no refused one. -/
theorem writeTo_accounts (t : Table) {store : τ} (layout : Store.checkLayout store = .ok ())
    (asked : List (Bytes × Bytes)) :
    ∃ answers store' summary,
      Store.Answers store (t.entries.map Entry.pair) answers store' ∧
      t.writeTo store = (.ok summary, store') ∧
      t.writeTo (Recorder.mk store asked) =
        (.ok summary, ⟨store', asked ++ t.entries.map Entry.pair⟩) ∧
      (∀ write ∈ t.entries.map Entry.pair, write.1.length = 4 ∧ write.2.length = 4) ∧
      answers.length = t.entries.length ∧
      summary.attempted = t.entries.length ∧
      summary.failures = refusals t.entries answers ∧
      summary.failed ≤ summary.attempted ∧
      summary.written = answers.countP (·.isOk) ∧
      (summary.isComplete = true ↔ ∀ answer ∈ answers, answer = .ok ()) := by
  obtain ⟨answers, hrun, hnoted⟩ := answers_writeEntries store {} t.entries
  have hsummary := writeEntries_eq_of_failures hnoted
  have hlength : answers.length = t.entries.length := by
    rw [hrun.length_eq, List.length_map]
  have hcount := countP_isOk_add_length_refusals hlength
  have hwritten : t.writeTo store =
      (.ok ⟨t.entries.length, refusals t.entries answers⟩,
        (writeEntries store {} t.entries).2) := by
    simp only [writeTo, layout, hsummary, List.reverse_nil, List.nil_append]
  have hrecorded : t.writeTo (Recorder.mk store asked) =
      (.ok ⟨t.entries.length, refusals t.entries answers⟩,
        ⟨(writeEntries store {} t.entries).2, asked ++ t.entries.map Entry.pair⟩) := by
    simp only [writeTo, Recorder.checkLayout_eq, layout, writeEntries_recorder, hsummary,
      List.reverse_nil, List.nil_append]
  refine ⟨answers, _, _, hrun, hwritten, hrecorded, ?_, hlength, rfl, rfl, ?_, ?_, ?_⟩
  · intro write hwrite
    obtain ⟨e, -, rfl⟩ := List.mem_map.1 hwrite
    exact ⟨e.key.length_toBytes, e.value.length_toBytes⟩
  · change (refusals t.entries answers).length ≤ t.entries.length
    omega
  · change t.entries.length - (refusals t.entries answers).length = answers.countP (·.isOk)
    omega
  · rw [← refusals_eq_nil_iff hlength]
    exact List.isEmpty_iff

/-- The second of three writes is refused, and the third, of the same key, succeeds. -/
theorem writeTo_accounts_second_refused :
    let first : Entry := ⟨⟨0, 97, 0⟩, ⟨0, 1⟩⟩
    let second : Entry := ⟨⟨1, 98, 0⟩, ⟨1, 0⟩⟩
    let third : Entry := ⟨⟨1, 98, 0⟩, ⟨0, 1⟩⟩
    let t : Table := ⟨[first, second, third], 2⟩
    let store : FaultyStore := { inner := .new, failing := [2] }
    Store.checkLayout store = .ok () ∧
    ∃ store' summary,
      Store.Answers store [first.pair, second.pair, third.pair]
        [.ok (), .error FaultyStore.fault, .ok ()] store' ∧
      t.writeTo store = (.ok summary, store') ∧
      summary.failures = [⟨second.key, FaultyStore.fault⟩] ∧ summary.written = 2 ∧
      summary.isComplete = false := by
  intro first second third t store
  have layout : Store.checkLayout store = .ok () := rfl
  obtain ⟨answers, store', summary, hrun, hwritten, -, -, -, -, hfailures, -, hcount, hcomplete⟩ :=
    t.writeTo_accounts layout []
  have hexpected : Store.Answers store [first.pair, second.pair, third.pair]
      [.ok (), .error FaultyStore.fault, .ok ()] _ := .cons rfl (.cons rfl (.cons rfl (.nil _)))
  obtain ⟨rfl, rfl⟩ := hrun.unique hexpected
  refine ⟨layout, _, summary, hrun, hwritten, hfailures, hcount, ?_⟩
  rw [Bool.eq_false_iff, ne_eq, hcomplete]
  intro hall
  cases hall (.error FaultyStore.fault) (by simp)

end Table

end TransitionMap
