import TransitionMap.Proofs.Pattern.Reading
import TransitionMap.Proofs.Pruning

/-!
# Where threads are led

`Program.mem_settle_iff`: settling finds exactly the nodes that forks and the assertions that hold
lead to. `Threads.Settled` is what every state of the thread machine keeps: its nodes are distinct
addresses of the program, and whatever the byte before leads to is among them (`settled_after`).
Of the byte before a state keeps only a part, but no assertion tells the difference
(`Program.confuses_kept`). From this follows where the threads are once the next symbol is known
(`Threads.Settled.mem_informed_iff`), and so when a state reports a match
(`Threads.Settled.matched_step_iff`).
-/

namespace TransitionMap.Pattern

open Relation (ReflTransGen)

namespace Program

variable {p : Program} {holds : Assertion → Bool}

theorem mem_ways_iff {i j : Nat} : j ∈ p.ways holds i ↔ p.Leads holds i j := by
  constructor
  · intro h
    unfold ways at h
    split at h
    case h_1 a b hi =>
      rcases List.mem_pair.1 h with rfl | rfl
      · exact .first _ hi
      · exact .second _ hi
    case h_2 a next hi =>
      split at h
      · obtain rfl := List.mem_singleton.1 h
        exact .assert a hi ‹_›
      · cases h
    case h_3 => cases h
  · rintro (⟨k, hi⟩ | ⟨k, hi⟩ | ⟨a, hi, ha⟩)
    · simp [ways, hi]
    · simp [ways, hi]
    · simp [ways, hi, ha]

theorem length_ways_le (i : Nat) : (p.ways holds i).length ≤ 2 := by
  unfold ways
  split
  · exact Nat.le_refl 2
  · split <;> exact Nat.le_add_left _ _
  · exact Nat.zero_le 2

theorem Leads.lt_size {i j : Nat} (h : p.Leads holds i j) : i < p.size := by
  rcases h with ⟨k, hi⟩ | ⟨k, hi⟩ | ⟨a, hi, -⟩
  all_goals exact (Array.getElem?_eq_some_iff.1 hi).1

theorem Leads.imp {holds' : Assertion → Bool} (himp : ∀ a, holds a = true → holds' a = true)
    {i j : Nat} (h : p.Leads holds i j) : p.Leads holds' i j := by
  rcases h with ⟨k, hi⟩ | ⟨k, hi⟩ | ⟨a, hi, ha⟩
  · exact .first k hi
  · exact .second k hi
  · exact .assert a hi (himp a ha)

/-- A thread at `i` comes to `j` without reading. -/
abbrev LeadsTo (p : Program) (holds : Assertion → Bool) : Nat → Nat → Prop :=
  ReflTransGen (p.Leads holds)

/-! ## Settling -/

/-- A stage of leading threads on: whatever is seen or waits has been led to, and the threads and
the ways on from what is seen are seen or wait. -/
structure Advanced (p : Program) (holds : Assertion → Bool) (threads stack : List Nat)
    (seen : OrderedSet Nat) : Prop where
  lt_size : ∀ j ∈ seen.toList, j < p.size
  seen_led : ∀ j ∈ seen.toList, ∃ i ∈ threads, p.LeadsTo holds i j
  stack_led : ∀ j ∈ stack, ∃ i ∈ threads, p.LeadsTo holds i j
  started : ∀ i ∈ threads, i < p.size → i ∈ seen.toList ∨ i ∈ stack
  closed : ∀ i ∈ seen.toList, ∀ j, p.Leads holds i j → j < p.size → j ∈ seen.toList ∨ j ∈ stack

theorem advanced_init (threads : List Nat) : Advanced p holds threads threads OrderedSet.empty where
  lt_size j hj := by simp at hj
  seen_led j hj := by simp at hj
  stack_led j hj := ⟨j, hj, .refl⟩
  started i hi _ := .inr hi
  closed i hi := by simp at hi

namespace Advanced

variable {threads rest : List Nat} {i : Nat} {seen : OrderedSet Nat}

/-- A node that is out of place or has been seen is passed over. -/
theorem skip (h : Advanced p holds threads (i :: rest) seen)
    (hi : ¬(i < p.size ∧ ¬seen.contains i)) :
    Advanced p holds threads rest seen := by
  have hseen : i < p.size → i ∈ seen.toList := fun hlt => by
    have hcontains : seen.contains i = true := by
      by_contra hnot
      exact hi ⟨hlt, hnot⟩
    exact Array.mem_def.1 ((seen.contains_iff i).1 hcontains)
  have hdrop : ∀ j, j < p.size → j ∈ seen.toList ∨ j ∈ i :: rest → j ∈ seen.toList ∨ j ∈ rest := by
    rintro j hj (hj' | hj')
    · exact .inl hj'
    · rcases List.mem_cons.1 hj' with rfl | hj'
      · exact .inl (hseen hj)
      · exact .inr hj'
  exact
    { lt_size := h.lt_size
      seen_led := h.seen_led
      stack_led := fun j hj => h.stack_led j (List.mem_cons_of_mem i hj)
      started := fun k hk hlt => hdrop k hlt (h.started k hk hlt)
      closed := fun k hk j hj hlt => hdrop j hlt (h.closed k hk j hj hlt) }

/-- A new node is seen, and the ways on from it wait in front of the others. -/
theorem visit (h : Advanced p holds threads (i :: rest) seen) (hi : i < p.size) :
    Advanced p holds threads (p.ways holds i ++ rest) (seen.insert i) := by
  obtain ⟨thread, hthread, hled⟩ := h.stack_led i List.mem_cons_self
  have hkeep : ∀ j, j ∈ seen.toList ∨ j ∈ i :: rest →
      j ∈ (seen.insert i).toList ∨ j ∈ p.ways holds i ++ rest := by
    rintro j (hj | hj)
    · exact .inl ((seen.mem_insert i j).2 (.inl hj))
    · rcases List.mem_cons.1 hj with rfl | hj
      · exact .inl ((seen.mem_insert j j).2 (.inr rfl))
      · exact .inr (List.mem_append_right _ hj)
  refine ⟨fun j hj => ?_, fun j hj => ?_, fun j hj => ?_,
    fun k hk hlt => hkeep k (h.started k hk hlt), fun k hk j hj hlt => ?_⟩
  · rcases (seen.mem_insert i j).1 hj with hj | rfl
    · exact h.lt_size j hj
    · exact hi
  · rcases (seen.mem_insert i j).1 hj with hj | rfl
    · exact h.seen_led j hj
    · exact ⟨thread, hthread, hled⟩
  · rcases List.mem_append.1 hj with hj | hj
    · exact ⟨thread, hthread, hled.tail (mem_ways_iff.1 hj)⟩
    · exact h.stack_led j (List.mem_cons_of_mem i hj)
  · rcases (seen.mem_insert i k).1 hk with hk | rfl
    · exact hkeep j (h.closed k hk j hj hlt)
    · exact .inr (List.mem_append_left _ (mem_ways_iff.2 hj))

theorem length_le {stack : List Nat} (h : Advanced p holds threads stack seen) :
    seen.toList.length ≤ p.size := by
  have hsub : seen.toList ⊆ List.range p.size := fun j hj => List.mem_range.2 (h.lt_size j hj)
  simpa using (seen.nodup_toList.subperm hsub).length_le

/-- Each visit takes one node off the stack and puts at most two on it, so that the fuel lasts. -/
theorem finish {fuel : Nat} {stack : List Nat} (h : Advanced p holds threads stack seen)
    (hfuel : stack.length + 2 * (p.size - seen.toList.length) ≤ fuel) :
    Advanced p holds threads [] (p.advance holds fuel stack seen) := by
  induction fuel generalizing stack seen with
  | zero =>
    obtain rfl : stack = [] := List.length_eq_zero_iff.1 (by omega)
    exact h
  | succ fuel ih =>
    cases stack with
    | nil => exact h
    | cons i rest =>
      rw [advance]
      split
      case isTrue hi =>
        have hnew : i ∉ seen.toList :=
          fun hmem => hi.2 ((seen.contains_iff i).2 (Array.mem_def.2 hmem))
        have hvisit := h.visit hi.1
        have hlength := hvisit.length_le
        have hways : (p.ways holds i).length ≤ 2 := length_ways_le i
        refine ih hvisit ?_
        rw [OrderedSet.toList_insert, if_neg hnew] at hlength ⊢
        simp only [List.length_append, List.length_cons, List.length_nil] at hlength hfuel ⊢
        omega
      case isFalse hi =>
        refine ih (h.skip hi) ?_
        rw [List.length_cons] at hfuel
        omega

end Advanced

theorem mem_settle_iff {threads : List Nat} {j : Nat} :
    j ∈ p.settle holds threads ↔ j < p.size ∧ ∃ i ∈ threads, p.LeadsTo holds i j := by
  have h : Advanced p holds threads []
      (p.advance holds (2 * p.size + threads.length + 1) threads OrderedSet.empty) :=
    (advanced_init threads).finish (by simp only [OrderedSet.toList_empty, List.length_nil]; omega)
  refine ⟨fun hj => ⟨h.lt_size j hj, h.seen_led j hj⟩, ?_⟩
  rintro ⟨hlt, i, hi, hled⟩
  induction hled with
  | refl => exact (h.started i hi hlt).resolve_right List.not_mem_nil
  | tail _ hlead ih =>
    exact (h.closed _ (ih hlead.lt_size) _ hlead hlt).resolve_right List.not_mem_nil

theorem nodup_settle {threads : List Nat} : (p.settle holds threads).Nodup :=
  OrderedSet.nodup_toList _

/-! ## What is kept of the byte before -/

theorem asserts_of_getElem? (kind : Assertion → Bool) {i j : Nat} {a : Assertion}
    (ha : p[i]? = some (.assert a j)) (hkind : kind a = true) : p.asserts kind = true := by
  obtain ⟨hlt, hi⟩ := Array.getElem?_eq_some_iff.1 ha
  exact Array.any_eq_true.2 ⟨i, hlt, by rw [hi]; exact hkind⟩

/-- No assertion of the program tells the two kinds of places apart. -/
structure Confuses (p : Program) (before before' : Before) : Prop where
  holds_eq {i j : Nat} {a : Assertion} (ha : p[i]? = some (.assert a j)) (x : Symbol) :
    a.holds before x = a.holds before' x
  settles_eq {i j : Nat} {a : Assertion} (ha : p[i]? = some (.assert a j)) :
    before.settles a = before'.settles a

theorem Confuses.symm {before before' : Before} (h : p.Confuses before before') :
    p.Confuses before' before :=
  ⟨fun ha x => (h.holds_eq ha x).symm, fun ha => (h.settles_eq ha).symm⟩

theorem Confuses.leadsTo {before before' : Before} (h : p.Confuses before before') {x : Symbol}
    {i j : Nat} (hled : p.LeadsTo (Assertion.holds before x) i j) :
    p.LeadsTo (Assertion.holds before' x) i j := by
  refine ReflTransGen.mono (fun i j hlead => ?_) i j hled
  rcases hlead with ⟨k, hk⟩ | ⟨k, hk⟩ | ⟨a, ha, hholds⟩
  · exact .first k hk
  · exact .second k hk
  · exact .assert a ha (h.holds_eq ha x ▸ hholds)

section Kept

variable {nodes : List Nat} (before : Before)

theorem kept_eq_start_iff (hasked : nodes.any (fun i => (p.assertion? i).isSome) = true)
    (htext : p.asserts Assertion.isText = true) :
    p.kept nodes before = .start ↔ before = .start := by
  cases before <;> simp only [kept, hasked, htext, Bool.and_self, if_true]
  all_goals split <;> decide

theorem kept_begins_line_iff (hasked : nodes.any (fun i => (p.assertion? i).isSome) = true)
    (hline : p.asserts Assertion.isLine = true) :
    p.kept nodes before = .start ∨ p.kept nodes before = .lineFeed ↔
      before = .start ∨ before = .lineFeed := by
  cases before <;> simp only [kept, hasked, hline, Bool.and_self, if_true]
  all_goals repeat' split
  all_goals decide

theorem kept_eq_carriageReturn_iff (hne : nodes.isEmpty = false)
    (hreturn : p.asserts Assertion.isReturn = true) :
    p.kept nodes before = .carriageReturn ↔ before = .carriageReturn := by
  cases before <;> simp only [kept, hne, hreturn, Bool.not_false, Bool.and_self, if_true]
  all_goals repeat' split
  all_goals decide

theorem kept_eq_wordByte_iff (hne : nodes.isEmpty = false)
    (hword : p.asserts Assertion.isWord = true) :
    p.kept nodes before = .wordByte ↔ before = .wordByte := by
  cases before <;> simp only [kept, hne, hword, Bool.not_false, Bool.and_self, if_true]
  all_goals repeat' split
  all_goals decide

/-- Where a thread has come to an assertion, as much is kept as the program asks for. -/
theorem confuses_kept {k l : Nat} {asked : Assertion} (hk : k ∈ nodes)
    (hasked : p[k]? = some (.assert asked l)) : p.Confuses (p.kept nodes before) before := by
  have hasserts : nodes.any (fun i => (p.assertion? i).isSome) = true :=
    List.any_eq_true.2 ⟨k, hk, by simp [assertion?, hasked]⟩
  have hne : nodes.isEmpty = false := List.isEmpty_eq_false_iff.2 (List.ne_nil_of_mem hk)
  have hagree : ∀ {i j : Nat} {a : Assertion}, p[i]? = some (.assert a j) →
      (∀ x, a.holds (p.kept nodes before) x = a.holds before x) ∧
        (p.kept nodes before).settles a = before.settles a := by
    intro i j a ha
    have htext := kept_eq_start_iff before hasserts ∘ asserts_of_getElem? Assertion.isText ha
    have hline := kept_begins_line_iff before hasserts ∘ asserts_of_getElem? Assertion.isLine ha
    have hreturn :=
      kept_eq_carriageReturn_iff before hne ∘ asserts_of_getElem? Assertion.isReturn ha
    have hword := kept_eq_wordByte_iff before hne ∘ asserts_of_getElem? Assertion.isWord ha
    cases a with
    | textStart => simp [Assertion.holds, Before.settles, htext rfl]
    | textEnd => simp [Assertion.holds, Before.settles]
    | lineStart crlf =>
      cases crlf with
      | false => simp [Assertion.holds, Before.settles, ← Bool.decide_or, hline rfl]
      | true => simp [Assertion.holds, Before.settles, ← Bool.decide_or, hline rfl, hreturn rfl]
    | lineEnd crlf =>
      cases crlf with
      | false => simp [Assertion.holds, Before.settles]
      | true => simp [Assertion.holds, Before.settles, bne, beq_eq_decide, hreturn rfl]
    | word unicode edge =>
      cases edge <;> simp [Assertion.holds, Before.settles, bne, beq_eq_decide, hword rfl]
  exact ⟨fun ha => (hagree ha).1, fun ha => (hagree ha).2⟩

end Kept

/-- A program without assertions keeps nothing. -/
theorem kept_of_free (hfree : ∀ i, p.assertion? i = none) (nodes : List Nat) (before : Before) :
    p.kept nodes before = .other := by
  have hasserts : ∀ kind, p.asserts kind = false := by
    refine fun kind => Bool.eq_false_iff.2 fun h => ?_
    obtain ⟨i, hlt, hi⟩ := Array.any_eq_true.1 h
    have hnone := hfree i
    rw [assertion?, Array.getElem?_eq_getElem hlt] at hnone
    split at hi <;> simp_all
  cases before <;> simp [kept, hasserts]

theorem isAccept_iff {i : Nat} : p.isAccept i = true ↔ p[i]? = some .accept := by
  rw [isAccept, beq_iff_eq]

end Program

/-! ## Threads at a place -/

namespace Threads

variable {p : Program}

theorem matched_step (t : Threads) (x : Symbol) :
    (t.step p x).matched = (t.informed p x).any p.isAccept := by
  cases x <;> rfl

/-- Threads that have come to no assertion learn nothing from the next symbol. -/
theorem informed_eq_nodes {t : Threads} (hfree : ∀ i ∈ t.nodes, p.assertion? i = none)
    (x : Symbol) : t.informed p x = t.nodes := by
  refine if_neg fun hnews => ?_
  obtain ⟨i, hi, hassert⟩ := List.any_eq_true.1 hnews
  rw [hfree i hi] at hassert
  cases hassert

/-- The nodes are distinct addresses, and what the byte before leads to is among them. -/
structure Settled (p : Program) (t : Threads) : Prop where
  lt_size : ∀ i ∈ t.nodes, i < p.size
  nodup : t.nodes.Nodup
  closed : ∀ i ∈ t.nodes, ∀ j, p.Leads t.before.settles i j → j < p.size → j ∈ t.nodes

/-- What stands before is forgotten only where no assertion asks for it. -/
theorem confuses_ofTargets {matched : Bool} {before : Before} {targets : List Nat} {i j : Nat}
    {a : Assertion} (hi : i ∈ (ofTargets p matched before targets).nodes)
    (ha : p[i]? = some (.assert a j)) :
    p.Confuses (ofTargets p matched before targets).before before :=
  Program.confuses_kept before hi ha

theorem leads_ofTargets {matched : Bool} {before : Before} {targets : List Nat} {i j : Nat}
    (hi : i ∈ (ofTargets p matched before targets).nodes)
    (h : p.Leads (ofTargets p matched before targets).before.settles i j) :
    p.Leads before.settles i j := by
  rcases h with ⟨k, hk⟩ | ⟨k, hk⟩ | ⟨a, ha, hsettles⟩
  · exact .first k hk
  · exact .second k hk
  · refine .assert a ha ?_
    rw [← (confuses_ofTargets hi ha).settles_eq ha]
    exact hsettles

theorem settled_ofTargets (matched : Bool) (before : Before) (targets : List Nat) :
    Settled p (ofTargets p matched before targets) where
  lt_size i hi := (Program.mem_settle_iff.1 hi).1
  nodup := Program.nodup_settle
  closed i hi j hlead hlt := by
    obtain ⟨-, thread, hthread, hled⟩ := Program.mem_settle_iff.1 hi
    exact Program.mem_settle_iff.2 ⟨hlt, thread, hthread, hled.tail (leads_ofTargets hi hlead)⟩

theorem settled_step (t : Threads) (x : Symbol) : Settled p (t.step p x) := by
  cases x with
  | some b => exact settled_ofTargets _ _ _
  | none => exact ⟨fun i hi => absurd hi List.not_mem_nil, List.nodup_nil,
      fun i hi => absurd hi List.not_mem_nil⟩

namespace Settled

variable {t : Threads}

/-- Where the threads are once the next symbol is known. -/
theorem mem_informed_iff (h : Settled p t) {x : Symbol} {j : Nat} :
    j ∈ t.informed p x ↔
      j < p.size ∧ ∃ i ∈ t.nodes, p.LeadsTo (Assertion.holds t.before x) i j := by
  simp only [informed]
  split
  case isTrue => exact Program.mem_settle_iff
  case isFalse hnews =>
    refine ⟨fun hj => ⟨h.lt_size j hj, j, hj, .refl⟩, ?_⟩
    rintro ⟨hlt, i, hi, hled⟩
    induction hled with
    | refl => exact hi
    | tail _ hlead ih =>
      have hmem := ih hlead.lt_size
      refine h.closed _ hmem _ ?_ hlt
      rcases hlead with ⟨k, hk⟩ | ⟨k, hk⟩ | ⟨a, ha, hholds⟩
      · exact .first k hk
      · exact .second k hk
      · refine .assert a ha ?_
        by_contra hsettles
        refine hnews (List.any_eq_true.2 ⟨_, hmem, ?_⟩)
        simpa [Program.assertion?, ha, hholds] using hsettles

/-- A state reports a match when some thread could end one in front of the symbol. -/
theorem matched_step_iff (h : Settled p t) {x : Symbol} :
    (t.step p x).matched = true ↔
      ∃ i ∈ t.nodes, ∃ j, p.LeadsTo (Assertion.holds t.before x) i j ∧ p[j]? = some .accept := by
  rw [matched_step, List.any_eq_true]
  constructor
  · rintro ⟨j, hj, haccept⟩
    obtain ⟨-, i, hi, hled⟩ := h.mem_informed_iff.1 hj
    exact ⟨i, hi, j, hled, Program.isAccept_iff.1 haccept⟩
  · rintro ⟨i, hi, j, hled, haccept⟩
    have hlt := (Array.getElem?_eq_some_iff.1 haccept).1
    exact ⟨j, h.mem_informed_iff.2 ⟨hlt, i, hi, hled⟩, Program.isAccept_iff.2 haccept⟩

end Settled

end Threads

theorem Program.settled_after (p : Program) (entry : Nat) (word : Bytes) :
    Threads.Settled p ((p.toMachine entry).after (p.toMachine entry).start word) := by
  rcases List.eq_nil_or_concat word with rfl | ⟨word, b, rfl⟩
  · exact Threads.settled_ofTargets _ _ _
  · rw [List.concat_eq_append, Machine.after_append]
    exact Threads.settled_step (p := p) _ (some b)

end TransitionMap.Pattern
