import Mathlib.Data.Fintype.BigOperators
import Mathlib.Data.List.Find
import TransitionMap.Proofs.Columns
import TransitionMap.Proofs.Pattern.Settling
import TransitionMap.Proofs.Tabling

/-!
# The thread machine of a program is finite

`Program.bounds_states`: there are no more states than `Program.stateBound` says, since the nodes
of a state are distinct addresses. `Program.distinguishes`: bytes in one column lead to the same
state, since branches and assertions compare a byte with the starts of columns only.
-/

namespace TransitionMap.Pattern

instance : Fintype Before where
  elems := {.start, .lineFeed, .carriageReturn, .wordByte, .other}
  complete before := by cases before <;> decide

namespace Program

variable (p : Program)

/-! ## Few states -/

/-- The list that a function with values up to `n` stands for; the value `n` fills up. -/
def nodesOf {n : Nat} (f : Fin n → Fin (n + 1)) : List Nat :=
  (List.ofFn fun i => (f i).val).filter (· < n)

theorem exists_nodesOf {n : Nat} {nodes : List Nat} (hlt : ∀ i ∈ nodes, i < n)
    (hnodup : nodes.Nodup) :
    ∃ f : Fin n → Fin (n + 1), nodesOf f = nodes := by
  have hsub : nodes ⊆ List.range n := fun i hi => List.mem_range.2 (hlt i hi)
  have hlength : nodes.length ≤ n := by simpa using (hnodup.subperm hsub).length_le
  have hfill : ∀ i, nodes.getD i n < n + 1 := fun i => by
    rw [List.getD_eq_getElem?_getD]
    cases hi : nodes[i]? with
    | none => exact Nat.lt_succ_self n
    | some v => exact Nat.lt_succ_of_lt (hlt v (List.mem_of_getElem? hi))
  refine ⟨fun i => ⟨nodes.getD i n, hfill i⟩, ?_⟩
  have hpadded : (List.ofFn fun i : Fin n => nodes.getD i n) =
      nodes ++ List.replicate (n - nodes.length) n := by
    refine List.ext_getElem (by simp; omega) fun i hi hi' => ?_
    simp only [List.getElem_ofFn, List.getD_eq_getElem?_getD, List.getElem_append,
      List.getElem_replicate]
    split
    case isTrue h => rw [List.getElem?_eq_getElem h, Option.getD_some]
    case isFalse h => rw [List.getElem?_eq_none (Nat.le_of_not_lt h), Option.getD_none]
  rw [nodesOf, hpadded, List.filter_append, List.filter_eq_self.2 (by simpa using hlt),
    List.filter_eq_nil_iff.2 fun i hi => by simp [List.eq_of_mem_replicate hi], List.append_nil]

/-- The states whose nodes are distinct addresses, and some more. -/
noncomputable def states : List Threads :=
  (Finset.univ : Finset (Bool × Before × (Fin p.size → Fin (p.size + 1)))).toList.map
    fun (matched, before, f) => ⟨matched, before, nodesOf f⟩

theorem length_states : p.states.length = p.stateBound := by
  have hbefore : Fintype.card Before = 5 := rfl
  simp only [states, List.length_map, Finset.length_toList, Finset.card_univ, Fintype.card_prod,
    Fintype.card_bool, hbefore, Fintype.card_fun, Fintype.card_fin, stateBound, ← Nat.mul_assoc]
  rfl

theorem mem_states {t : Threads} (h : Threads.Settled p t) : t ∈ p.states := by
  obtain ⟨f, hf⟩ := exists_nodesOf h.lt_size h.nodup
  refine List.mem_map.2 ⟨(t.matched, t.before, f), by simp, ?_⟩
  simp only [hf]

theorem bounds_states (entry : Nat) : Tabled.Bounds p.states (p.toMachine entry) where
  start := p.mem_states (Threads.settled_ofTargets _ _ _)
  next _ _ := p.mem_states (Threads.settled_step _ _)

/-! ## Columns -/

/-- Two bytes on the same side of each start of a column. -/
def Alike (b c : UInt8) : Prop := ∀ k ∈ p.columnStarts, k ≤ b.toNat ↔ k ≤ c.toNat

variable {p}

theorem Alike.le_iff {b c : UInt8} (h : p.Alike b c) {arms : List (UInt8 × UInt8 × Nat)} {i : Nat}
    (hi : p[i]? = some (.branch arms)) {arm : UInt8 × UInt8 × Nat} (harm : arm ∈ arms) :
    (arm.1 ≤ b && b ≤ arm.2.1) = (arm.1 ≤ c && c ≤ arm.2.1) := by
  have hmem : ∀ k ∈ [arm.1.toNat, arm.2.1.toNat + 1], k ∈ p.columnStarts := fun k hk =>
    List.mem_flatMap.2 ⟨_, Array.mem_def.1 (Array.mem_of_getElem? hi),
      List.mem_flatMap.2 ⟨arm, harm, hk⟩⟩
  have hlo := h _ (hmem _ List.mem_cons_self)
  have hhi := h _ (hmem _ (List.mem_cons_of_mem _ List.mem_cons_self))
  rw [Bool.eq_iff_iff]
  simp only [Bool.and_eq_true, decide_eq_true_eq, UInt8.le_iff_toNat_le]
  omega

theorem Alike.target?_eq {b c : UInt8} (h : p.Alike b c) (i : Nat) :
    p.target? b i = p.target? c i := by
  unfold target?
  split
  case h_1 arms hi =>
    rw [List.find?_congr fun arm harm => h.le_iff hi harm]
  case h_2 => rfl

/-- Where anything is asserted, columns tell apart all that assertions ask for. -/
theorem Alike.kind_eq {b c : UInt8} (h : p.Alike b c) {i : Nat} {a : Assertion}
    (hi : p.assertion? i = some a) :
    (b = 0x0a ↔ c = 0x0a) ∧ (b = 0x0d ↔ c = 0x0d) ∧ isWordByte b = isWordByte c := by
  obtain ⟨next, hnode⟩ : ∃ next, p[i]? = some (.assert a next) := by
    unfold assertion? at hi
    split at hi
    case h_1 a' next hnode => exact ⟨next, Option.some.inj hi ▸ hnode⟩
    case h_2 => cases hi
  have hmarks : ∀ k ∈ [0x0a, 0x0b, 0x0d, 0x0e, 0x30, 0x3a, 0x41, 0x5b, 0x5f, 0x60, 0x61, 0x7b],
      k ≤ b.toNat ↔ k ≤ c.toNat := fun k hk =>
    h k (List.mem_flatMap.2 ⟨_, Array.mem_def.1 (Array.mem_of_getElem? hnode), hk⟩)
  simp only [List.mem_cons, List.not_mem_nil, or_false, forall_eq_or_imp, forall_eq] at hmarks
  refine ⟨?_, ?_, Bool.eq_iff_iff.2 ?_⟩
  all_goals
    simp only [isWordByte, Bool.or_eq_true, Bool.and_eq_true, decide_eq_true_eq,
      UInt8.le_iff_toNat_le, ← UInt8.toNat_inj, UInt8.reduceToNat]
    omega

theorem Alike.ofByte_eq {b c : UInt8} (h : p.Alike b c) {i : Nat} {a : Assertion}
    (hi : p.assertion? i = some a) : Before.ofByte b = Before.ofByte c := by
  obtain ⟨hfeed, hreturn, hword⟩ := h.kind_eq hi
  simp only [Before.ofByte, hfeed, hreturn, hword]

theorem Alike.holds_eq {b c : UInt8} (h : p.Alike b c) {i : Nat} {a : Assertion}
    (hi : p.assertion? i = some a) (before : Before) :
    Assertion.holds before (some b) = Assertion.holds before (some c) := by
  obtain ⟨hfeed, hreturn, hword⟩ := h.kind_eq hi
  by_cases hb : b = 0x0a
  · rw [hb, hfeed.1 hb]
  by_cases hb' : b = 0x0d
  · rw [hb', hreturn.1 hb']
  have hc : c ≠ 0x0a := mt hfeed.2 hb
  have hc' : c ≠ 0x0d := mt hreturn.2 hb'
  funext a
  cases a with
  | textStart => rfl
  | textEnd => rfl
  | lineStart crlf =>
    cases crlf <;> simp [Assertion.holds, bne, beq_eq_false_iff_ne.2 hb, beq_eq_false_iff_ne.2 hc]
  | lineEnd crlf => cases crlf <;> simp [Assertion.holds, hb, hb', hc, hc']
  | word unicode edge => cases edge <;> simp [Assertion.holds, hword]

/-- Without assertions nothing that stands before a place matters. -/
theorem settle_eq_of_no_assertion (hfree : ∀ i, p.assertion? i = none)
    (holds holds' : Assertion → Bool) :
    p.settle holds = p.settle holds' := by
  have hways : p.ways holds = p.ways holds' := by
    funext i
    have hi := hfree i
    unfold assertion? at hi
    unfold ways
    split <;> simp_all
  have hadvance : p.advance holds = p.advance holds' := by
    funext fuel stack seen
    induction fuel generalizing stack seen with
    | zero => rfl
    | succ fuel ih =>
      cases stack with
      | nil => rfl
      | cons i rest => simp only [advance, hways, ih]
  funext threads
  rw [settle, settle, hadvance]

theorem Alike.step_eq {b c : UInt8} (h : p.Alike b c) (t : Threads) :
    t.step p (some b) = t.step p (some c) := by
  have htarget : p.target? b = p.target? c := funext h.target?_eq
  by_cases hassert : ∃ i a, p.assertion? i = some a
  · obtain ⟨i, a, hi⟩ := hassert
    simp only [Threads.step, Threads.informed, h.holds_eq hi, h.ofByte_eq hi, htarget]
  · have hfree : ∀ i, p.assertion? i = none := fun i =>
      Option.eq_none_iff_forall_ne_some.2 fun a ha => hassert ⟨i, a, ha⟩
    have hinformed : ∀ x, t.informed p x = t.nodes := Threads.informed_eq_nodes fun i _ => hfree i
    simp only [Threads.step, Threads.ofTargets, hinformed, htarget, kept_of_free hfree,
      settle_eq_of_no_assertion hfree (Before.ofByte b).settles (Before.ofByte c).settles]

theorem distinguishes (p : Program) (entry : Nat) :
    Tabled.Distinguishes (Columns.ofStarts p.columnStarts) (p.toMachine entry) := by
  intro t x
  cases x with
  | none => exact ⟨none, by simp [Columns.index, Columns.symbols], rfl⟩
  | some b =>
    obtain ⟨c, hc, halike⟩ := Columns.exists_sample p.columnStarts b
    refine ⟨some c, ?_, Alike.step_eq halike t⟩
    have hlt := (List.getElem?_eq_some_iff.1 hc).1
    rw [Columns.index, Columns.symbols, List.getElem?_append_left (by simpa using hlt),
      List.getElem?_map, hc, Option.map_some]

end Program

end TransitionMap.Pattern
