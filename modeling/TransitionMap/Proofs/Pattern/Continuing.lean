import TransitionMap.Proofs.Pattern.Matching

/-!
# Where no match can continue

Without assertions a match is reported on every symbol alike (`Program.matched_step_eq`). So when no
word is accepted behind some threads, no match is reported behind any byte (`Program.mute_step`);
in the minimal machine all states so reached are one dead state (`Pattern.isDead_next`). Hence a
state is left out exactly when no accepted word passes through it (`Pattern.isSpent_eq_false_iff`),
and a missing transition means that no match can continue there (`Pattern.compile_consumes_iff`).
-/

namespace TransitionMap

namespace Pattern

/-! ## Threads without a future -/

namespace Program

variable {p : Program} (hfree : ∀ i, p.assertion? i = none)
include hfree

/-- Whether a match is reported does not depend on the symbol. -/
theorem matched_step_eq (t : Threads) (x : Symbol) :
    (t.step p x).matched = (t.step p none).matched := by
  simp only [Threads.matched_step, informed_of_free hfree]

/-- Behind threads whose words are all refused a byte leads to no match at all. -/
theorem mute_step {entry : Nat} {t : Threads}
    (h : ∀ word, (p.toMachine entry).accepting ((p.toMachine entry).after t word) = false)
    (b : UInt8) : (p.toMachine entry).Mute (t.step p (some b)) := by
  refine fun word => ⟨?_, h (b :: word)⟩
  obtain ⟨u, c, hu⟩ := (List.eq_nil_or_concat (b :: word)).resolve_left (List.cons_ne_nil b word)
  have hlast := (p.toMachine entry).after_concat t u c
  rw [← List.concat_eq_append, ← hu] at hlast
  exact (congrArg Threads.matched hlast).trans ((matched_step_eq hfree _ (some c)).trans (h u))

end Program

/-! ## States without a future -/

section

variable {anchored : Bool} {e : Expr} (hfree : e.assertions = [])
include hfree

/-- When no word is accepted behind a word, every byte leads to a dead state there. -/
theorem isDead_next {u : Bytes} :
    let m := (machine ⟨anchored, true⟩ e).toMachine
    (∀ v, m.accepting (m.after m.start (u ++ v)) = false) →
      ∀ b, m.isDead (m.next (m.after m.start u) (some b)) = true := by
  intro m hrefused b
  have hthreads : ∀ v, (threadMachine anchored e).accepting ((threadMachine anchored e).after
      ((threadMachine anchored e).after (threadMachine anchored e).start u) v) = false := by
    intro v
    rw [← Machine.after_append, ← (agree_machine ⟨anchored, true⟩ e).accepting]
    exact hrefused v
  have hmute := Program.mute_step (assertion?_eq_none anchored hfree) hthreads b
  obtain ⟨hagree, hregular⟩ := agree_tabled e anchored
  have hclass := (tabled anchored e).after_classOf (u ++ [b])
  rw [Machine.after_concat] at hclass
  refine (congrArg m.isDead hclass).trans (hregular.isDead_classOf (Tabled.after_start_lt _ _) ?_)
  refine hagree.symm.mute ?_
  rw [Machine.after_concat]
  exact hmute

/-- A state is left out unless some accepted word passes through it. -/
theorem isSpent_eq_false_iff {u : Bytes} :
    let m := (machine ⟨anchored, true⟩ e).toMachine
    m.isSpent (m.after m.start u) = false ↔ ∃ v, m.accepting (m.after m.start (u ++ v)) = true := by
  intro m
  constructor
  · intro hlive
    by_contra hnone
    have hrefused : ∀ v, m.accepting (m.after m.start (u ++ v)) = false := fun v =>
      Bool.eq_false_iff.2 fun hacc => hnone ⟨v, hacc⟩
    have hend : m.isDeadEnd (m.after m.start u) = true :=
      List.all_eq_true.2 fun b _ => isDead_next hfree hrefused b
    have hrefuses : m.accepting (m.after m.start u) = false := by
      simpa using hrefused []
    rw [Machine.isSpent, hrefuses, hend, Bool.not_false, Bool.and_self, Bool.or_true] at hlive
    cases hlive
  · rintro ⟨v, hacc⟩
    rw [Machine.after_append] at hacc
    exact Machine.not_isSpent_of_accepting_after (covered_machine _ e).sealed ⟨u, rfl⟩ hacc

end

/-- Without assertions a transition is missing exactly where no match can continue. The walk of a
minimized pattern consumes a word of at least one byte just when it can be continued to an accepted
word; every state that is reached, unless it is the start, accepts or leads to one that does; and of
the words that pass through a missing transition the pattern accepts none. -/
theorem compile_consumes_iff {pattern : String} {s : Syntax} {anchored : Bool}
    {a : Automaton Nat} (parsed : Syntax.parse? pattern = some s) (free : s.asserts = false)
    (compiled : compile pattern ⟨anchored, true⟩ = .ok a) :
    (∀ w : Bytes, w ≠ [] →
      ((a.run? a.start w).isSome = true ↔ ∃ v, a.accepts (w ++ v) = true)) ∧
    (∀ q ∈ a.enumerate, q ≠ a.start → ∃ v r, a.run? q v = some r ∧ a.accepting r = true) ∧
    ∃ e, parse pattern = .ok e ∧
      let m := (machine ⟨anchored, true⟩ e).toMachine
      Prunes a m ∧ ∀ q ∈ a.enumerate, ∀ b, a.step? q b = none →
        ∀ v, m.accepting (m.after q (b :: v)) = false := by
  obtain ⟨e, flags, hexpr, hparse⟩ := parse_of_compile parsed compiled
  have hfree : e.assertions = [] := Syntax.free_of_asserts_eq_false free hexpr
  have hsealed := (covered_machine ⟨anchored, true⟩ e).sealed
  have hprunes : Prunes a (machine ⟨anchored, true⟩ e).toMachine :=
    eq_of_compile hparse compiled ▸ (machine ⟨anchored, true⟩ e).prunes
  refine ⟨fun w hw => ⟨fun hconsumed => ?_, ?_⟩, fun q hq hne => ?_, e, hparse, hprunes, ?_⟩
  · obtain ⟨q, hrun⟩ := Option.isSome_iff_exists.1 hconsumed
    have hlive := hprunes.isSpent_of_run? hw hrun
    rw [hprunes.run?_eq_some hrun, hprunes.start] at hlive
    obtain ⟨v, hacc⟩ := (isSpent_eq_false_iff hfree).1 hlive
    exact ⟨v, (hprunes.accepts_eq hsealed (w ++ v)).trans hacc⟩
  · rintro ⟨v, hacc⟩
    exact Automaton.isSome_run?_of_accepts (List.prefix_append w v) hacc
  · obtain ⟨⟨u, rfl⟩, hlive⟩ := hprunes.occurs_of_reaches ((a.mem_enumerate_iff q).1 hq)
    obtain ⟨v, hacc⟩ := (isSpent_eq_false_iff hfree).1 (hlive hne)
    rw [Machine.after_append] at hacc
    have hword := hacc
    rw [← List.append_nil v] at hword
    refine ⟨v, _, hprunes.run?_of_accepting_after hsealed ⟨u, rfl⟩ hword, ?_⟩
    rw [hprunes.accepting, hacc]
  · intro q hq b hstuck v
    obtain ⟨hoccurs, -⟩ := hprunes.occurs_of_reaches ((a.mem_enumerate_iff q).1 hq)
    exact hprunes.refused_of_step?_eq_none hsealed hoccurs hstuck v

/-- The pattern may begin anywhere, and its walk still ends behind the first `ab`. -/
theorem compile_consumes_optional_letter :
    let s := Syntax.concat [.literal ⟨'a', false⟩,
      .repetition 0 (some 1) true (.literal ⟨'b', false⟩)]
    let e := Expr.seq (.text ['a']) (.repeated 0 (some 1) true (.text ['b']))
    let a := (machine ⟨false, true⟩ e).toAutomaton
    Syntax.parse? "ab?" = some s ∧ s.asserts = false ∧ compile "ab?" ⟨false, true⟩ = .ok a ∧
      (∀ w : Bytes, w ≠ [] →
        ((a.run? a.start w).isSome = true ↔ ∃ v, a.accepts (w ++ v) = true)) ∧
      (∀ q ∈ a.enumerate, q ≠ a.start → ∃ v r, a.run? q v = some r ∧ a.accepting r = true) ∧
      ∀ q ∈ a.enumerate, ∀ b, a.step? q b = none → ∀ v,
        (machine ⟨false, true⟩ e).toMachine.accepting
          ((machine ⟨false, true⟩ e).toMachine.after q (b :: v)) = false := by
  intro s e a
  have parsed : Syntax.parse? "ab?" = some s := by
    simp only [s]
    cbv
  have hparse : parse "ab?" = .ok e := by
    simp only [e]
    cbv
  have compiled : compile "ab?" ⟨false, true⟩ = .ok a := by
    rw [compile, hparse]
    rfl
  obtain ⟨hconsumes, hleads, e', hparse', -, hmissing⟩ := compile_consumes_iff parsed rfl compiled
  obtain rfl := Except.ok.inj (hparse.symm.trans hparse')
  exact ⟨parsed, rfl, compiled, hconsumes, hleads, hmissing⟩

end Pattern

end TransitionMap
