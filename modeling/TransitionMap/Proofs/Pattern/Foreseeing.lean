import TransitionMap.Proofs.Pattern.Asserting
import TransitionMap.Proofs.Pattern.Matching

/-!
# Matches seen one byte ahead

The machine of a pattern reports a match on the byte behind it, and the automaton accepts where the
end of the input would be a match. So a match is missed only when an assertion lets it end in front
of the byte and not at the end of the input. `Assertion.looksAhead` tells when this is so: the byte
is a word byte, and what the assertion asks for depends on whether another one stands before
(`Assertion.holds_only_inside_iff`).

`compile_accepts_before_match`: the walk has accepted every match that the machine reports, except
in front of a word byte where the pattern can end in an assertion that looks ahead.
-/

namespace TransitionMap

/-- Whether a match is reported anywhere while a word and then the end of the input are read. -/
def Machine.EntersMatch {σ : Type} (m : Machine σ) (word : Bytes) : Prop :=
  (∃ u, u <+: word ∧ m.isMatch (m.after m.start u) = true) ∨
    m.accepting (m.after m.start word) = true

namespace Pattern

/-! ## What stands before a place -/

/-- Whether a word ends in a word byte. -/
def endsInWord (u : Bytes) : Bool := u.getLast?.any isWordByte

/-- What stands behind a word. -/
def Before.behind (u : Bytes) : Before := (u.getLast?.map ofByte).getD start

theorem Before.ofByte_eq_wordByte_iff {b : UInt8} : ofByte b = wordByte ↔ isWordByte b = true := by
  by_cases hfeed : b = 0x0a
  · subst hfeed
    decide
  by_cases hreturn : b = 0x0d
  · subst hreturn
    decide
  cases hword : isWordByte b <;> simp [ofByte, hfeed, hreturn, hword]

theorem Before.behind_eq_wordByte_iff {u : Bytes} :
    behind u = wordByte ↔ endsInWord u = true := by
  rw [behind, endsInWord]
  cases u.getLast? with
  | none => exact ⟨nofun, nofun⟩
  | some b => exact ofByte_eq_wordByte_iff

/-- Threads that have read a word and, where one of them has come to an assertion, know of what
stands behind the word whatever the program asks for. -/
structure Threads.Behind (p : Program) (u : Bytes) (t : Threads) : Prop extends Settled p t where
  confuses : ∀ i ∈ t.nodes, ∀ a j, p[i]? = some (.assert a j) → p.Confuses t.before (.behind u)

theorem Program.behind_after (p : Program) (entry : Nat) (u : Bytes) :
    Threads.Behind p u ((p.toMachine entry).after (p.toMachine entry).start u) where
  toSettled := p.settled_after entry u
  confuses i hi a j ha := by
    rcases List.eq_nil_or_concat u with rfl | ⟨u, b, rfl⟩
    · exact Threads.confuses_ofTargets hi ha
    · rw [List.concat_eq_append, Machine.after_append] at hi ⊢
      rw [Before.behind, List.getLast?_append]
      exact Threads.confuses_ofTargets hi ha

/-! ## Looking ahead -/

/-- Whether an assertion can hold in front of a word byte and fail at the end of the input, by
whether a word byte stands before. -/
def Assertion.looksAhead (inWord : Bool) : Assertion → Bool
  | .word _ .boundary => !inWord
  | .word _ .inside => inWord
  | .word _ .start => !inWord
  | _ => false

theorem Assertion.holds_only_inside_iff {before : Before} {b : UInt8} {a : Assertion} :
    a.holds before (some b) = true ∧ a.holds before none = false ↔
      isWordByte b = true ∧ a.looksAhead (before = .wordByte) = true := by
  have hnext : (some b).any isWordByte = isWordByte b := rfl
  cases a with
  | lineStart crlf => cases crlf <;> simp only [holds, looksAhead] <;> grind
  | lineEnd crlf => cases crlf <;> simp [holds, looksAhead]
  | word unicode edge =>
    cases edge <;> cases hword : isWordByte b <;> by_cases hbefore : before = .wordByte <;>
      simp [holds, looksAhead, hnext, hword, hbefore]
  | _ => simp [holds, looksAhead]

/-- What holds in front of a byte holds at the end of the input. -/
theorem Assertion.holds_at_end {u : Bytes} {b : UInt8} {a : Assertion}
    (hahead : isWordByte b = false ∨ a.looksAhead (endsInWord u) = false)
    (h : a.holds (.behind u) (some b) = true) : a.holds (.behind u) none = true := by
  by_contra hend
  obtain ⟨hbyte, hlooks⟩ := holds_only_inside_iff.1 ⟨h, Bool.eq_false_iff.2 hend⟩
  simp only [Before.behind_eq_wordByte_iff, Bool.decide_eq_true] at hlooks
  rcases hahead with hahead | hahead
  · rw [hbyte] at hahead
    cases hahead
  · rw [hlooks] at hahead
    cases hahead

variable {anchored : Bool} {e : Expr}

/-- What threads come to in front of a byte they come to at the end of the input, unless an
assertion that looks ahead at a word byte is the last thing before the match ends. -/
theorem leadsTo_at_end {u : Bytes} {b : UInt8}
    (hlast : isWordByte b = false ∨ ∀ a ∈ e.lastAssertions, a.looksAhead (endsInWord u) = false)
    {i j : Nat}
    (hled : (Program.ofExpr anchored e).1.LeadsTo (Assertion.holds (.behind u) (some b)) i j)
    (haccept : (Program.ofExpr anchored e).1[j]? = some .accept) :
    (Program.ofExpr anchored e).1.LeadsTo (Assertion.holds (.behind u) none) i j := by
  induction hled using Relation.ReflTransGen.head_induction_on with
  | refl => exact .refl
  | head hlead hrest ih =>
    refine .head ?_ ih
    rcases hlead with ⟨k, hk⟩ | ⟨k, hk⟩ | ⟨a, ha, hholds⟩
    · exact .first k hk
    · exact .second k hk
    · have hread : ∃ n, (Program.ofExpr anchored e).1.Reads n _ [] :=
        Program.LeadsTo.reads hrest (.accept haccept : Program.Reads _ 0 j [])
      have hmem := (Program.assertion_mem ha).2 hread
      exact .assert a ha (Assertion.holds_at_end (hlast.imp id (· a hmem)) hholds)

/-- A match that threads report on a byte they report at the end of the input too. -/
theorem matched_at_end {u : Bytes} {t : Threads}
    (ht : Threads.Behind (Program.ofExpr anchored e).1 u t) {b : UInt8}
    (hlast : isWordByte b = false ∨ ∀ a ∈ e.lastAssertions, a.looksAhead (endsInWord u) = false)
    (hmatch : (t.step (Program.ofExpr anchored e).1 (some b)).matched = true) :
    (t.step (Program.ofExpr anchored e).1 none).matched = true := by
  by_cases hasserts : ∃ i ∈ t.nodes, ∃ a j, (Program.ofExpr anchored e).1[i]? = some (.assert a j)
  · obtain ⟨k, hk, a, l, ha⟩ := hasserts
    have hconfuses := ht.confuses k hk a l ha
    obtain ⟨i, hi, j, hled, haccept⟩ := ht.matched_step_iff.1 hmatch
    have hend := leadsTo_at_end hlast (hconfuses.leadsTo hled) haccept
    exact ht.matched_step_iff.2 ⟨i, hi, j, hconfuses.symm.leadsTo hend, haccept⟩
  · -- What stands before may be forgotten here, but nothing asks for it.
    have hfree : ∀ i ∈ t.nodes, (Program.ofExpr anchored e).1.assertion? i = none := by
      intro i hi
      unfold Program.assertion?
      split
      case h_1 a j ha => exact absurd ⟨i, hi, a, j, ha⟩ hasserts
      case h_2 => rfl
    rw [Threads.matched_step, Threads.informed_eq_nodes hfree] at hmatch ⊢
    exact hmatch

/-- A match reported on a byte is accepted in front of it, unless the byte is a word byte and the
pattern can end in an assertion that looks ahead. -/
theorem accepts_of_isMatch {options : Options} {u : Bytes} {b : UInt8}
    (hlast : isWordByte b = false ∨ ∀ a ∈ e.lastAssertions, a.looksAhead (endsInWord u) = false)
    (hmatch : (machine options e).toMachine.isMatch
      ((machine options e).toMachine.after (machine options e).toMachine.start (u ++ [b])) = true) :
    (machine options e).toAutomaton.accepts u = true := by
  rw [(agree_machine options e).isMatch, Machine.after_append] at hmatch
  rw [accepts_eq_threads]
  exact matched_at_end (Program.behind_after _ _ u) hlast hmatch

/-! ## What has been read when a match ends -/

/-- A match is reported behind a word of the language, which is read from the start when the pattern
has to begin there. -/
theorem exists_read_of_isMatch {options : Options} {u : Bytes} {b : UInt8}
    (hmatch : (machine options e).toMachine.isMatch
      ((machine options e).toMachine.after (machine options e).toMachine.start (u ++ [b])) = true) :
    ∃ s v, u = s ++ v ∧ ((options.anchored || e.assertsStart) = true → s = []) ∧
      v ∈ e.language := by
  rw [(agree_machine options e).isMatch, Machine.after_append] at hmatch
  have hread := Program.exists_reads_of_matched (x := some b) hmatch
  cases hstart : options.anchored || e.assertsStart with
  | true => exact ⟨[], u, rfl, fun _ => rfl, (Program.reads_ofExpr_anchored hstart u).1 hread⟩
  | false =>
    obtain ⟨hanchored, hasserts⟩ := Bool.or_eq_false_iff.1 hstart
    rw [hanchored] at hread
    obtain ⟨s, v, huv, hv⟩ := (Program.reads_ofExpr_unanchored hasserts u).1 hread
    exact ⟨s, v, huv, nofun, hv⟩

/-- The walk accepts at a place exactly when the machine has a match there at the end of the input.
A match that the machine reports on a byte has been accepted in front of the byte if that is no word
byte, or if no assertion that the pattern can end in looks ahead behind what has been read. So
nothing is missed of a pattern whose words all end where its last assertions do not look ahead. -/
theorem compile_accepts_before_match {pattern : String} {options : Options} {e : Expr}
    {a : Automaton Nat}
    (parsed : parse pattern = .ok e) (compiled : compile pattern options = .ok a) :
    let m := (machine options e).toMachine
    (∀ w, a.accepts w = m.accepting (m.after m.start w)) ∧
    (∀ u b, m.isMatch (m.after m.start (u ++ [b])) = true →
      isWordByte b = false ∨ (∀ x ∈ e.lastAssertions, x.looksAhead (endsInWord u) = false) →
        a.accepts u = true) ∧
    ((∀ u v, ((options.anchored || e.assertsStart) = true → u = []) → v ∈ e.language →
        ∀ x ∈ e.lastAssertions, x.looksAhead (endsInWord (u ++ v)) = false) →
      ∀ w, m.EntersMatch w → ∃ u, u <+: w ∧ a.accepts u = true) := by
  intro m
  obtain rfl := eq_of_compile parsed compiled
  refine ⟨accepts_eq_accepting options e, fun u b hmatch hlast => accepts_of_isMatch hlast hmatch,
    ?_⟩
  rintro hwords w (⟨u, hu, hmatch⟩ | hend)
  · rcases List.eq_nil_or_concat u with rfl | ⟨u, b, rfl⟩
    · rw [(agree_machine options e).isMatch] at hmatch
      cases hmatch
    · rw [List.concat_eq_append] at hu hmatch
      refine ⟨u, (List.prefix_append u [b]).trans hu, accepts_of_isMatch (.inr ?_) hmatch⟩
      obtain ⟨s, v, rfl, hstart, hv⟩ := exists_read_of_isMatch hmatch
      exact hwords s v hstart hv
  · exact ⟨w, List.prefix_refl w, (accepts_eq_accepting options e w).trans hend⟩

/-- After `a` the machine waits for a word byte, so that the end of the input is no match. -/
theorem missed_inside_word :
    let e := Expr.seq (.text ['a']) (.assert (.word false .inside))
    parse "a(?-u:\\B)" = .ok e ∧ compile "a(?-u:\\B)" {} = .ok (machine {} e).toAutomaton ∧
      (machine {} e).toMachine.EntersMatch [97, 98] ∧
      ∀ u, u <+: [97, 98] → (machine {} e).toAutomaton.accepts u = false := by
  intro e
  have parsed : parse "a(?-u:\\B)" = .ok e := by
    simp only [e]
    cbv
  refine ⟨parsed, by rw [compile, parsed]; rfl, .inl ⟨[97, 98], List.prefix_refl _, ?_⟩,
    fun u hu => ?_⟩
  · rw [(agree_machine {} e).isMatch]
    simp only [e]
    cbv
  · rw [accepts_eq_threads]
    simp only [List.prefix_cons_iff, List.prefix_nil] at hu
    rcases hu with rfl | ⟨_, rfl, rfl | ⟨_, rfl, rfl⟩⟩
    all_goals
      simp only [e]
      cbv

/-- A boundary in front of all that is read does not decide where the match ends, and one behind a
letter does not look ahead. -/
theorem accepts_before_match_between_boundaries :
    let e := Expr.seq (.assert (.word false .boundary))
      (.seq (.text ['a']) (.assert (.word false .boundary)))
    parse "(?-u:\\b)a(?-u:\\b)" = .ok e ∧
      ∀ w, (machine {} e).toMachine.EntersMatch w →
        ∃ u, u <+: w ∧ (machine {} e).toAutomaton.accepts u = true := by
  intro e
  have parsed : parse "(?-u:\\b)a(?-u:\\b)" = .ok e := by
    simp only [e]
    cbv
  have compiled : compile "(?-u:\\b)a(?-u:\\b)" {} = .ok (machine {} e).toAutomaton := by
    rw [compile, parsed]
    rfl
  refine ⟨parsed, (compile_accepts_before_match parsed compiled).2.2 ?_⟩
  intro u v _ hv x hx
  have hlanguage : e.language = {[97]} := by
    simp only [e, Expr.language, one_mul, mul_one]
    rfl
  rw [hlanguage] at hv
  obtain rfl : v = [97] := hv
  obtain rfl : x = .word false .boundary := by
    simpa [e, Expr.lastAssertions, Expr.nullable] using hx
  rw [endsInWord, List.getLast?_append]
  rfl

end Pattern

end TransitionMap
