import Mathlib
import TransitionMap.Pattern
import TransitionMap.Proofs.Pattern.Bounding
import TransitionMap.Proofs.Pattern.Meaning
import TransitionMap.Proofs.Pattern.Running
import TransitionMap.Proofs.Quotients

/-!
# Where the automaton of a pattern accepts

The machine of a pattern, tabled and minimized or not, reports the matches of its threads
(`agree_machine`), and its automaton accepts where the machine has a match at the end of the input
(`accepts_eq_accepting`). From this:

* `pruning_keeps_words`: leaving out transitions loses no accepted word, whatever the machine is;
* `compile_first_accepted`: without assertions, the walk first accepts where a word of the pattern's
  language first ends.
-/

namespace TransitionMap.Pattern

/-! ## The table of a pattern -/

section Table

variable (options : Options) (e : Expr)

/-- The machine that runs the threads of an expression. -/
def threadMachine (anchored : Bool) (e : Expr) : Machine Threads :=
  (Program.ofExpr anchored e).1.toMachine (Program.ofExpr anchored e).2

/-- Threads that have all come to an end report nothing more. -/
theorem Program.mute_of_nodes_eq_nil {p : Program} (entry : Nat) {t : Threads}
    (ht : t.nodes = []) (hmatched : t.matched = false) : (p.toMachine entry).Mute t := by
  intro word
  induction word generalizing t with
  | nil => exact ⟨hmatched, (step_of_nodes_eq_nil ht none).1⟩
  | cons b word ih =>
    have hstep := step_of_nodes_eq_nil (p := p) ht (some b)
    exact ih hstep.2 hstep.1

/-- The table of a pattern reports the matches of its threads, and nothing behind the end of the
input. -/
theorem agree_tabled (anchored : Bool) :
    (tabled anchored e).toMachine.Agree (threadMachine anchored e) ∧
      (tabled anchored e).Regular := by
  have hbounds := (Program.ofExpr anchored e).1.bounds_states (Program.ofExpr anchored e).2
  have hlength := Nat.le_of_eq (Program.ofExpr anchored e).1.length_states
  have hdistinguishes := (Program.ofExpr anchored e).1.distinguishes (Program.ofExpr anchored e).2
  refine ⟨(Tabled.simulates_explore hbounds hlength hdistinguishes).agree,
    Tabled.regular_explore hbounds hlength hdistinguishes fun t x => ?_⟩
  have hended : (t.step (Program.ofExpr anchored e).1 none).nodes = [] := rfl
  obtain ⟨hmatched, hnodes⟩ := Program.step_of_nodes_eq_nil hended x
  exact Program.mute_of_nodes_eq_nil _ hnodes hmatched

/-- The machine of a pattern reports the matches of its threads. -/
theorem agree_machine : (machine options e).toMachine.Agree (threadMachine options.anchored e) := by
  rw [machine]
  split
  · exact Tabled.simulates_minimize.agree.symm.trans (agree_tabled e options.anchored).1
  · exact (agree_tabled e options.anchored).1

theorem covered_machine : (machine options e).Covered := by
  rw [machine]
  split
  · exact (agree_tabled e options.anchored).2.covered.minimize
  · exact (agree_tabled e options.anchored).2.covered

/-- The automaton of a pattern accepts where its machine has a match at the end of the input. -/
theorem accepts_eq_accepting (word : Bytes) :
    (machine options e).toAutomaton.accepts word =
      (machine options e).toMachine.accepting
        ((machine options e).toMachine.after (machine options e).toMachine.start word) :=
  (machine options e).prunes.accepts_eq (covered_machine options e).sealed word

theorem accepts_eq_threads (word : Bytes) :
    (machine options e).toAutomaton.accepts word = (threadMachine options.anchored e).accepting
      ((threadMachine options.anchored e).after (threadMachine options.anchored e).start word) := by
  rw [accepts_eq_accepting, (agree_machine options e).accepting]

end Table

theorem eq_of_compile {pattern : String} {options : Options} {e : Expr} {a : Automaton Nat}
    (parsed : parse pattern = .ok e) (compiled : compile pattern options = .ok a) :
    a = (machine options e).toAutomaton := by
  rw [compile, parsed] at compiled
  exact (Except.ok.inj compiled).symm

/-! ## Transitions left out -/

/-- Leaving out the transitions to dead and spent states loses no accepted word: of any machine
whose dead states report no match and lead to themselves only, and so of the machine of every
pattern. -/
theorem pruning_keeps_words :
    (∀ {σ : Type} {m : Machine σ} {a : Automaton σ}, m.Sealed → Prunes a m → KeepsWords a m) ∧
    ∀ (pattern : String) (options : Options) (a : Automaton Nat),
      compile pattern options = .ok a →
        ∃ e, parse pattern = .ok e ∧ (machine options e).toMachine.Sealed ∧
          Prunes a (machine options e).toMachine ∧ KeepsWords a (machine options e).toMachine := by
  refine ⟨fun hsealed hprunes => hprunes.keepsWords hsealed, ?_⟩
  intro pattern options a compiled
  cases parsed : parse pattern with
  | error error =>
    rw [compile, parsed] at compiled
    cases compiled
  | ok e =>
    obtain rfl := eq_of_compile parsed compiled
    have hsealed := (covered_machine options e).sealed
    have hprunes := (machine options e).prunes
    exact ⟨e, rfl, hsealed, hprunes, hprunes.keepsWords hsealed⟩

/-- State 1 comes behind the letter `a`, state 2 reports the match one symbol later and is left out,
state 3 is dead. The pattern `a` has the same words. -/
theorem pruning_keeps_single_letter :
    let m : Machine (Fin 4) :=
      { start := 0
        next := fun s x => match s, x with
          | 0, some 97 => 1
          | 1, _ => 2
          | _, _ => 3
        isMatch := (· == 2)
        isDead := (· == 3) }
    let a := m.pruned m.isSpent (List.finRange 4) (List.mem_finRange _)
      (fun _ _ _ => List.mem_finRange _) (fun _ => "")
    m.Sealed ∧ Prunes a m ∧ a.step? 0 97 = some 1 ∧ (∀ b, a.step? 1 b = none) ∧ KeepsWords a m ∧
      ∃ b, compile "a" {} = .ok b ∧
        ∃ e, parse "a" = .ok e ∧ KeepsWords b (machine {} e).toMachine := by
  intro m a
  have hsealed : m.Sealed := by
    constructor
    · intro s _ hdead
      obtain rfl : s = 3 := eq_of_beq hdead
      rfl
    · intro s _ hdead x
      obtain rfl : s = 3 := eq_of_beq hdead
      rfl
  have hprunes : Prunes a m := m.prunes_pruned _ _ _ _
  have hlive : m.isSpent 1 = false := by decide +kernel
  have hspent : m.isSpent 2 = true := by decide +kernel
  have hfirst : a.step? 0 97 = some 1 := by
    rw [hprunes.step?_eq]
    exact if_neg (Bool.eq_false_iff.1 hlive)
  have hsecond : ∀ b, a.step? 1 b = none := by
    intro b
    rw [hprunes.step?_eq]
    exact if_pos hspent
  have parsed : parse "a" = .ok (.text ['a']) := by cbv
  have compiled : compile "a" {} = .ok (machine {} (.text ['a'])).toAutomaton := by
    rw [compile, parsed]
    rfl
  obtain ⟨e, hparse, -, -, hwords⟩ := pruning_keeps_words.2 "a" {} _ compiled
  exact ⟨hsealed, hprunes, hfirst, hsecond, pruning_keeps_words.1 hsealed hprunes, _, compiled, e,
    hparse, hwords⟩

/-! ## The first accepted place -/

variable {e : Expr}

/-- What a thread can read behind passing any bytes ends with a word of the language. -/
theorem exists_append_iff {L : Language UInt8} {w : Bytes} :
    (∃ u v, w = u ++ v ∧ v ∈ L) ↔ ∃ j ≤ w.length, w.drop j ∈ L := by
  constructor
  · rintro ⟨u, v, rfl, hv⟩
    refine ⟨u.length, ?_, by rwa [List.drop_left]⟩
    rw [List.length_append]
    exact Nat.le_add_right _ _
  · rintro ⟨j, -, hj⟩
    exact ⟨w.take j, w.drop j, (List.take_append_drop j w).symm, hj⟩

theorem nonempty_iff_of_isLeast_iff {A B : Set Nat} (h : ∀ i, IsLeast A i ↔ IsLeast B i) :
    A.Nonempty ↔ B.Nonempty := by
  have hleast : ∀ C : Set Nat, C.Nonempty ↔ ∃ i, IsLeast C i := fun C =>
    ⟨fun hC => ⟨sInf C, Nat.sInf_mem hC, fun _ => Nat.sInf_le⟩, fun ⟨i, hi⟩ => ⟨i, hi.1⟩⟩
  rw [hleast, hleast]
  exact exists_congr h

theorem assertion?_eq_none (anchored : Bool) (hfree : e.assertions = []) (i : Nat) :
    (Program.ofExpr anchored e).1.assertion? i = none := by
  unfold Program.assertion?
  split
  case h_1 a j hi =>
    have hmem := (Program.assertion_mem hi).1
    rw [hfree] at hmem
    cases hmem
  case h_2 => rfl

/-- The walk first accepts where a thread has first read a word to the end of a match. -/
theorem isLeast_acceptedAt_iff {options : Options} (hfree : e.assertions = []) (w : Bytes)
    (i : Nat) :
    IsLeast ((machine options e).toAutomaton.acceptedAt w) i ↔
      IsLeast {i | i ≤ w.length ∧ ∃ n, (Program.ofExpr options.anchored e).1.Reads n
        (Program.ofExpr options.anchored e).2 (w.take i)} i := by
  simp only [Automaton.acceptedAt, accepts_eq_threads]
  exact Program.isLeast_accepting_iff (assertion?_eq_none options.anchored hfree) _ w i

theorem isLeast_acceptedAt_anchored {options : Options} (hfree : e.assertions = [])
    (hanchored : options.anchored = true) (w : Bytes) (i : Nat) :
    IsLeast ((machine options e).toAutomaton.acceptedAt w) i ↔
      IsLeast {i | i ≤ w.length ∧ w.take i ∈ e.language} i := by
  have hread : (options.anchored || e.assertsStart) = true := by rw [hanchored, Bool.true_or]
  simp only [isLeast_acceptedAt_iff hfree, Program.reads_ofExpr_anchored hread]

theorem isLeast_acceptedAt_unanchored {options : Options} (hfree : e.assertions = [])
    (hunanchored : options.anchored = false) (w : Bytes) (i : Nat) :
    IsLeast ((machine options e).toAutomaton.acceptedAt w) i ↔
      IsLeast {i | i ≤ w.length ∧ ∃ j ≤ i, (w.take i).drop j ∈ e.language} i := by
  have hset : {i | i ≤ w.length ∧ ∃ n, (Program.ofExpr options.anchored e).1.Reads n
      (Program.ofExpr options.anchored e).2 (w.take i)} =
      {i | i ≤ w.length ∧ ∃ j ≤ i, (w.take i).drop j ∈ e.language} := by
    ext i
    refine and_congr_right fun hi => ?_
    rw [hunanchored, Program.reads_ofExpr_unanchored (Expr.assertsStart_of_assertions_eq_nil hfree),
      exists_append_iff, List.length_take, Nat.min_eq_left hi]
  rw [isLeast_acceptedAt_iff hfree, hset]

/-- As long as nothing has been accepted, a walk that may begin anywhere is not stuck. -/
theorem isSome_run?_of_not_accepted {options : Options} (hfree : e.assertions = [])
    (hunanchored : options.anchored = false) {u : Bytes} (hu : u ∈ e.language) {w : Bytes}
    (hnone : ¬((machine options e).toAutomaton.acceptedAt w).Nonempty) :
    ((machine options e).toAutomaton.run? (machine options e).toAutomaton.start w).isSome =
      true := by
  have hlater : ((machine options e).toAutomaton.acceptedAt (w ++ u)).Nonempty := by
    rw [nonempty_iff_of_isLeast_iff (isLeast_acceptedAt_unanchored hfree hunanchored (w ++ u))]
    refine ⟨(w ++ u).length, Nat.le_refl _, w.length, by simp, ?_⟩
    rwa [List.take_length, List.drop_left]
  obtain ⟨i, hi, haccepts⟩ := hlater
  refine Automaton.isSome_run?_of_accepts ?_ haccepts
  rcases Nat.le_total i w.length with hle | hle
  · rw [List.take_append_of_le_length hle] at haccepts
    exact absurd ⟨i, hle, haccepts⟩ hnone
  · rw [List.take_append, List.take_of_length_le hle]
    exact List.prefix_append w _

theorem parse_of_compile {pattern : String} {s : Syntax} {options : Options} {a : Automaton Nat}
    (parsed : Syntax.parse? pattern = some s) (compiled : compile pattern options = .ok a) :
    ∃ e flags, s.expr? {} = some (e, flags) ∧ parse pattern = .ok e := by
  rw [compile, parse, parsed, Option.bind_some] at compiled
  rw [parse, parsed, Option.bind_some]
  cases hexpr : s.expr? {} with
  | none =>
    rw [hexpr] at compiled
    cases compiled
  | some result =>
    obtain ⟨e, flags⟩ := result
    rw [hexpr] at compiled
    refine ⟨e, flags, rfl, if_neg fun hword => ?_⟩
    simp only [if_pos hword] at compiled
    cases compiled

/-- Without assertions the walk of a pattern first accepts where a word of its language first ends:
a word that begins at the start of the text, or anywhere when the pattern is not anchored. Then the
walk is not stuck before, nor while nothing has been accepted and the language has any word. -/
theorem compile_first_accepted {pattern : String} {s : Syntax} {options : Options}
    {a : Automaton Nat} (parsed : Syntax.parse? pattern = some s) (free : s.asserts = false)
    (compiled : compile pattern options = .ok a) :
    ∃ L flags, s.language? {} = some (L, flags) ∧
      (options.anchored = true → ∀ w : Bytes,
        ((a.acceptedAt w).Nonempty ↔ ∃ i ≤ w.length, w.take i ∈ L) ∧
        ∀ i, IsLeast (a.acceptedAt w) i ↔ IsLeast {i | i ≤ w.length ∧ w.take i ∈ L} i) ∧
      (options.anchored = false → ∀ w : Bytes,
        ((a.acceptedAt w).Nonempty ↔ ∃ i ≤ w.length, ∃ j ≤ i, (w.take i).drop j ∈ L) ∧
        (∀ i, IsLeast (a.acceptedAt w) i ↔
          IsLeast {i | i ≤ w.length ∧ ∃ j ≤ i, (w.take i).drop j ∈ L} i) ∧
        (∀ i ∈ a.acceptedAt w, ∀ k ≤ i, (a.run? a.start (w.take k)).isSome = true) ∧
        ((∃ u, u ∈ L) → ¬(a.acceptedAt w).Nonempty → (a.run? a.start w).isSome = true)) := by
  obtain ⟨e, flags, hexpr, hparse⟩ := parse_of_compile parsed compiled
  have hfree : e.assertions = [] := Syntax.free_of_asserts_eq_false free hexpr
  obtain rfl := eq_of_compile hparse compiled
  refine ⟨e.language, flags, by rw [Syntax.language?_eq, hexpr]; rfl, fun hanchored w => ?_,
    fun hunanchored w => ?_⟩
  · have hleast := isLeast_acceptedAt_anchored hfree hanchored w
    exact ⟨nonempty_iff_of_isLeast_iff hleast, hleast⟩
  · have hleast := isLeast_acceptedAt_unanchored hfree hunanchored w
    refine ⟨nonempty_iff_of_isLeast_iff hleast, hleast, fun i hi k hk => ?_, fun hword hnone => ?_⟩
    · refine Automaton.isSome_run?_of_accepts ?_ hi.2
      rw [← Nat.min_eq_left hk, ← List.take_take]
      exact List.take_prefix k _
    · obtain ⟨u, hu⟩ := hword
      exact isSome_run?_of_not_accepted hfree hunanchored hu hnone

/-- The pattern prefers `ab`, and still the walk first accepts after `a`. -/
theorem first_accepted_of_alternatives :
    let s := Syntax.alternation [.concat [.literal ⟨'a', false⟩, .literal ⟨'b', false⟩],
      .literal ⟨'a', false⟩]
    let a := (machine {} (.either (.text ['a', 'b']) (.text ['a']))).toAutomaton
    Syntax.parse? "ab|a" = some s ∧ s.asserts = false ∧ compile "ab|a" {} = .ok a ∧
      ∃ L flags, s.language? {} = some (L, flags) ∧
        ∀ w i, IsLeast (a.acceptedAt w) i ↔ IsLeast {i | i ≤ w.length ∧ w.take i ∈ L} i := by
  intro s a
  have parsed : Syntax.parse? "ab|a" = some s := by
    simp only [s]
    cbv
  have compiled : compile "ab|a" {} = .ok a := by
    have hparse : parse "ab|a" = .ok (.either (.text ['a', 'b']) (.text ['a'])) := by cbv
    rw [compile, hparse]
    rfl
  obtain ⟨L, flags, hlanguage, hanchored, -⟩ := compile_first_accepted parsed rfl compiled
  exact ⟨parsed, rfl, compiled, L, flags, hlanguage, fun w => (hanchored rfl w).2⟩

end TransitionMap.Pattern
