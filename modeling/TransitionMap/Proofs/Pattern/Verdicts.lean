import TransitionMap.Proofs.Pattern.Matching

/-!
# Minimizing changes no verdict

Automata that prune machines with the same matches accept the same words
(`Prunes.accepts_iff_of_agree`), however different their states are. So the automaton of a minimal
table condenses the automaton of the table (`Tabled.condenses_minimize`), and also every other
automaton that prunes a machine with these matches (`Tabled.Regular.condenses`), such as a pattern's
from a construction that numbers other states (`Pattern.minimizing_keeps_verdicts`).
-/

namespace TransitionMap

/-- Pruning leaves the same words of machines that report the same matches. -/
theorem Prunes.accepts_iff_of_agree {σ τ : Type} {m : Machine σ} {n : Machine τ} {a : Automaton σ}
    {b : Automaton τ} (ha : Prunes a m) (hm : m.Sealed) (hb : Prunes b n) (hn : n.Sealed)
    (hagree : m.Agree n) (word : Bytes) :
    (∃ s, a.run? a.start word = some s ∧ a.accepting s = true) ↔
      ∃ s, b.run? b.start word = some s ∧ b.accepting s = true := by
  rw [(ha.keepsWords hm).accepts_iff, (hb.keepsWords hn).accepts_iff]
  exact Bool.eq_iff_iff.1 (hagree.accepting word)

namespace Tabled

variable {t : Tabled}

theorem condenses_minimize (h : t.Covered) :
    t.minimize.toAutomaton.Condenses t.toAutomaton where
  accepts_iff := t.minimize.prunes.accepts_iff_of_agree h.minimize.sealed t.prunes h.sealed
    t.simulates_minimize.agree.symm
  length_enumerate_le := t.covers_minimize.length_enumerate_le

/-- The minimal table is the smallest of all that report its matches. -/
theorem Regular.condenses (h : t.Regular) {σ : Type} [DecidableEq σ] [Hashable σ] {m : Machine σ}
    {b : Automaton σ} (hm : m.Sealed) (hb : Prunes b m) (hagree : m.Agree t.toMachine) :
    t.minimize.toAutomaton.Condenses b where
  accepts_iff := t.minimize.prunes.accepts_iff_of_agree h.covered.minimize.sealed hb hm
    (t.simulates_minimize.agree.symm.trans hagree.symm)
  length_enumerate_le := by
    obtain ⟨f, hf⟩ := h.exists_covers hagree hm hb
    exact hf.length_enumerate_le

end Tabled

namespace Pattern

theorem exists_compile_eq_ok_iff {pattern : String} {options : Options} :
    (∃ a, compile pattern options = .ok a) ↔ ∃ e, parse pattern = .ok e := by
  rw [compile]
  cases parse pattern with
  | error error =>
    constructor
    · rintro ⟨a, h⟩
      cases h
    · rintro ⟨e, h⟩
      cases h
  | ok e => exact ⟨fun _ => ⟨e, rfl⟩, fun _ => ⟨_, rfl⟩⟩

/-- Minimizing changes no verdict and adds no states. Every table whose rows are full has the
automaton of its minimal table accept the same words with no more states that can be reached. A
pattern that compiles, compiles with and without minimizing, and its minimized automaton condenses
the other one; it condenses the automaton of every machine that reports the matches of the pattern,
whatever the states of that machine are. -/
theorem minimizing_keeps_verdicts :
    (∀ t : Tabled, t.Covered → t.minimize.toAutomaton.Condenses t.toAutomaton) ∧
    ∀ (pattern : String) (anchored : Bool),
      ((∃ a, compile pattern ⟨anchored, true⟩ = .ok a) ↔
        ∃ b, compile pattern ⟨anchored, false⟩ = .ok b) ∧
      (∀ a b, compile pattern ⟨anchored, true⟩ = .ok a →
        compile pattern ⟨anchored, false⟩ = .ok b → a.Condenses b) ∧
      ∀ a e, compile pattern ⟨anchored, true⟩ = .ok a → parse pattern = .ok e →
        ∀ {σ : Type} [DecidableEq σ] [Hashable σ] (m : Machine σ) (b : Automaton σ), m.Sealed →
          Prunes b m → m.Agree (tabled anchored e).toMachine → a.Condenses b := by
  refine ⟨fun t h => Tabled.condenses_minimize h, fun pattern anchored => ⟨?_, ?_, ?_⟩⟩
  · rw [exists_compile_eq_ok_iff, exists_compile_eq_ok_iff]
  · intro a b ha hb
    obtain ⟨e, parsed⟩ := exists_compile_eq_ok_iff.1 ⟨a, ha⟩
    obtain rfl := eq_of_compile parsed ha
    obtain rfl := eq_of_compile parsed hb
    exact Tabled.condenses_minimize (agree_tabled e anchored).2.covered
  · intro a e ha parsed σ _ _ m b hm hb hagree
    obtain rfl := eq_of_compile parsed ha
    exact (agree_tabled e anchored).2.condenses hm hb hagree

/-- The states behind `a` and behind `c` are one when they have been minimized. -/
theorem minimizing_keeps_verdicts_common_suffix :
    let e := Expr.either (.text ['a', 'b']) (.text ['c', 'b'])
    let t := tabled true e
    let a := (machine ⟨true, true⟩ e).toAutomaton
    let b := (machine ⟨true, false⟩ e).toAutomaton
    t.Covered ∧ t.minimize.toAutomaton.Condenses t.toAutomaton ∧
      compile "ab|cb" ⟨true, true⟩ = .ok a ∧ compile "ab|cb" ⟨true, false⟩ = .ok b ∧
      a.Condenses b ∧
      parse "ab|cb" = .ok e ∧ t.toMachine.Sealed ∧ Prunes t.toAutomaton t.toMachine ∧
      t.toMachine.Agree t.toMachine ∧ a.Condenses t.toAutomaton := by
  intro e t a b
  have parsed : parse "ab|cb" = .ok e := by
    simp only [e]
    cbv
  have ha : compile "ab|cb" ⟨true, true⟩ = .ok a := by
    rw [compile, parsed]
    rfl
  have hb : compile "ab|cb" ⟨true, false⟩ = .ok b := by
    rw [compile, parsed]
    rfl
  have hcovered : t.Covered := (agree_tabled e true).2.covered
  have hagree : t.toMachine.Agree t.toMachine := ⟨fun _ => rfl, fun _ => rfl⟩
  obtain ⟨htable, hpattern⟩ := minimizing_keeps_verdicts
  obtain ⟨-, hboth, hother⟩ := hpattern "ab|cb" true
  refine ⟨hcovered, htable t hcovered, ha, hb, hboth a b ha hb, parsed, hcovered.sealed, t.prunes,
    hagree, ?_⟩
  exact hother a e ha parsed t.toMachine t.toAutomaton hcovered.sealed t.prunes hagree

end Pattern

end TransitionMap
