import TransitionMap.Proofs.Covering
import TransitionMap.Proofs.Minimizing

/-!
# Minimal machines have no more states to visit

Dividing never tells apart what a relation that goes along the rows holds together
(`Tabled.Alike.classOf_eq`). Two uses of this:

* States that report no match and lead to none that does make up one class, which is dead
  (`Tabled.Silent.isDead_classOf`). So the class of a dead state is dead, and the class of a spent
  state is spent (`Tabled.isSpent_classOf`); a class may be dead or spent though none of its states
  is. The automaton of a minimal table therefore leaves out more transitions, never fewer: the
  automaton it is made from covers it (`Tabled.covers_minimize`), although both walks need not get
  stuck at the same place.
* States that report the same matches on every input are in one class (`Tabled.Regular.classOf_eq`).
  So every machine that agrees with a table covers its minimal table
  (`Tabled.Regular.exists_covers`), whether it has been made from that table or not.
-/

namespace TransitionMap

/-! ## What a machine reports from a state on -/

namespace Machine

variable {σ τ : Type}

/-- No match is reported from a state on. -/
def Mute (m : Machine σ) (s : σ) : Prop :=
  ∀ word, m.isMatch (m.after s word) = false ∧ m.accepting (m.after s word) = false

/-- The same matches are reported from two states on. -/
def Indistinct (m : Machine σ) (s s' : σ) : Prop :=
  ∀ word, m.isMatch (m.after s word) = m.isMatch (m.after s' word) ∧
    m.accepting (m.after s word) = m.accepting (m.after s' word)

variable {m : Machine σ} {n : Machine τ}

theorem Mute.indistinct {s s' : σ} (h : m.Mute s) (h' : m.Mute s') : m.Indistinct s s' :=
  fun word => ⟨(h word).1.trans (h' word).1.symm, (h word).2.trans (h' word).2.symm⟩

theorem Simulates.mute {R : σ → τ → Prop} (h : Simulates m n R) {s : σ} {t : τ} (hst : R s t)
    (hmute : n.Mute t) : m.Mute s := by
  intro word
  have hafter := h.after hst word
  rw [h.isMatch _ _ hafter, accepting, h.isMatch _ _ (h.next _ _ hafter none)]
  exact hmute word

theorem Sealed.mute {s : σ} (h : m.Sealed) (hs : m.Occurs s) (hdead : m.isDead s = true) :
    m.Mute s := by
  intro word
  refine ⟨?_, h.accepting_after hs hdead word⟩
  rw [h.after hs hdead, h.isMatch s hs hdead]

section Agree

variable (h : Agree m n)
include h

theorem Agree.mute {u : Bytes} (hmute : m.Mute (m.after m.start u)) :
    n.Mute (n.after n.start u) := by
  intro word
  rw [← after_append, ← h.isMatch, ← h.accepting, after_append]
  exact hmute word

/-- Words that lead to one state of a machine lead to indistinct states of the other. -/
theorem Agree.indistinct {u v : Bytes} (hsame : m.after m.start u = m.after m.start v) :
    n.Indistinct (n.after n.start u) (n.after n.start v) := by
  intro word
  simp only [← after_append, ← h.isMatch, ← h.accepting]
  rw [after_append, after_append, hsame]
  exact ⟨rfl, rfl⟩

end Agree

end Machine

namespace Tabled

variable {t : Tabled} {s : Nat}

/-- The class of a state. -/
def classOf (t : Tabled) (s : Nat) : Nat := t.classes.1.getD s 0

/-! ## Steps and classes -/

theorem toMachine_next_lt (t : Tabled) (s : Nat) (x : Symbol) : t.toMachine.next s x < t.size :=
  t.next_lt s x

theorem next_classOf (hs : s < t.size) (x : Symbol) :
    t.minimize.toMachine.next (t.classOf s) x = t.classOf (t.toMachine.next s x) :=
  (t.simulates_minimize.next s _ ⟨hs, rfl⟩ x).2.symm

theorem isMatch_classOf (hs : s < t.size) :
    t.minimize.toMachine.isMatch (t.classOf s) = t.toMachine.isMatch s :=
  (t.simulates_minimize.isMatch s _ ⟨hs, rfl⟩).symm

/-- A word leads to the class of the state that it leads to in the table. -/
theorem after_classOf (t : Tabled) (word : Bytes) :
    t.minimize.toMachine.after t.minimize.toMachine.start word =
      t.classOf (t.toMachine.after t.toMachine.start word) :=
  (t.simulates_minimize.after t.simulates_minimize.start word).2.symm

theorem accepting_classOf (hs : s < t.size) :
    t.minimize.toMachine.accepting (t.classOf s) = t.toMachine.accepting s := by
  rw [Machine.accepting, next_classOf hs, isMatch_classOf (t.toMachine_next_lt s none),
    Machine.accepting]

theorem row_classOf (hs : s < t.size) :
    t.minimize.row (t.classOf s) = (t.row s).map t.classOf := by
  obtain ⟨first, hfirst, hclass, -, hrow⟩ := minimize_spec (class_lt_minimize hs)
  have hsame := map_row_eq hs hfirst hclass.symm
  exact hrow.trans hsame.symm

/-! ## What is never told apart -/

/-- A relation between states that report the same and whose rows it holds between again. -/
structure Alike (t : Tabled) (R : Nat → Nat → Prop) : Prop where
  lt_size : ∀ s s', R s s' → s < t.size ∧ s' < t.size
  isMatch : ∀ s s', R s s' → t.matchesAt s = t.matchesAt s'
  row : ∀ s s', R s s' → List.Forall₂ R (t.row s).toList (t.row s').toList

section Alike

variable {R : Nat → Nat → Prop} (h : t.Alike R)
include h

/-- What is related and in one class has one signature, when all that is related is in one class. -/
theorem Alike.signature_eq {classOf : Array Nat}
    (hsame : ∀ s s', R s s' → classOf.getD s 0 = classOf.getD s' 0) {s s' : Nat} (hs : R s s') :
    t.signature classOf s = t.signature classOf s' := by
  have hrows : ((t.row s).toList.map fun u => classOf.getD u 0) =
      (t.row s').toList.map fun u => classOf.getD u 0 := by
    rw [← List.forall₂_eq_eq_eq, List.forall₂_map_left_iff, List.forall₂_map_right_iff]
    exact (h.row s s' hs).imp hsame
  rw [signature, signature, hsame s s' hs, hrows]

/-- No round of dividing classes divides what is related. -/
theorem Alike.refine_eq {fuel count : Nat} {classOf : Array Nat}
    (hsame : ∀ s s', R s s' → classOf.getD s 0 = classOf.getD s' 0) {s s' : Nat} (hs : R s s') :
    (t.refine fuel classOf count).1.getD s 0 = (t.refine fuel classOf count).1.getD s' 0 := by
  induction fuel generalizing classOf count with
  | zero => exact hsame s s' hs
  | succ fuel ih =>
    simp only [refine]
    split
    case isTrue => exact hsame s s' hs
    case isFalse =>
      refine ih fun r r' hr => ?_
      obtain ⟨hlt, hlt'⟩ := h.lt_size r r' hr
      rw [classify_eq_iff _ hlt hlt']
      exact h.signature_eq hsame hr

/-- What is related is in one class. -/
theorem Alike.classOf_eq {s s' : Nat} (hs : R s s') : t.classOf s = t.classOf s' := by
  refine h.refine_eq (fun r r' hr => ?_) hs
  obtain ⟨hlt, hlt'⟩ := h.lt_size r r' hr
  refine (classify_eq_iff _ hlt hlt').2 ?_
  rw [h.isMatch r r' hr]

end Alike

/-! ## Silent states -/

/-- States of a table that report no match and whose rows, all of one width, never leave them. -/
structure Silent (t : Tabled) (P : Nat → Prop) : Prop where
  lt_size : ∀ s, P s → s < t.size
  isMatch : ∀ s, P s → t.matchesAt s = false
  row : ∀ s, P s → ∀ u ∈ t.row s, P u
  width : ∀ s s', P s → P s' → (t.row s).size = (t.row s').size

section Silent

variable {P : Nat → Prop} (h : t.Silent P)
include h

theorem Silent.alike : t.Alike fun s s' => P s ∧ P s' where
  lt_size s s' hs := ⟨h.lt_size s hs.1, h.lt_size s' hs.2⟩
  isMatch s s' hs := (h.isMatch s hs.1).trans (h.isMatch s' hs.2).symm
  row s s' hs := by
    rw [List.forall₂_iff_zip]
    refine ⟨h.width s s' hs.1 hs.2, fun {u u'} hmem => ?_⟩
    obtain ⟨hu, hu'⟩ := List.of_mem_zip hmem
    rw [Array.mem_toList_iff] at hu hu'
    exact ⟨h.row s hs.1 u hu, h.row s' hs.2 u' hu'⟩

/-- The class of the silent states is dead. -/
theorem Silent.isDead_classOf {s : Nat} (hs : P s) :
    t.minimize.toMachine.isDead (t.classOf s) = true := by
  have hlt := h.lt_size s hs
  have hmatch : t.minimize.matchesAt (t.classOf s) = false :=
    (isMatch_classOf hlt).trans (h.isMatch s hs)
  have hrow : (t.minimize.row (t.classOf s)).all (· == t.classOf s) = true := by
    rw [row_classOf hlt, Array.all_eq_true_iff_forall_mem]
    intro k hk
    obtain ⟨u, hu, rfl⟩ := Array.mem_map.1 hk
    rw [h.alike.classOf_eq ⟨h.row s hs u hu, hs⟩, beq_self_eq_true]
  have hand : (!t.minimize.matchesAt (t.classOf s) &&
      (t.minimize.row (t.classOf s)).all (· == t.classOf s)) = true := by
    rw [hmatch, hrow, Bool.not_false, Bool.and_self]
  exact hand

end Silent

/-! ## Dead and spent states -/

theorem isDead_classOf (hs : s < t.size) (hdead : t.toMachine.isDead s = true) :
    t.minimize.toMachine.isDead (t.classOf s) = true := by
  have hdead : (!t.matchesAt s && (t.row s).all (· == s)) = true := hdead
  obtain ⟨hmatch, hrow⟩ := Bool.and_eq_true_iff.1 hdead
  have hself : t.Silent (· = s) := by
    refine ⟨?_, ?_, ?_, ?_⟩
    · rintro _ rfl
      exact hs
    · rintro _ rfl
      simpa using hmatch
    · rintro _ rfl u hu
      exact beq_iff_eq.1 (Array.all_eq_true_iff_forall_mem.1 hrow u hu)
    · rintro _ _ rfl rfl
      rfl
  exact hself.isDead_classOf rfl

theorem isDeadEnd_classOf (hs : s < t.size) (hend : t.toMachine.isDeadEnd s = true) :
    t.minimize.toMachine.isDeadEnd (t.classOf s) = true := by
  rw [Machine.isDeadEnd, List.all_eq_true] at hend ⊢
  intro b hb
  rw [next_classOf hs]
  exact isDead_classOf (t.toMachine_next_lt s (some b)) (hend b hb)

theorem isSpent_classOf (hs : s < t.size) (hspent : t.toMachine.isSpent s = true) :
    t.minimize.toMachine.isSpent (t.classOf s) = true := by
  rw [Machine.isSpent, Bool.or_eq_true, Bool.and_eq_true] at hspent ⊢
  rcases hspent with hdead | ⟨hrefuses, hend⟩
  · exact .inl (isDead_classOf hs hdead)
  · rw [accepting_classOf hs]
    exact .inr ⟨hrefuses, isDeadEnd_classOf hs hend⟩

/-! ## Walks -/

theorem lt_of_reaches (h : t.toAutomaton.Reaches s) : s < t.size := by
  induction h with
  | refl => exact t.nonempty
  | @tail r u _ hstep _ =>
    obtain ⟨⟨x, u⟩, hmem, rfl⟩ := List.mem_map.1 hstep
    rw [t.transitions_toAutomaton, Machine.mem_transitions_iff] at hmem
    rw [hmem.2]
    exact t.toMachine_next_lt r (some x)

/-- A transition to a class that is not spent comes from one to a state that is not spent. -/
theorem covers_minimize (t : Tabled) : t.toAutomaton.Covers t.minimize.toAutomaton t.classOf where
  start := class_zero.symm
  lift s hs x k hk := by
    have hlt := lt_of_reaches hs
    rw [transitions_toAutomaton, Machine.mem_transitions_iff, next_classOf hlt] at hk
    obtain ⟨hlive, rfl⟩ := hk
    refine ⟨t.toMachine.next s (some x), ?_, rfl⟩
    rw [transitions_toAutomaton, Machine.mem_transitions_iff]
    refine ⟨Bool.eq_false_iff.2 fun hspent => ?_, rfl⟩
    rw [isSpent_classOf (t.toMachine_next_lt s (some x)) hspent] at hlive
    cases hlive

/-! ## Minimal tables and other machines -/

/-- Every row lists where the symbols of the columns lead, and behind the end of the input only the
match in front of it is reported. -/
structure Regular (t : Tabled) : Prop where
  covered : t.Covered
  row : ∀ s < t.size, (t.row s).toList = t.columns.symbols.map (t.toMachine.next s)
  mute : ∀ s < t.size, ∀ x, t.toMachine.Mute (t.toMachine.next (t.toMachine.next s none) x)

theorem after_start_lt (t : Tabled) (word : Bytes) :
    t.toMachine.after t.toMachine.start word < t.size :=
  t.after_lt t.nonempty word

namespace Regular

variable (h : t.Regular)
include h

theorem mute_next (hs : s < t.size) (hmute : t.toMachine.Mute s) (x : Symbol) :
    t.toMachine.Mute (t.toMachine.next s x) := by
  intro word
  cases x with
  | some b => exact hmute (b :: word)
  | none =>
    cases word with
    | nil => exact ⟨(hmute []).2, (h.mute s hs none []).1⟩
    | cons b word => exact h.mute s hs (some b) word

theorem silent : t.Silent fun s => s < t.size ∧ t.toMachine.Mute s where
  lt_size _ hs := hs.1
  isMatch _ hs := (hs.2 []).1
  row s hs u hu := by
    rw [← Array.mem_toList_iff, h.row s hs.1, List.mem_map] at hu
    obtain ⟨x, -, rfl⟩ := hu
    exact ⟨t.toMachine_next_lt s x, h.mute_next hs.1 hs.2 x⟩
  width s s' hs hs' := by
    rw [← Array.length_toList, ← Array.length_toList, h.row s hs.1, h.row s' hs'.1,
      List.length_map, List.length_map]

theorem isDead_classOf (hs : s < t.size) (hmute : t.toMachine.Mute s) :
    t.minimize.toMachine.isDead (t.classOf s) = true :=
  h.silent.isDead_classOf ⟨hs, hmute⟩

/-- Indistinct states lead to indistinct states on every byte. The end of the input leads to states
that report the same and lead to states from which nothing is reported. -/
theorem alike : t.Alike fun s s' => s < t.size ∧ s' < t.size ∧ (t.toMachine.Indistinct s s' ∨
    t.matchesAt s = t.matchesAt s' ∧
      ∀ x, t.toMachine.Mute (t.toMachine.next s x) ∧ t.toMachine.Mute (t.toMachine.next s' x)) where
  lt_size _ _ hs := ⟨hs.1, hs.2.1⟩
  isMatch _ _ hs := by
    obtain ⟨-, -, hsame | hsame⟩ := hs
    · exact (hsame []).1
    · exact hsame.1
  row s s' hs := by
    obtain ⟨hlt, hlt', hsame⟩ := hs
    rw [h.row s hlt, h.row s' hlt', List.forall₂_map_left_iff, List.forall₂_map_right_iff,
      List.forall₂_same]
    refine fun x _ => ⟨t.toMachine_next_lt s x, t.toMachine_next_lt s' x, ?_⟩
    rcases hsame with hsame | ⟨-, hmute⟩
    · cases x with
      | some b => exact .inl fun word => hsame (b :: word)
      | none => exact .inr ⟨(hsame []).2, fun x => ⟨h.mute s hlt x, h.mute s' hlt' x⟩⟩
    · exact .inl ((hmute x).1.indistinct (hmute x).2)

/-- Indistinct states are in one class. -/
theorem classOf_eq {s' : Nat} (hs : s < t.size) (hs' : s' < t.size)
    (hsame : t.toMachine.Indistinct s s') : t.classOf s = t.classOf s' :=
  h.alike.classOf_eq ⟨hs, hs', .inl hsame⟩

section Agree

variable {σ : Type} {m : Machine σ} (hagree : m.Agree t.toMachine)
include hagree

/-- The class that a word leads to is the same for all words that lead to one state. -/
theorem exists_class : ∃ f : σ → Nat, ∀ word,
    f (m.after m.start word) = t.classOf (t.toMachine.after t.toMachine.start word) := by
  have hfactors : Function.FactorsThrough
      (fun word => t.classOf (t.toMachine.after t.toMachine.start word)) (m.after m.start) :=
    fun u v hsame => h.classOf_eq (t.after_start_lt u) (t.after_start_lt v)
      (hagree.indistinct hsame)
  exact ⟨_, fun word => hfactors.extend_apply (fun _ => 0) word⟩

variable (hm : m.Sealed)
include hm

theorem isDead_of_agree {word : Bytes} (hdead : m.isDead (m.after m.start word) = true) :
    t.minimize.toMachine.isDead (t.classOf (t.toMachine.after t.toMachine.start word)) = true :=
  h.isDead_classOf (t.after_start_lt word) (hagree.mute (hm.mute ⟨word, rfl⟩ hdead))

/-- Where a machine is spent, so is the minimal table. -/
theorem isSpent_of_agree {word : Bytes} (hspent : m.isSpent (m.after m.start word) = true) :
    t.minimize.toMachine.isSpent (t.classOf (t.toMachine.after t.toMachine.start word)) = true := by
  rw [Machine.isSpent, Bool.or_eq_true, Bool.and_eq_true] at hspent ⊢
  rcases hspent with hdead | ⟨hrefuses, hend⟩
  · exact .inl (h.isDead_of_agree hagree hm hdead)
  · have hlt := t.after_start_lt word
    rw [hagree.accepting] at hrefuses
    rw [accepting_classOf hlt]
    refine .inr ⟨hrefuses, List.all_eq_true.2 fun b hb => ?_⟩
    have hdead := List.all_eq_true.1 hend b hb
    rw [next_classOf hlt, ← Machine.after_concat]
    exact h.isDead_of_agree hagree hm (by rwa [Machine.after_concat])

/-- Every automaton that prunes a machine covers the minimal table of a table that agrees with the
machine. -/
theorem exists_covers {b : Automaton σ} (hb : Prunes b m) :
    ∃ f, b.Covers t.minimize.toAutomaton f := by
  obtain ⟨f, hf⟩ := h.exists_class hagree
  refine ⟨f, ?_, fun s hs x k hk => ?_⟩
  · rw [hb.start]
    exact class_zero.symm.trans (hf []).symm
  · obtain ⟨word, rfl⟩ := (hb.occurs_of_reaches hs).1
    have hlt := t.after_start_lt word
    rw [hf, transitions_toAutomaton, Machine.mem_transitions_iff, next_classOf hlt] at hk
    obtain ⟨hlive, rfl⟩ := hk
    rw [← Machine.after_concat] at hlive ⊢
    refine ⟨m.after m.start (word ++ [x]), ?_, hf (word ++ [x])⟩
    rw [hb.transitions, Machine.mem_transitions_iff]
    refine ⟨Bool.eq_false_iff.2 fun hspent => ?_, m.after_concat m.start word x⟩
    rw [h.isSpent_of_agree hagree hm hspent] at hlive
    cases hlive

end Agree

end Regular

/-- The table of a machine that reports nothing behind the end of the input is regular. -/
theorem regular_explore {σ : Type} [DecidableEq σ] [Hashable σ] {m : Machine σ} {columns : Columns}
    {bound : Nat} {support : List σ} (hbounds : Bounds support m) (hlength : support.length ≤ bound)
    (hdistinguishes : Distinguishes columns m)
    (hmute : ∀ s x, m.Mute (m.next (m.next s none) x)) : (explore m columns bound).Regular := by
  have hsimulates := simulates_explore hbounds hlength hdistinguishes
  obtain ⟨hcolumns, hsize, hspec⟩ := explore_spec columns hbounds hlength
  refine ⟨covered_explore hbounds hlength hdistinguishes, fun i hi => ?_, fun i hi x => ?_⟩
  · rw [hsize] at hi
    have hs := List.getElem?_eq_getElem hi
    -- an entry of a row and the step on its symbol number one state
    have htargets := (hspec i _ hs).2
    rw [← List.forall₂_eq_eq_eq, List.map_map, List.forall₂_map_left_iff,
      List.forall₂_map_right_iff] at htargets
    rw [hcolumns, ← List.forall₂_eq_eq_eq, List.forall₂_map_right_iff]
    refine htargets.imp fun u y hu => ?_
    have hnext := hsimulates.next i _ hs y
    have hlt := (List.getElem?_eq_some_iff.1 hu).1
    exact (List.getElem?_inj hlt (OrderedSet.nodup_toList _)).1 (hu.trans hnext.symm)
  · rw [hsize] at hi
    have hs := List.getElem?_eq_getElem hi
    exact hsimulates.mute (hsimulates.next _ _ (hsimulates.next _ _ hs none) x) (hmute _ x)

end Tabled

end TransitionMap
