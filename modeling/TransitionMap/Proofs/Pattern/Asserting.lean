import TransitionMap.Proofs.Pattern.Language

/-!
# Where a program asserts something

`Expr.assertions` are the assertions in an expression, and `Expr.lastAssertions` those behind which
a match may end before another byte is read. `Program.assertion_mem`: the assertions of a program
are those of its expression, and the ones from which a match can be ended without reading are the
last ones.
-/

namespace TransitionMap.Pattern

open Program

namespace Fragment

/-- A piece asserts only what is in `A`. Behind what it asserts a match can be ended without
reading only if the assertion is in `Z` and that is so behind the piece. -/
def Asserts (piece : Layout) (A Z : List Assertion) : Prop :=
  ∀ (p : Program) (base next : Nat), p.Placed base (piece base next).nodes →
    ∀ a j, .assert a j ∈ (piece base next).nodes →
      a ∈ A ∧ ((∃ n, p.Reads n j []) → a ∈ Z ∧ ∃ n, p.Reads n next [])

variable {first second piece : Layout} {A B Y Z : List Assertion} {L : Language UInt8}

theorem Lays.nil (h : Lays piece L) {p : Program} {base next : Nat}
    (hp : p.Placed base (piece base next).nodes)
    (hread : ∃ n, p.Reads n (piece base next).entry []) :
    [] ∈ L ∧ ∃ n, p.Reads n next [] := by
  obtain ⟨n, hn⟩ := hread
  obtain ⟨u, v, huv, hu, hv⟩ := h.sound p base next hp n [] hn
  obtain ⟨rfl, rfl⟩ := List.append_eq_nil_iff.1 huv.symm
  exact ⟨hu, n, hv⟩

theorem asserts_of_forall_not_mem (h : ∀ base next a j, .assert a j ∉ (piece base next).nodes) :
    Asserts piece [] [] := fun _ base next _ a j hmem => absurd hmem (h base next a j)

theorem asserts_skip : Asserts skip [] [] :=
  asserts_of_forall_not_mem fun _ _ _ _ => List.not_mem_nil

theorem asserts_seq (hf : Asserts first A Z) (hs : Asserts second B Y) (hlays : Lays second L)
    {nullable : Bool} (hnullable : [] ∈ L → nullable = true) :
    Asserts (seq first second) (A ++ B) (Y ++ if nullable then Z else []) := by
  intro p base next hp a j hmem
  obtain ⟨hsecond, hfirst⟩ := placed_append hp
  rcases List.mem_append.1 hmem with hmem | hmem
  · obtain ⟨ha, hlast⟩ := hf p _ _ hfirst a j hmem
    refine ⟨List.mem_append_left _ ha, fun hread => ?_⟩
    obtain ⟨hz, hentry⟩ := hlast hread
    obtain ⟨hnil, hnext⟩ := hlays.nil hsecond hentry
    rw [hnullable hnil, if_pos rfl]
    exact ⟨List.mem_append_right _ hz, hnext⟩
  · obtain ⟨ha, hlast⟩ := hs p _ _ hsecond a j hmem
    exact ⟨List.mem_append_right _ ha,
      fun hread => ⟨List.mem_append_left _ (hlast hread).1, (hlast hread).2⟩⟩

theorem Asserts.mono (h : Asserts piece A Z) (hA : A ⊆ B) (hZ : Z ⊆ Y) : Asserts piece B Y :=
  fun p base next hp a j hmem =>
    ⟨hA (h p base next hp a j hmem).1, fun hread =>
      ⟨hZ ((h p base next hp a j hmem).2 hread).1, ((h p base next hp a j hmem).2 hread).2⟩⟩

/-- A sequence of pieces that assert the same. -/
theorem asserts_seq_self (hf : Asserts first A Z) (hs : Asserts second A Z)
    (hlays : Lays second L) :
    Asserts (seq first second) A Z :=
  (asserts_seq hf hs hlays fun _ => rfl).mono (by simp) (by simp)

theorem asserts_either (hf : Asserts first A Z) (hs : Asserts second B Y) :
    Asserts (either first second) (A ++ B) (Z ++ Y) := by
  intro p base next hp a j hmem
  obtain ⟨-, hfirst, hsecond⟩ := placed_either hp
  simp only [either, List.mem_append, List.mem_singleton, reduceCtorEq, or_false] at hmem
  rcases hmem with hmem | hmem
  · obtain ⟨ha, hlast⟩ := hs p _ _ hsecond a j hmem
    exact ⟨List.mem_append_right _ ha,
      fun hread => ⟨List.mem_append_right _ (hlast hread).1, (hlast hread).2⟩⟩
  · obtain ⟨ha, hlast⟩ := hf p _ _ hfirst a j hmem
    exact ⟨List.mem_append_left _ ha,
      fun hread => ⟨List.mem_append_left _ (hlast hread).1, (hlast hread).2⟩⟩

theorem asserts_copies (h : Asserts piece A Z) (hlays : Lays piece L) (n : Nat) :
    Asserts (copies piece n) A Z := by
  induction n with
  | zero => exact asserts_skip.mono (List.nil_subset A) (List.nil_subset Z)
  | succ n ih => exact asserts_seq_self h ih (lays_copies hlays n)

theorem choice_ne_assert {greedy : Bool} {body exit j : Nat} {a : Assertion} :
    .assert a j ≠ choice greedy body exit := by
  cases greedy <;> simp [choice]

theorem asserts_atMost (greedy : Bool) (h : Asserts piece A Z) (hlays : Lays piece L) (n : Nat) :
    Asserts (atMost greedy piece n) A Z := by
  induction n with
  | zero => exact asserts_skip.mono (List.nil_subset A) (List.nil_subset Z)
  | succ n ih =>
    intro p base next hp a j hmem
    obtain ⟨hrest, -, hpiece⟩ := placed_atMost hp
    simp only [atMost, List.mem_append, List.mem_cons, choice_ne_assert, false_or] at hmem
    rcases hmem with hmem | hmem
    · obtain ⟨ha, hlast⟩ := h p _ _ hpiece a j hmem
      refine ⟨ha, fun hread => ⟨(hlast hread).1, ?_⟩⟩
      exact ((lays_atMost greedy hlays n).nil hrest (hlast hread).2).2
    · exact ih p _ _ hrest a j hmem

/-- What a piece in a loop asserts: behind the piece the loop begins anew. -/
theorem asserts_loop {p : Program} {start base next : Nat} {greedy : Bool} (h : Asserts piece A Z)
    (hlays : Lays piece L) (hp : p.Placed start (piece start base).nodes)
    (hbase : p[base]? = some (choice greedy (piece start base).entry next)) {a : Assertion}
    {j : Nat} (hmem : .assert a j ∈ (piece start base).nodes) :
    a ∈ A ∧ ((∃ n, p.Reads n j []) → a ∈ Z ∧ ∃ n, p.Reads n next []) := by
  obtain ⟨ha, hlast⟩ := h p _ _ hp a j hmem
  refine ⟨ha, fun hread => ⟨(hlast hread).1, ?_⟩⟩
  obtain ⟨n, hn⟩ := (hlast hread).2
  obtain ⟨u, v, huv, -, hv⟩ := loop_sound hlays hp hbase n [] hn
  obtain ⟨-, rfl⟩ := List.append_eq_nil_iff.1 huv.symm
  exact ⟨n, hv⟩

theorem asserts_oneOrMore (greedy : Bool) (h : Asserts piece A Z) (hlays : Lays piece L) :
    Asserts (oneOrMore greedy piece) A Z := by
  intro p base next hp a j hmem
  obtain ⟨hchoice, hpiece⟩ := placed_append hp
  simp only [oneOrMore, List.mem_append, List.mem_singleton, choice_ne_assert, or_false] at hmem
  exact asserts_loop h hlays hpiece (placed_singleton hchoice) hmem

theorem asserts_anyNumber (greedy : Bool) (h : Asserts piece A Z) (hlays : Lays piece L) :
    Asserts (anyNumber greedy piece) A Z := by
  intro p base next hp a j hmem
  obtain ⟨hchoice, hpiece⟩ := placed_append hp
  simp only [anyNumber, List.mem_append, List.mem_singleton, choice_ne_assert, or_false] at hmem
  exact asserts_loop h hlays hpiece (placed_singleton hchoice) hmem

theorem asserts_anyNumberOfEmpty (greedy : Bool) (h : Asserts piece A Z) (hlays : Lays piece L) :
    Asserts (anyNumberOfEmpty greedy piece) A Z := by
  intro p base next hp a j hmem
  obtain ⟨hchoices, hpiece⟩ := placed_append hp
  obtain ⟨hloop, -⟩ := placed_cons hchoices
  simp only [anyNumberOfEmpty, List.mem_append, List.mem_cons, List.not_mem_nil, choice_ne_assert,
    or_false] at hmem
  exact asserts_loop h hlays hpiece (placed_singleton hloop) hmem

theorem asserts_repeated (min : Nat) (max : Option Nat) (greedy readsByte : Bool)
    (h : Asserts piece A Z)
    (hlays : Lays piece L) : Asserts (repeated min max greedy readsByte piece) A Z := by
  cases max with
  | some max =>
    exact asserts_seq_self (asserts_copies h hlays min) (asserts_atMost greedy h hlays (max - min))
      (lays_atMost greedy hlays _)
  | none =>
    cases min with
    | zero =>
      cases readsByte with
      | true => exact asserts_anyNumber greedy h hlays
      | false => exact asserts_anyNumberOfEmpty greedy h hlays
    | succ min =>
      exact asserts_seq_self (asserts_copies h hlays min) (asserts_oneOrMore greedy h hlays)
        (lays_oneOrMore greedy hlays)

end Fragment

/-! ## Byte sequences assert nothing -/

theorem asserts_trie (t : ByteTrie) : Fragment.Asserts t.layout [] [] := by
  refine Fragment.asserts_of_forall_not_mem fun base next a j => ?_
  rw [ByteTrie.layout]
  split
  · exact List.not_mem_nil
  · simp

theorem asserts_bytesLayout (word : Bytes) : Fragment.Asserts (bytesLayout word) [] [] := by
  induction word with
  | nil => exact Fragment.asserts_skip
  | cons b word ih =>
    refine Fragment.asserts_seq_self (Fragment.asserts_of_forall_not_mem fun base next a j => ?_) ih
      (lays_bytesLayout word)
    simp

/-! ## Expressions -/

namespace Expr

/-- The assertions in an expression. -/
def assertions : Expr → List Assertion
  | assert a => [a]
  | seq a b => assertions a ++ assertions b
  | either a b => assertions a ++ assertions b
  | repeated _ _ _ sub => assertions sub
  | capture _ sub => assertions sub
  | _ => []

/-- Whether the empty word can be matched. -/
def nullable : Expr → Bool
  | empty => true
  | text cs => cs.isEmpty
  | chars _ => false
  | assert _ => true
  | seq a b => nullable a && nullable b
  | either a b => nullable a || nullable b
  | repeated min _ _ sub => min = 0 || nullable sub
  | capture _ sub => nullable sub

/-- The assertions behind which a match may end before another byte is read. -/
def lastAssertions : Expr → List Assertion
  | assert a => [a]
  | seq a b => lastAssertions b ++ if b.nullable then lastAssertions a else []
  | either a b => lastAssertions a ++ lastAssertions b
  | repeated _ _ _ sub => lastAssertions sub
  | capture _ sub => lastAssertions sub
  | _ => []

theorem utf8EncodeChar_ne_nil (c : Char) : String.utf8EncodeChar c ≠ [] := by
  rw [← List.length_pos_iff, String.length_utf8EncodeChar]
  exact c.utf8Size_pos

theorem nullable_of_nil_mem {e : Expr} (h : [] ∈ e.language) : e.nullable = true := by
  induction e with
  | empty => rfl
  | text cs =>
    have hbytes : [] = cs.flatMap String.utf8EncodeChar := h
    cases cs with
    | nil => rfl
    | cons c cs => exact absurd (List.append_eq_nil_iff.1 hbytes.symm).1 (utf8EncodeChar_ne_nil c)
  | chars set =>
    obtain ⟨c, -, hc⟩ := h
    exact absurd hc.symm (utf8EncodeChar_ne_nil c)
  | assert a => rfl
  | seq a b iha ihb =>
    obtain ⟨u, hu, v, hv, huv⟩ := Language.mem_mul.1 h
    obtain ⟨rfl, rfl⟩ := List.append_eq_nil_iff.1 huv
    rw [nullable, iha hu, ihb hv, Bool.true_and]
  | either a b iha ihb =>
    rcases h with h | h
    · rw [nullable, iha h, Bool.true_or]
    · rw [nullable, ihb h, Bool.or_true]
  | repeated min max greedy sub ih =>
    obtain ⟨k, -, hk⟩ := h
    cases min with
    | zero => rfl
    | succ min =>
      rw [Nat.succ_add, pow_succ, Language.mem_mul] at hk
      obtain ⟨u, hu, v, hv, huv⟩ := hk
      obtain ⟨rfl, rfl⟩ := List.append_eq_nil_iff.1 huv
      rw [nullable, ih hv, Bool.or_true]
  | capture index sub ih => exact ih h

theorem asserts_layout (e : Expr) : Fragment.Asserts e.layout e.assertions e.lastAssertions := by
  induction e with
  | empty => exact Fragment.asserts_skip
  | text cs => exact asserts_bytesLayout _
  | chars set => exact asserts_trie _
  | assert a =>
    intro p base next hp b j hmem
    obtain ⟨rfl, rfl⟩ := Node.assert.inj (List.mem_singleton.1 hmem)
    exact ⟨List.mem_singleton_self b, fun hread => ⟨List.mem_singleton_self b, hread⟩⟩
  | seq a b iha ihb => exact Fragment.asserts_seq iha ihb b.lays_layout nullable_of_nil_mem
  | either a b iha ihb => exact Fragment.asserts_either iha ihb
  | repeated min max greedy sub ih =>
    exact Fragment.asserts_repeated min max greedy _ ih sub.lays_layout
  | capture index sub ih => exact ih

theorem assertsStart_of_assertions_eq_nil {e : Expr} (h : e.assertions = []) :
    e.assertsStart = false := by
  induction e with
  | assert a => cases h
  | seq a b iha ihb =>
    obtain ⟨ha, hb⟩ := List.append_eq_nil_iff.1 h
    rw [assertsStart, iha ha, ihb hb, Bool.and_false, Bool.or_false]
  | either a b iha ihb =>
    rw [assertsStart, iha (List.append_eq_nil_iff.1 h).1, Bool.false_and]
  | repeated min max greedy sub ih =>
    rw [assertsStart, ih h, Bool.and_false]
  | capture index sub ih => exact ih h
  | _ => rfl

end Expr

/-! ## Programs -/

theorem Program.assertion_mem {anchored : Bool} {e : Expr} {i j : Nat} {a : Assertion}
    (hi : (ofExpr anchored e).1[i]? = some (.assert a j)) :
    a ∈ e.assertions ∧ ((∃ n, (ofExpr anchored e).1.Reads n j []) → a ∈ e.lastAssertions) := by
  have hprogram : ∃ front : List Node, ∃ base, (∀ a j, Node.assert a j ∉ front) ∧
      front.length = base ∧
      (ofExpr anchored e).1 = (front ++ (e.layout base 0).nodes.reverse).toArray := by
    rw [ofExpr]
    split
    · exact ⟨[.accept], 1, by simp, rfl, rfl⟩
    · exact ⟨[.accept, .fork (e.layout 3 0).entry 2, .branch [(0, 0xff, 1)]], 3, by simp, rfl, rfl⟩
  obtain ⟨front, base, hfront, rfl, hp⟩ := hprogram
  rw [hp] at hi ⊢
  have hmem : Node.assert a j ∈ (e.layout front.length 0).nodes := by
    rcases List.mem_append.1 (List.mem_of_getElem? (List.getElem?_toArray ▸ hi)) with hmem | hmem
    · exact absurd hmem (hfront a j)
    · exact List.mem_reverse.1 hmem
  obtain ⟨ha, hlast⟩ := e.asserts_layout _ _ _ (placed_toArray front _) a j hmem
  exact ⟨ha, fun hread => (hlast hread).1⟩

end TransitionMap.Pattern
