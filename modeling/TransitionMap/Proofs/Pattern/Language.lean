import TransitionMap.Proofs.Pattern.Characters
import TransitionMap.Proofs.Pattern.Reading

/-!
# The language of an expression

`Expr.language` is the set of byte words that an expression matches, whatever it prefers;
assertions are taken to hold. `Expr.lays_layout`: laid out as nodes, the expression reads the words
of its language and no others. For single texts and sets of characters this comes from
`lays_bytesLayout` and `ByteTrie.lays_layout`.
-/

namespace TransitionMap.Pattern

open Program

/-! ## Byte sequences -/

namespace ByteTrie

variable {p : Program} {next base : Nat}

/-- Where the first arm leads that holds a byte. -/
def armOn (arms : List (UInt8 × UInt8 × Nat)) (b : UInt8) : Option Nat :=
  (arms.find? fun arm => arm.1 ≤ b && b ≤ arm.2.1).map (·.2.2)

theorem target?_eq_armOn {arms : List (UInt8 × UInt8 × Nat)} (h : p[base]? = some (.branch arms))
    (b : UInt8) :
    p.target? b base = armOn arms b := by
  simp [target?, h, armOn]

theorem armOn_cons (lo hi b : UInt8) (j : Nat) (arms : List (UInt8 × UInt8 × Nat)) :
    armOn ((lo, hi, j) :: arms) b = if lo ≤ b ∧ b ≤ hi then some j else armOn arms b := by
  unfold armOn
  rw [List.find?_cons]
  by_cases h : lo ≤ b ∧ b ≤ hi
  · simp [h]
  · have hfalse : (decide (lo ≤ b) && decide (b ≤ hi)) = false := by simpa using h
    rw [hfalse, if_neg h]

theorem eq_nil_of_isAccept {t : ByteTrie} (h : t.isAccept = true) {w : Bytes} :
    t.accepts w = true ↔ w = [] := by
  cases t with
  | accept => rw [accepts, List.isEmpty_iff]
  | reject => cases h
  | arm lo hi sub rest => cases h

theorem ne_nil_of_accepts {t : ByteTrie} (h : t.isAccept = false) {w : Bytes}
    (hw : t.accepts w = true) :
    ∃ b u, w = b :: u := by
  cases w with
  | cons b u => exact ⟨b, u, rfl⟩
  | nil => cases t <;> cases hw; cases h

/-! ### Trees behind arms -/

/-- The tree behind the first arm that holds a byte. -/
def behind : ByteTrie → UInt8 → Option ByteTrie
  | arm lo hi sub rest, b => if lo ≤ b ∧ b ≤ hi then some sub else behind rest b
  | _, _ => none

theorem accepts_cons_iff {t : ByteTrie} {b : UInt8} {w : Bytes} :
    t.accepts (b :: w) = true ↔ ∃ s, t.behind b = some s ∧ s.accepts w = true := by
  induction t with
  | accept => simp [accepts, behind]
  | reject => simp [accepts, behind]
  | arm lo hi sub rest _ ih =>
    rw [accepts, behind]
    split
    · simp
    · exact ih

theorem armOn_armsAt (address : ByteTrie → Nat) (t : ByteTrie) (b : UInt8) :
    armOn (t.armsAt address) b = (t.behind b).map address := by
  induction t with
  | accept => rfl
  | reject => rfl
  | arm lo hi sub rest _ ih =>
    rw [armsAt, armOn_cons, behind]
    split
    · rfl
    · exact ih

/-- The trees behind the arms of a tree are all there. -/
def Below (t : ByteTrie) (trees : List ByteTrie) : Prop :=
  ∀ b s, t.behind b = some s → s.isAccept = false → s ∈ trees

/-- Every tree is there together with the trees behind its arms. -/
def Closed (trees : List ByteTrie) : Prop := ∀ t ∈ trees, t.Below trees

theorem Below.mono {t : ByteTrie} {trees more : List ByteTrie} (h : t.Below trees)
    (hsub : trees ⊆ more) : t.Below more := fun b s hs haccept => hsub (h b s hs haccept)

theorem below_arm {lo hi : UInt8} {sub rest : ByteTrie} {trees : List ByteTrie}
    (hsub : sub.isAccept = false → sub ∈ trees) (hrest : rest.Below trees) :
    (arm lo hi sub rest).Below trees := by
  intro b s hs haccept
  rw [behind] at hs
  split at hs
  · obtain rfl := Option.some.inj hs
    exact hsub haccept
  · exact hrest b s hs haccept

theorem Closed.insert {t : ByteTrie} {trees : OrderedSet ByteTrie} (h : Closed trees.toList)
    (ht : t.Below trees.toList) : Closed (trees.insert t).toList := by
  have hmore : trees.toList ⊆ (trees.insert t).toList :=
    fun s hs => (OrderedSet.mem_insert trees t s).2 (.inl hs)
  intro s hs
  rcases (OrderedSet.mem_insert trees t s).1 hs with hs | rfl
  · exact (h s hs).mono hmore
  · exact ht.mono hmore

theorem addBelow_spec (t : ByteTrie) {trees : OrderedSet ByteTrie} (h : Closed trees.toList) :
    Closed (t.addBelow trees).toList ∧ trees.toList ⊆ (t.addBelow trees).toList ∧
      t.Below (t.addBelow trees).toList := by
  induction t generalizing trees with
  | accept => exact ⟨h, List.Subset.refl _, nofun⟩
  | reject => exact ⟨h, List.Subset.refl _, nofun⟩
  | arm lo hi sub rest ihsub ihrest =>
    rw [addBelow]
    split
    case isTrue hknown =>
      obtain ⟨hclosed, hmore, hrest⟩ := ihrest h
      refine ⟨hclosed, hmore, below_arm (fun haccept => hmore ?_) hrest⟩
      rw [haccept, Bool.false_or] at hknown
      exact Array.mem_toList_iff.2 ((trees.contains_iff sub).1 hknown)
    case isFalse =>
      obtain ⟨hclosed, hmore, hbelow⟩ := ihsub h
      obtain ⟨hclosed', hmore', hrest⟩ := ihrest (hclosed.insert hbelow)
      have hinsert := (OrderedSet.mem_insert (sub.addBelow trees) sub)
      refine ⟨hclosed', fun s hs => hmore' ((hinsert s).2 (.inl (hmore hs))), ?_⟩
      exact below_arm (fun _ => hmore' ((hinsert sub).2 (.inr rfl))) hrest

/-! ### Trees in their places -/

/-- Every tree that is there stands at its address as a branch; where a tree accepts, `next` is
gone on at. -/
structure Stands (p : Program) (next : Nat) (trees : List ByteTrie) (address : ByteTrie → Nat) :
    Prop where
  branch : ∀ t ∈ trees, t.isAccept = false → p[address t]? = some (.branch (t.armsAt address))
  accept : ∀ t, t.isAccept = true → address t = next

section Stands

variable {trees : List ByteTrie} {address : ByteTrie → Nat}

theorem Stands.target? (h : Stands p next trees address) {t : ByteTrie} (ht : t ∈ trees)
    (haccept : t.isAccept = false) (b : UInt8) :
    p.target? b (address t) = (t.behind b).map address := by
  rw [target?_eq_armOn (h.branch t ht haccept), armOn_armsAt]

theorem Stands.sound (h : Stands p next trees address) (hclosed : Closed trees) {t : ByteTrie}
    (ht : t.isAccept = false → t ∈ trees) {n : Nat} {w : Bytes} (hw : p.Reads n (address t) w) :
    ∃ u v, w = u ++ v ∧ t.accepts u = true ∧ p.Reads n next v := by
  induction w generalizing t n with
  | nil =>
    cases haccept : t.isAccept with
    | true => exact ⟨[], [], rfl, (eq_nil_of_isAccept haccept).2 rfl, h.accept t haccept ▸ hw⟩
    | false =>
      obtain ⟨_, _, _, _, _, ⟨⟩, _⟩ := (reads_branch_iff (h.branch t (ht haccept) haccept)).1 hw
  | cons c w ih =>
    cases haccept : t.isAccept with
    | true => exact ⟨[], c :: w, rfl, (eq_nil_of_isAccept haccept).2 rfl, h.accept t haccept ▸ hw⟩
    | false =>
      have hmem := ht haccept
      obtain ⟨m, _, _, i, rfl, heq, hi, hw⟩ := (reads_branch_iff (h.branch t hmem haccept)).1 hw
      obtain ⟨rfl, rfl⟩ := List.cons.inj heq
      rw [h.target? hmem haccept] at hi
      obtain ⟨s, hs, rfl⟩ := Option.map_eq_some_iff.1 hi
      obtain ⟨u, v, rfl, hu, hv⟩ := ih (hclosed t hmem c s hs) hw
      exact ⟨c :: u, v, rfl, accepts_cons_iff.2 ⟨s, hs, hu⟩, hv.mono (Nat.le_succ m)⟩

theorem Stands.complete (h : Stands p next trees address) (hclosed : Closed trees) {t : ByteTrie}
    (ht : t.isAccept = false → t ∈ trees) {u v : Bytes} (hu : t.accepts u = true) {n : Nat}
    (hv : p.Reads n next v) : ∃ m, p.Reads m (address t) (u ++ v) := by
  induction u generalizing t with
  | nil =>
    cases haccept : t.isAccept with
    | true => exact ⟨n, h.accept t haccept ▸ hv⟩
    | false =>
      obtain ⟨_, _, ⟨⟩⟩ := ne_nil_of_accepts haccept hu
  | cons c u ih =>
    cases haccept : t.isAccept with
    | true => cases (eq_nil_of_isAccept haccept).1 hu
    | false =>
      have hmem := ht haccept
      obtain ⟨s, hs, hsub⟩ := accepts_cons_iff.1 hu
      obtain ⟨m, hm⟩ := ih (hclosed t hmem c s hs) hsub
      refine ⟨m + 1, (reads_branch_iff (h.branch t hmem haccept)).2
        ⟨m, c, u ++ v, address s, rfl, rfl, ?_, hm⟩⟩
      rw [h.target? hmem haccept, hs, Option.map_some]

end Stands

/-- The nodes of a layout, each at the address of its tree. -/
theorem stands_layout {t : ByteTrie} (haccept : t.isAccept = false)
    (hp : p.Placed base (t.layout base next).nodes) :
    ∃ trees address, Stands p next trees address ∧ Closed trees ∧ t ∈ trees ∧
      (t.layout base next).entry = address t := by
  rw [layout, if_neg (by simp [haccept])] at hp ⊢
  have hempty : Closed (OrderedSet.empty : OrderedSet ByteTrie).toList := nofun
  obtain ⟨hclosed, -, hbelow⟩ := addBelow_spec t hempty
  let trees := (t.addBelow OrderedSet.empty).insert t
  let address (s : ByteTrie) : Nat :=
    if s.isAccept then next else base + (trees.position? s).getD 0
  refine ⟨trees.toList, address, ⟨fun s hs hsub => ?_, fun s hs => if_pos hs⟩,
    hclosed.insert hbelow, (OrderedSet.mem_insert _ t t).2 (.inr rfl), rfl⟩
  obtain ⟨k, hk⟩ := List.mem_iff_getElem?.1 hs
  have haddress : address s = base + k := by
    simp only [address, hsub, Bool.false_eq_true, if_false]
    rw [(OrderedSet.position?_eq_some_iff trees s k).2 hk, Option.getD_some]
  rw [haddress]
  refine hp k _ ?_
  rw [List.reverse_reverse, List.getElem?_map, hk, Option.map_some]

theorem lays_layout (t : ByteTrie) : Fragment.Lays t.layout {w | t.accepts w = true} := by
  cases haccept : t.isAccept with
  | true =>
    have hlayout : t.layout = Fragment.skip := by
      funext base next
      rw [layout, if_pos haccept, Fragment.skip]
    have hwords : {w | t.accepts w = true} = (1 : Language UInt8) := by
      ext w
      exact (eq_nil_of_isAccept haccept).trans (Language.mem_one w).symm
    rw [hlayout, hwords]
    exact Fragment.lays_skip
  | false =>
    constructor
    · intro p base next hp n w hw
      obtain ⟨trees, address, hstands, hclosed, hmem, hentry⟩ := stands_layout haccept hp
      rw [hentry] at hw
      exact hstands.sound hclosed (fun _ => hmem) hw
    · intro p base next hp n u v hu hv
      obtain ⟨trees, address, hstands, hclosed, hmem, hentry⟩ := stands_layout haccept hp
      rw [hentry]
      exact hstands.complete hclosed (fun _ => hmem) hu hv

end ByteTrie

/-- The arm of a single byte. -/
theorem armOn_singleton (b c : UInt8) (next : Nat) :
    ByteTrie.armOn [(b, b, next)] c = if c = b then some next else none := by
  have hbyte : b ≤ c ∧ c ≤ b ↔ c = b :=
    ⟨fun h => UInt8.le_antisymm h.2 h.1,
      by rintro rfl; exact ⟨UInt8.le_refl c, UInt8.le_refl c⟩⟩
  simp only [ByteTrie.armOn_cons, hbyte]
  rfl

theorem lays_byte (b : UInt8) :
    Fragment.Lays (fun base next => ⟨[.branch [(b, b, next)]], base⟩) {[b]} where
  sound p base next hp n w hw := by
    have hbranch := placed_singleton hp
    obtain ⟨m, c, w, i, rfl, rfl, hi, hw⟩ := (reads_branch_iff hbranch).1 hw
    rw [ByteTrie.target?_eq_armOn hbranch, armOn_singleton] at hi
    obtain ⟨rfl, hnext⟩ := Option.ite_none_right_eq_some.1 hi
    obtain rfl := Option.some.inj hnext
    exact ⟨[c], w, rfl, rfl, hw.mono (Nat.le_succ m)⟩
  complete p base next hp n u v hu hv := by
    obtain rfl : u = [b] := hu
    have hbranch := placed_singleton hp
    refine ⟨n + 1, (reads_branch_iff hbranch).2 ⟨n, b, v, next, rfl, rfl, ?_, hv⟩⟩
    rw [ByteTrie.target?_eq_armOn hbranch, armOn_singleton, if_pos rfl]

theorem lays_bytesLayout (word : Bytes) : Fragment.Lays (bytesLayout word) {word} := by
  induction word with
  | nil => exact Fragment.lays_skip
  | cons b word ih =>
    have hwords : ({b :: word} : Language UInt8) = {[b]} * {word} := by
      ext w
      rw [Language.mem_mul]
      constructor
      · rintro rfl
        exact ⟨[b], rfl, word, rfl, rfl⟩
      · rintro ⟨_, rfl, _, rfl, rfl⟩
        rfl
    rw [hwords]
    exact Fragment.lays_seq (lays_byte b) ih

/-! ## Expressions -/

namespace Expr

/-- The words that an expression matches. -/
def language : Expr → Language UInt8
  | empty => 1
  | text cs => {cs.flatMap String.utf8EncodeChar}
  | chars set => {w | ∃ c : Char, set.mem c.toNat = true ∧ w = String.utf8EncodeChar c}
  | assert _ => 1
  | seq a b => language a * language b
  | either a b => language a + language b
  | repeated min max _ sub => Fragment.rounds (language sub) min max
  | capture _ sub => language sub

theorem lays_assert (a : Assertion) :
    Fragment.Lays (fun base next => ⟨[.assert a next], base⟩) 1 where
  sound p base next hp n w hw := by
    obtain ⟨m, rfl, hm⟩ := (reads_assert_iff (placed_singleton hp)).1 hw
    exact ⟨[], w, rfl, Language.nil_mem_one, hm.mono (Nat.le_succ m)⟩
  complete p base next hp n u v hu hv := by
    obtain rfl := (Language.mem_one u).1 hu
    exact ⟨n + 1, (reads_assert_iff (placed_singleton hp)).2 ⟨n, rfl, hv⟩⟩

/-- Laid out, an expression reads the words of its language. -/
theorem lays_layout (e : Expr) : Fragment.Lays e.layout e.language := by
  induction e with
  | empty => exact Fragment.lays_skip
  | text cs => exact lays_bytesLayout _
  | chars set =>
    have hwords : (chars set).language = {w | (ByteTrie.ofChars set).accepts w = true} := by
      ext w
      exact (ByteTrie.accepts_ofChars set w).symm
    rw [hwords]
    exact ByteTrie.lays_layout _
  | assert a => exact lays_assert a
  | seq a b iha ihb => exact Fragment.lays_seq iha ihb
  | either a b iha ihb => exact Fragment.lays_either iha ihb
  | repeated min max greedy sub ih => exact Fragment.lays_repeated min max greedy _ ih
  | capture index sub ih => exact ih

end Expr

/-! ## Programs -/

namespace Program

theorem placed_toArray (front nodes : List Node) :
    Placed (front ++ nodes.reverse).toArray front.length nodes := by
  intro k node hk
  rw [List.getElem?_toArray, List.getElem?_append_right (Nat.le_add_right _ k),
    Nat.add_sub_cancel_left, hk]

/-- What an expression laid out in front of the end of a match reads. -/
theorem reads_layout_iff {p : Program} {base : Nat} {e : Expr}
    (hp : p.Placed base (e.layout base 0).nodes) (hend : p[0]? = some .accept) (w : Bytes) :
    (∃ n, p.Reads n (e.layout base 0).entry w) ↔ w ∈ e.language := by
  constructor
  · rintro ⟨n, hn⟩
    obtain ⟨u, v, rfl, hu, hv⟩ := e.lays_layout.sound p base 0 hp n w hn
    obtain rfl := (reads_accept_iff hend).1 hv
    rwa [List.append_nil]
  · intro hw
    have hread := e.lays_layout.complete p base 0 hp 0 w [] hw (.accept hend)
    rwa [List.append_nil] at hread

/-- What is read from a node that may pass any bytes before it enters. -/
theorem reads_search_iff {p : Program} {entry : Nat} {L : Language UInt8}
    (hfork : p[1]? = some (.fork entry 2))
    (hpass : p[2]? = some (.branch [(0, 0xff, 1)])) (hentry : ∀ w, (∃ n, p.Reads n entry w) ↔ w ∈ L)
    (w : Bytes) : (∃ n, p.Reads n 1 w) ↔ ∃ u v, w = u ++ v ∧ v ∈ L := by
  have hbyte : ∀ b : UInt8, p.target? b 2 = some 1 := fun b => by
    rw [ByteTrie.target?_eq_armOn hpass, ByteTrie.armOn_cons, if_pos]
    exact ⟨UInt8.zero_le, UInt8.le_iff_toNat_le.2 (Nat.le_of_lt_succ b.toNat_lt)⟩
  constructor
  · rintro ⟨n, hn⟩
    induction n using Nat.strong_induction_on generalizing w with
    | _ n ih =>
      obtain ⟨m, rfl, hm | hm⟩ := (reads_fork_iff hfork).1 hn
      · exact ⟨[], w, rfl, (hentry w).1 ⟨m, hm⟩⟩
      · obtain ⟨k, b, w, i, rfl, rfl, hi, hk⟩ := (reads_branch_iff hpass).1 hm
        rw [hbyte, Option.some.injEq] at hi
        subst hi
        obtain ⟨u, v, rfl, hv⟩ := ih k (by omega) w hk
        exact ⟨b :: u, v, rfl, hv⟩
  · rintro ⟨u, v, rfl, hv⟩
    induction u with
    | nil =>
      obtain ⟨n, hn⟩ := (hentry v).2 hv
      exact ⟨n + 1, (reads_fork_iff hfork).2 ⟨n, rfl, .inl hn⟩⟩
    | cons b u ih =>
      obtain ⟨n, hn⟩ := ih
      exact ⟨n + 2, (reads_fork_iff hfork).2 ⟨n + 1, rfl, .inr (.byte (hbyte b) hn)⟩⟩

/-- The program of an anchored expression reads the words of its language. -/
theorem reads_ofExpr_anchored {anchored : Bool} {e : Expr} (h : (anchored || e.assertsStart) = true)
    (w : Bytes) :
    (∃ n, (ofExpr anchored e).1.Reads n (ofExpr anchored e).2 w) ↔ w ∈ e.language := by
  rw [ofExpr, if_pos h]
  exact reads_layout_iff (placed_toArray [Node.accept] (e.layout 1 0).nodes) rfl w

/-- The program of an expression that is not anchored reads them behind any bytes. -/
theorem reads_ofExpr_unanchored {e : Expr} (h : e.assertsStart = false) (w : Bytes) :
    (∃ n, (ofExpr false e).1.Reads n (ofExpr false e).2 w) ↔
      ∃ u v, w = u ++ v ∧ v ∈ e.language := by
  rw [ofExpr, if_neg (by simp [h])]
  have hp := placed_toArray [Node.accept, .fork (e.layout 3 0).entry 2, .branch [(0, 0xff, 1)]]
    (e.layout 3 0).nodes
  exact reads_search_iff rfl rfl (reads_layout_iff hp rfl) w

end Program

end TransitionMap.Pattern
