import Mathlib.Computability.Language
import TransitionMap.Pattern.Threads

/-!
# What threads read

`Program.Reads p n i w`: a thread at node `i` can read the word `w` and end a match within `n`
moves. The preference between the ways of a fork plays no part, and assertions are taken to hold.

`Fragment.Lays piece L` says that a piece, laid out in front of an address, reads a word of `L` and
goes on there, in no other way. The moves are counted so that what a loop reads can be taken apart
round by round. Each way to join pieces joins their languages: `lays_seq`, `lays_either`,
`lays_repeated`.
-/

namespace TransitionMap.Pattern

open Computability

namespace Program

/-- A thread at `i` goes on at `j` without reading, when `holds` decides the assertions. -/
inductive Leads (p : Program) (holds : Assertion → Bool) (i j : Nat) : Prop
  | first (k : Nat) : p[i]? = some (.fork j k) → Leads p holds i j
  | second (k : Nat) : p[i]? = some (.fork k j) → Leads p holds i j
  | assert (a : Assertion) : p[i]? = some (.assert a j) → holds a = true → Leads p holds i j

/-- A thread at a node reads a word and ends a match, within so many moves. -/
inductive Reads (p : Program) : Nat → Nat → Bytes → Prop
  | accept {n i : Nat} : p[i]? = some .accept → Reads p n i []
  | lead {n i j : Nat} {w : Bytes} : p.Leads (fun _ => true) i j → Reads p n j w →
      Reads p (n + 1) i w
  | byte {n i j : Nat} {b : UInt8} {w : Bytes} :
      p.target? b i = some j → Reads p n j w → Reads p (n + 1) i (b :: w)

variable {p : Program}

theorem Reads.mono {m n i : Nat} {w : Bytes} (h : p.Reads m i w) (hle : m ≤ n) : p.Reads n i w := by
  induction h generalizing n with
  | accept hi => exact .accept hi
  | lead hlead _ ih =>
    obtain ⟨n, rfl⟩ := Nat.exists_eq_add_of_le' (Nat.lt_of_lt_of_le (Nat.succ_pos _) hle)
    exact .lead hlead (ih (by omega))
  | byte hbyte _ ih =>
    obtain ⟨n, rfl⟩ := Nat.exists_eq_add_of_le' (Nat.lt_of_lt_of_le (Nat.succ_pos _) hle)
    exact .byte hbyte (ih (by omega))

theorem reads_accept_iff {i n : Nat} {w : Bytes} (hi : p[i]? = some .accept) :
    p.Reads n i w ↔ w = [] := by
  constructor
  · intro h
    cases h with
    | accept => rfl
    | lead hlead => cases hlead <;> simp_all
    | byte hbyte => simp [target?, hi] at hbyte
  · rintro rfl
    exact .accept hi

/-- The ways on from a fork. -/
theorem reads_fork_iff {i first second n : Nat} {w : Bytes}
    (hi : p[i]? = some (.fork first second)) :
    p.Reads n i w ↔ ∃ m, n = m + 1 ∧ (p.Reads m first w ∨ p.Reads m second w) := by
  constructor
  · intro h
    cases h with
    | accept haccept => simp [hi] at haccept
    | lead hlead hread =>
      cases hlead with
      | first k hk => simp only [hi, Option.some.injEq, Node.fork.injEq] at hk; grind
      | second k hk => simp only [hi, Option.some.injEq, Node.fork.injEq] at hk; grind
      | assert a ha => simp [hi] at ha
    | byte hbyte => simp [target?, hi] at hbyte
  · rintro ⟨m, rfl, hread | hread⟩
    · exact .lead (.first _ hi) hread
    · exact .lead (.second _ hi) hread

theorem reads_choice_iff {i body exit n : Nat} {w : Bytes} {greedy : Bool}
    (hi : p[i]? = some (Fragment.choice greedy body exit)) :
    p.Reads n i w ↔ ∃ m, n = m + 1 ∧ (p.Reads m body w ∨ p.Reads m exit w) := by
  cases greedy with
  | true => exact reads_fork_iff hi
  | false => simp only [reads_fork_iff hi, or_comm]

/-- The way on from an assertion, which is taken to hold. -/
theorem reads_assert_iff {i next n : Nat} {w : Bytes} {a : Assertion}
    (hi : p[i]? = some (.assert a next)) :
    p.Reads n i w ↔ ∃ m, n = m + 1 ∧ p.Reads m next w := by
  constructor
  · intro h
    cases h with
    | accept haccept => simp [hi] at haccept
    | lead hlead hread => cases hlead <;> simp_all
    | byte hbyte => simp [target?, hi] at hbyte
  · rintro ⟨m, rfl, hread⟩
    exact .lead (.assert a hi rfl) hread

/-- The way on from a branch. -/
theorem reads_branch_iff {i n : Nat} {w : Bytes} {arms : List (UInt8 × UInt8 × Nat)}
    (hi : p[i]? = some (.branch arms)) :
    p.Reads n i w ↔ ∃ m b v j, n = m + 1 ∧ w = b :: v ∧ p.target? b i = some j ∧ p.Reads m j v := by
  constructor
  · intro h
    cases h with
    | accept haccept => simp [hi] at haccept
    | lead hlead => cases hlead <;> simp_all
    | byte hbyte hread => exact ⟨_, _, _, _, rfl, rfl, hbyte, hread⟩
  · rintro ⟨m, b, v, j, rfl, rfl, hbyte, hread⟩
    exact .byte hbyte hread

/-! ## Nodes in their places -/

/-- The nodes stand in the program from an address on, the last of them first. -/
def Placed (p : Program) (base : Nat) (nodes : List Node) : Prop :=
  ∀ k node, nodes.reverse[k]? = some node → p[base + k]? = some node

theorem placed_append {base : Nat} {us vs : List Node} (h : p.Placed base (us ++ vs)) :
    p.Placed base vs ∧ p.Placed (base + vs.length) us := by
  constructor
  · intro k node hk
    refine h k node ?_
    have hlt := (List.getElem?_eq_some_iff.1 hk).1
    rwa [List.reverse_append, List.getElem?_append_left hlt]
  · intro k node hk
    rw [Nat.add_assoc]
    refine h (vs.length + k) node ?_
    rwa [List.reverse_append, List.getElem?_append_right (by simp), List.length_reverse,
      Nat.add_sub_cancel_left]

theorem placed_singleton {base : Nat} {node : Node} (h : p.Placed base [node]) :
    p[base]? = some node :=
  h 0 node rfl

theorem placed_cons {base : Nat} {node : Node} {vs : List Node} (h : p.Placed base (node :: vs)) :
    p.Placed base vs ∧ p[base + vs.length]? = some node := by
  rw [← List.singleton_append] at h
  obtain ⟨hvs, hnode⟩ := placed_append h
  exact ⟨hvs, placed_singleton hnode⟩

end Program

namespace Fragment

open Program

/-- Laid out in front of an address, the piece reads a word of the language and goes on there. -/
structure Lays (piece : Layout) (L : Language UInt8) : Prop where
  sound : ∀ (p : Program) (base next : Nat), p.Placed base (piece base next).nodes →
    ∀ n w, p.Reads n (piece base next).entry w →
      ∃ u v, w = u ++ v ∧ u ∈ L ∧ p.Reads n next v
  complete : ∀ (p : Program) (base next : Nat), p.Placed base (piece base next).nodes →
    ∀ n u v, u ∈ L → p.Reads n next v → ∃ m, p.Reads m (piece base next).entry (u ++ v)

theorem lays_skip : Lays skip 1 where
  sound p base next _ n w h := ⟨[], w, rfl, Language.nil_mem_one, h⟩
  complete p base next _ n u v hu h := by
    obtain rfl := (Language.mem_one u).1 hu
    exact ⟨n, h⟩

variable {first second piece : Layout} {K L : Language UInt8}

theorem lays_seq (hf : Lays first K) (hs : Lays second L) : Lays (seq first second) (K * L) where
  sound p base next hp n w h := by
    obtain ⟨hsecond, hfirst⟩ := placed_append hp
    obtain ⟨u, v, rfl, hu, hv⟩ := hf.sound p _ _ hfirst n w h
    obtain ⟨u', v, rfl, hu', hv⟩ := hs.sound p _ _ hsecond n v hv
    exact ⟨u ++ u', v, by simp, Language.append_mem_mul hu hu', hv⟩
  complete p base next hp n w v hw h := by
    obtain ⟨hsecond, hfirst⟩ := placed_append hp
    obtain ⟨u, hu, u', hu', rfl⟩ := Language.mem_mul.1 hw
    obtain ⟨m, hm⟩ := hs.complete p _ _ hsecond n u' v hu' h
    rw [List.append_assoc]
    exact hf.complete p _ _ hfirst m u (u' ++ v) hu hm

/-- Where the fork and the two pieces of `either` stand. -/
theorem placed_either {p : Program} {base next : Nat}
    (hp : p.Placed base (either first second base next).nodes) :
    let f := first (base + 1) next
    let s := second (base + 1 + f.size) next
    p[base]? = some (.fork f.entry s.entry) ∧ p.Placed (base + 1) f.nodes ∧
      p.Placed (base + 1 + f.size) s.nodes := by
  intro f s
  rw [either, List.append_assoc] at hp
  obtain ⟨hfront, hsecond⟩ := placed_append hp
  obtain ⟨hfork, hfirst⟩ := placed_append hfront
  rw [List.length_append, List.length_singleton, Nat.add_comm f.nodes.length,
    ← Nat.add_assoc] at hsecond
  exact ⟨placed_singleton hfork, hfirst, hsecond⟩

theorem lays_either (hf : Lays first K) (hs : Lays second L) :
    Lays (either first second) (K + L) where
  sound p base next hp n w h := by
    obtain ⟨hfork, hfirst, hsecond⟩ := placed_either hp
    obtain ⟨m, rfl, hm | hm⟩ := (reads_fork_iff hfork).1 h
    · obtain ⟨u, v, rfl, hu, hv⟩ := hf.sound p _ _ hfirst m w hm
      exact ⟨u, v, rfl, .inl hu, hv.mono (Nat.le_succ m)⟩
    · obtain ⟨u, v, rfl, hu, hv⟩ := hs.sound p _ _ hsecond m w hm
      exact ⟨u, v, rfl, .inr hu, hv.mono (Nat.le_succ m)⟩
  complete p base next hp n u v hu h := by
    obtain ⟨hfork, hfirst, hsecond⟩ := placed_either hp
    rcases hu with hu | hu
    · obtain ⟨m, hm⟩ := hf.complete p _ _ hfirst n u v hu h
      exact ⟨m + 1, (reads_fork_iff hfork).2 ⟨m, rfl, .inl hm⟩⟩
    · obtain ⟨m, hm⟩ := hs.complete p _ _ hsecond n u v hu h
      exact ⟨m + 1, (reads_fork_iff hfork).2 ⟨m, rfl, .inr hm⟩⟩

/-! ## Rounds -/

/-- At most so many words of a language, one after the other. -/
def upTo (L : Language UInt8) (n : Nat) : Language UInt8 := {w | ∃ k ≤ n, w ∈ L ^ k}

/-- At least `min` words of a language, one after the other; at most `max - min` more than `min`. -/
def rounds (L : Language UInt8) (min : Nat) (max : Option Nat) : Language UInt8 :=
  {w | ∃ k, (∀ m ∈ max, k ≤ m - min) ∧ w ∈ L ^ (min + k)}

theorem mem_upTo {n : Nat} {w : Bytes} : w ∈ upTo L n ↔ ∃ k ≤ n, w ∈ L ^ k := Iff.rfl

theorem mem_rounds {min : Nat} {max : Option Nat} {w : Bytes} :
    w ∈ rounds L min max ↔ ∃ k, (∀ m ∈ max, k ≤ m - min) ∧ w ∈ L ^ (min + k) := Iff.rfl

theorem upTo_zero : upTo L 0 = 1 := by
  ext w
  simp [mem_upTo]

theorem upTo_succ (n : Nat) : upTo L (n + 1) = 1 + L * upTo L n := by
  ext w
  simp only [mem_upTo, Language.mem_add, Language.mem_mul]
  constructor
  · rintro ⟨k, hk, hw⟩
    cases k with
    | zero => exact .inl (by simpa using hw)
    | succ k =>
      rw [pow_succ', Language.mem_mul] at hw
      obtain ⟨u, hu, v, hv, rfl⟩ := hw
      exact .inr ⟨u, hu, v, ⟨k, by omega, hv⟩, rfl⟩
  · rintro (hw | ⟨u, hu, v, ⟨k, hk, hv⟩, rfl⟩)
    · exact ⟨0, Nat.zero_le _, by simpa using hw⟩
    · refine ⟨k + 1, by omega, ?_⟩
      rw [pow_succ']
      exact Language.append_mem_mul hu hv

theorem rounds_none (min : Nat) : rounds L min none = L ^ min * L∗ := by
  ext w
  simp only [mem_rounds, Option.not_mem_none, false_implies, implies_true, true_and, pow_add,
    Language.kstar_eq_iSup_pow, Language.mul_iSup, Language.mem_iSup]

theorem rounds_some (min max : Nat) : rounds L min (some max) = L ^ min * upTo L (max - min) := by
  ext w
  simp only [mem_rounds, Option.mem_def, Option.some.injEq, forall_eq', pow_add, Language.mem_mul,
    mem_upTo]
  constructor
  · rintro ⟨k, hk, u, hu, v, hv, rfl⟩
    exact ⟨u, hu, v, ⟨k, hk, hv⟩, rfl⟩
  · rintro ⟨u, hu, v, ⟨k, hk, hv⟩, rfl⟩
    exact ⟨k, hk, u, hu, v, hv, rfl⟩

theorem lays_copies (h : Lays piece L) (n : Nat) : Lays (copies piece n) (L ^ n) := by
  induction n with
  | zero => exact lays_skip
  | succ n ih =>
    rw [pow_succ']
    exact lays_seq h ih

/-- Where one more round of `atMost` stands, its choice and the rounds behind it. -/
theorem placed_atMost {p : Program} {base next n : Nat} {greedy : Bool}
    (hp : p.Placed base (atMost greedy piece (n + 1) base next).nodes) :
    let rest := atMost greedy piece n base next
    let f := piece (base + rest.size + 1) rest.entry
    p.Placed base rest.nodes ∧ p[base + rest.size]? = some (choice greedy f.entry next) ∧
      p.Placed (base + rest.size + 1) f.nodes := by
  obtain ⟨hback, hpiece⟩ := placed_append hp
  obtain ⟨hrest, hchoice⟩ := placed_cons hback
  rw [List.length_cons, ← Nat.add_assoc] at hpiece
  exact ⟨hrest, hchoice, hpiece⟩

theorem lays_atMost (greedy : Bool) (h : Lays piece L) (n : Nat) :
    Lays (atMost greedy piece n) (upTo L n) := by
  induction n with
  | zero =>
    rw [upTo_zero]
    exact lays_skip
  | succ n ih =>
    rw [upTo_succ]
    constructor
    · intro p base next hp n' w hw
      obtain ⟨hrest, hchoice, hpiece⟩ := placed_atMost hp
      obtain ⟨m, rfl, hm | hm⟩ := (reads_choice_iff hchoice).1 hw
      · obtain ⟨u, v, rfl, hu, hv⟩ := h.sound p _ _ hpiece m w hm
        obtain ⟨u', v, rfl, hu', hv⟩ := ih.sound p _ _ hrest m v hv
        exact ⟨u ++ u', v, by simp, .inr (Language.append_mem_mul hu hu'), hv.mono (Nat.le_succ m)⟩
      · exact ⟨[], w, rfl, .inl Language.nil_mem_one, hm.mono (Nat.le_succ m)⟩
    · intro p base next hp n' w v hw hv
      obtain ⟨hrest, hchoice, hpiece⟩ := placed_atMost hp
      rcases hw with hw | hw
      · obtain rfl := (Language.mem_one w).1 hw
        exact ⟨n' + 1, (reads_choice_iff hchoice).2 ⟨n', rfl, .inr hv⟩⟩
      · obtain ⟨u, hu, u', hu', rfl⟩ := Language.mem_mul.1 hw
        obtain ⟨m, hm⟩ := ih.complete p _ _ hrest n' u' v hu' hv
        obtain ⟨m, hm⟩ := h.complete p _ _ hpiece m u (u' ++ v) hu hm
        rw [List.append_assoc]
        exact ⟨m + 1, (reads_choice_iff hchoice).2 ⟨m, rfl, .inl hm⟩⟩

/-! ## Loops -/

section Loop

variable {p : Program} {start base next : Nat} {greedy : Bool}

/-- What is read from the choice at which a loop begins anew. -/
theorem loop_sound (h : Lays piece L) (hp : p.Placed start (piece start base).nodes)
    (hbase : p[base]? = some (choice greedy (piece start base).entry next)) (n : Nat) (w : Bytes)
    (hw : p.Reads n base w) : ∃ u v, w = u ++ v ∧ u ∈ L∗ ∧ p.Reads n next v := by
  induction n using Nat.strong_induction_on generalizing w with
  | _ n ih =>
    obtain ⟨m, rfl, hm | hm⟩ := (reads_choice_iff hbase).1 hw
    · obtain ⟨u, v, rfl, hu, hv⟩ := h.sound p _ _ hp m w hm
      obtain ⟨u', v, rfl, hu', hv⟩ := ih m (Nat.lt_succ_self m) v hv
      refine ⟨u ++ u', v, by simp, ?_, hv.mono (Nat.le_succ m)⟩
      rw [← Language.one_add_self_mul_kstar_eq_kstar]
      exact .inr (Language.append_mem_mul hu hu')
    · exact ⟨[], w, rfl, Language.nil_mem_kstar L, hm.mono (Nat.le_succ m)⟩

theorem loop_complete (h : Lays piece L) (hp : p.Placed start (piece start base).nodes)
    (hbase : p[base]? = some (choice greedy (piece start base).entry next)) (n : Nat) (u v : Bytes)
    (hu : u ∈ L∗) (hv : p.Reads n next v) : ∃ m, p.Reads m base (u ++ v) := by
  obtain ⟨words, rfl, hwords⟩ := Language.mem_kstar.1 hu
  clear hu
  induction words with
  | nil => exact ⟨n + 1, (reads_choice_iff hbase).2 ⟨n, rfl, .inr hv⟩⟩
  | cons word words ih =>
    obtain ⟨hword, hwords⟩ := List.forall_mem_cons.1 hwords
    obtain ⟨m, hm⟩ := ih hwords
    obtain ⟨m, hm⟩ := h.complete p _ _ hp m word _ hword hm
    rw [List.flatten_cons, List.append_assoc]
    exact ⟨m + 1, (reads_choice_iff hbase).2 ⟨m, rfl, .inl hm⟩⟩

end Loop

theorem lays_oneOrMore (greedy : Bool) (h : Lays piece L) :
    Lays (oneOrMore greedy piece) (L * L∗) where
  sound p base next hp n w hw := by
    obtain ⟨hchoice, hpiece⟩ := placed_append hp
    obtain ⟨u, v, rfl, hu, hv⟩ := h.sound p _ _ hpiece n w hw
    obtain ⟨u', v, rfl, hu', hv⟩ := loop_sound h hpiece (placed_singleton hchoice) n v hv
    exact ⟨u ++ u', v, by simp, Language.append_mem_mul hu hu', hv⟩
  complete p base next hp n w v hw hv := by
    obtain ⟨hchoice, hpiece⟩ := placed_append hp
    obtain ⟨u, hu, u', hu', rfl⟩ := Language.mem_mul.1 hw
    obtain ⟨m, hm⟩ := loop_complete h hpiece (placed_singleton hchoice) n u' v hu' hv
    rw [List.append_assoc]
    exact h.complete p _ _ hpiece m u (u' ++ v) hu hm

theorem lays_anyNumber (greedy : Bool) (h : Lays piece L) : Lays (anyNumber greedy piece) L∗ where
  sound p base next hp n w hw := by
    obtain ⟨hchoice, hpiece⟩ := placed_append hp
    exact loop_sound h hpiece (placed_singleton hchoice) n w hw
  complete p base next hp n w v hw hv := by
    obtain ⟨hchoice, hpiece⟩ := placed_append hp
    exact loop_complete h hpiece (placed_singleton hchoice) n w v hw hv

theorem lays_anyNumberOfEmpty (greedy : Bool) (h : Lays piece L) :
    Lays (anyNumberOfEmpty greedy piece) L∗ where
  sound p base next hp n w hw := by
    obtain ⟨hchoices, hpiece⟩ := placed_append hp
    obtain ⟨hloop, hchoice⟩ := placed_cons hchoices
    obtain ⟨m, rfl, hm | hm⟩ := (reads_choice_iff hchoice).1 hw
    · obtain ⟨u, v, rfl, hu, hv⟩ := h.sound p _ _ hpiece m w hm
      obtain ⟨u', v, rfl, hu', hv⟩ := loop_sound h hpiece (placed_singleton hloop) m v hv
      refine ⟨u ++ u', v, by simp, ?_, hv.mono (Nat.le_succ m)⟩
      rw [← Language.one_add_self_mul_kstar_eq_kstar]
      exact .inr (Language.append_mem_mul hu hu')
    · exact ⟨[], w, rfl, Language.nil_mem_kstar L, hm.mono (Nat.le_succ m)⟩
  complete p base next hp n w v hw hv := by
    obtain ⟨hchoices, hpiece⟩ := placed_append hp
    obtain ⟨hloop, hchoice⟩ := placed_cons hchoices
    rw [← Language.one_add_self_mul_kstar_eq_kstar] at hw
    rcases hw with hw | hw
    · obtain rfl := (Language.mem_one w).1 hw
      exact ⟨n + 1, (reads_choice_iff hchoice).2 ⟨n, rfl, .inr hv⟩⟩
    · obtain ⟨u, hu, u', hu', rfl⟩ := Language.mem_mul.1 hw
      obtain ⟨m, hm⟩ := loop_complete h hpiece (placed_singleton hloop) n u' v hu' hv
      obtain ⟨m, hm⟩ := h.complete p _ _ hpiece m u (u' ++ v) hu hm
      rw [List.append_assoc]
      exact ⟨m + 1, (reads_choice_iff hchoice).2 ⟨m, rfl, .inl hm⟩⟩

theorem lays_repeated (min : Nat) (max : Option Nat) (greedy readsByte : Bool) (h : Lays piece L) :
    Lays (repeated min max greedy readsByte piece) (rounds L min max) := by
  cases max with
  | some max =>
    rw [rounds_some]
    exact lays_seq (lays_copies h min) (lays_atMost greedy h (max - min))
  | none =>
    rw [rounds_none]
    cases min with
    | zero =>
      rw [pow_zero, one_mul]
      cases readsByte with
      | true => exact lays_anyNumber greedy h
      | false => exact lays_anyNumberOfEmpty greedy h
    | succ min =>
      rw [pow_succ, mul_assoc]
      exact lays_seq (lays_copies h min) (lays_oneOrMore greedy h)

end Fragment

end TransitionMap.Pattern
