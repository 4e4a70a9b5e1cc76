import Mathlib.Algebra.Order.Ring.Nat
import Mathlib.Tactic.Ring
import TransitionMap.Pattern.ByteTrie

/-!
# Tries accept the UTF-8 sequences of characters

`ByteTrie.accepts_ofChars`: the trie of a set accepts exactly the UTF-8 sequences of its
characters. A code is split into the bits of the leading byte and six bits for each byte behind it
(`leadBytes`, `tailBytes`); one level of the trie reads one of these parts (`accepts_arms`), and
putting equal neighbours together changes nothing (`accepts_joinBlocks`).
-/

namespace TransitionMap

namespace CharSet

theorem mem_eq_true {s : CharSet} {c : Nat} : s.mem c = true ↔ ∃ r ∈ s, r.1 ≤ c ∧ c ≤ r.2 := by
  simp [mem]

theorem mem_nil {c : Nat} : mem [] c = true ↔ False := by simp [mem]

theorem mem_cons {r : Nat × Nat} {s : CharSet} {c : Nat} :
    mem (r :: s) c = true ↔ (r.1 ≤ c ∧ c ≤ r.2) ∨ s.mem c = true := by
  simp [mem]

theorem mem_overlap {s t : CharSet} {c : Nat} :
    (overlap s t).mem c = true ↔ s.mem c = true ∧ t.mem c = true := by
  simp only [mem_eq_true, overlap, List.mem_flatMap, List.mem_filterMap]
  constructor
  · rintro ⟨r, ⟨q, hq, p, hp, hr⟩, hlo, hhi⟩
    simp only [Option.ite_none_right_eq_some, Option.some.injEq] at hr
    obtain ⟨-, rfl⟩ := hr
    exact ⟨⟨q, hq, by omega, by omega⟩, p, hp, by omega, by omega⟩
  · rintro ⟨⟨q, hq, hqlo, hqhi⟩, p, hp, hplo, hphi⟩
    refine ⟨(max q.1 p.1, min q.2 p.2), ⟨q, hq, p, hp, ?_⟩, by simp; omega, by simp; omega⟩
    rw [if_pos (by omega)]

end CharSet

namespace Pattern.ByteTrie

/-! ## Blocks -/

theorem mem_slice {lo width v : Nat} {s : CharSet} (hwidth : 0 < width) :
    (slice lo (lo + width - 1) s).mem v = true ↔ v < width ∧ s.mem (lo + v) = true := by
  simp only [CharSet.mem_eq_true, slice, List.mem_filterMap]
  constructor
  · rintro ⟨r, ⟨q, hq, hr⟩, hlo, hhi⟩
    simp only [Option.ite_none_right_eq_some, Option.some.injEq] at hr
    obtain ⟨hle, rfl⟩ := hr
    simp only at hlo hhi
    exact ⟨by omega, q, hq, by omega, by omega⟩
  · rintro ⟨hv, q, hq, hlo, hhi⟩
    refine ⟨(max lo q.1 - lo, min (lo + width - 1) q.2 - lo),
      ⟨q, hq, ?_⟩, by simp; omega, by simp; omega⟩
    rw [if_pos (by omega)]

/-- A block that is not empty has a code. -/
theorem slice_ne_nil_iff {lo width : Nat} {s : CharSet} :
    slice lo (lo + width - 1) s ≠ [] ↔ ∃ v, (slice lo (lo + width - 1) s).mem v = true := by
  constructor
  · intro h
    obtain ⟨r, hr⟩ := List.exists_mem_of_ne_nil _ h
    refine ⟨r.1, CharSet.mem_eq_true.2 ⟨r, hr, Nat.le_refl _, ?_⟩⟩
    obtain ⟨q, -, hq⟩ := List.mem_filterMap.1 hr
    simp only [Option.ite_none_right_eq_some, Option.some.injEq] at hq
    obtain ⟨hle, rfl⟩ := hq
    simp only
    omega
  · rintro ⟨v, hv⟩ hnil
    rw [hnil] at hv
    cases hv

theorem mem_blocks {width count i : Nat} {s block : CharSet} :
    (i, block) ∈ blocks width count s ↔
      i < count ∧ block = slice (i * width) (i * width + width - 1) s ∧ block ≠ [] := by
  simp only [blocks, List.mem_filterMap, List.mem_range]
  constructor
  · rintro ⟨j, hj, hblock⟩
    split at hblock
    · cases hblock
    case h_2 hne =>
      obtain ⟨rfl, rfl⟩ := Prod.mk.inj (Option.some.inj hblock)
      exact ⟨hj, rfl, hne⟩
  · rintro ⟨hi, rfl, hne⟩
    refine ⟨i, hi, ?_⟩
    split
    · exact absurd ‹_› hne
    · rfl

/-! ## One level -/

section Level

variable (base : Nat) (next : CharSet → ByteTrie) (rest : ByteTrie)

/-- One arm for each range of blocks. -/
def armsOf (ranges : List (Nat × Nat × CharSet)) : ByteTrie :=
  ranges.foldr (fun (first, last, block) rest =>
    arm (UInt8.ofNat (base + first)) (UInt8.ofNat (base + last)) (next block) rest) rest

theorem accepts_armsOf_cons {first last : Nat} {block : CharSet}
    {ranges : List (Nat × Nat × CharSet)}
    {b : UInt8} {word : Bytes} (hfirst : base + first < 256) (hlast : base + last < 256) :
    (armsOf base next rest ((first, last, block) :: ranges)).accepts (b :: word) =
      if base + first ≤ b.toNat ∧ b.toNat ≤ base + last then (next block).accepts word
      else (armsOf base next rest ranges).accepts (b :: word) := by
  rw [armsOf, List.foldr_cons, accepts, ← armsOf]
  simp only [UInt8.le_iff_toNat_le, UInt8.toNat_ofNat_of_lt' hfirst, UInt8.toNat_ofNat_of_lt' hlast]

/-- Neighbours with equal blocks in one arm: the same sequences. -/
theorem accepts_joinBlocks {bs : List (Nat × CharSet)} (hbound : ∀ x ∈ bs, base + x.1 < 256) :
    (∀ r ∈ joinBlocks bs, r.1 ≤ r.2.1 ∧ base + r.2.1 < 256) ∧
      ∀ b word, (armsOf base next rest (joinBlocks bs)).accepts (b :: word) =
        (armsOf base next rest (bs.map fun x => (x.1, x.1, x.2))).accepts (b :: word) := by
  induction bs with
  | nil => exact ⟨fun r hr => absurd hr List.not_mem_nil, fun b word => rfl⟩
  | cons x bs ih =>
    obtain ⟨i, block⟩ := x
    obtain ⟨hi, hbound⟩ := List.forall_mem_cons.1 hbound
    obtain ⟨hranges, haccepts⟩ := ih hbound
    have hplain : ∀ b word,
      (armsOf base next rest ((i, i, block) :: joinBlocks bs)).accepts (b :: word) =
        (armsOf base next rest (((i, block) :: bs).map fun x => (x.1, x.1, x.2))).accepts
          (b :: word) :=
      fun b word => by
        rw [List.map_cons, accepts_armsOf_cons base next rest hi hi, haccepts b word,
          accepts_armsOf_cons base next rest hi hi]
    rw [joinBlocks]
    cases hjoin : joinBlocks bs with
    | nil =>
      rw [hjoin] at hplain
      refine ⟨fun r hr => ?_, hplain⟩
      obtain rfl := List.mem_singleton.1 hr
      exact ⟨Nat.le_refl i, hi⟩
    | cons r more =>
      obtain ⟨first, last, block'⟩ := r
      rw [hjoin] at hranges hplain
      obtain ⟨⟨hle, hlast⟩, hmore⟩ := List.forall_mem_cons.1 hranges
      simp only at hle hlast
      dsimp only
      split
      case isTrue hjoined =>
        obtain ⟨rfl, rfl⟩ := hjoined
        refine ⟨List.forall_mem_cons.2 ⟨⟨by simp only; omega, hlast⟩, hmore⟩, fun b word => ?_⟩
        rw [← hplain, accepts_armsOf_cons base next rest hi hlast,
          accepts_armsOf_cons base next rest hi hi,
          accepts_armsOf_cons base next rest (by omega) hlast]
        split_ifs <;> first | rfl | omega
      case isFalse =>
        exact ⟨List.forall_mem_cons.2 ⟨⟨Nat.le_refl i, hi⟩, hranges⟩, hplain⟩

/-- Arms for single blocks, each given by its number. -/
theorem accepts_map_iff {bs : List (Nat × CharSet)} (block : Nat → CharSet)
    (hblock : ∀ x ∈ bs, x.2 = block x.1) (hbound : ∀ x ∈ bs, base + x.1 < 256) {b : UInt8}
    {word : Bytes} :
    (armsOf base next rest (bs.map fun x => (x.1, x.1, x.2))).accepts (b :: word) = true ↔
      (∃ i, (i, block i) ∈ bs ∧ b.toNat = base + i ∧ (next (block i)).accepts word = true) ∨
        (∀ x ∈ bs, b.toNat ≠ base + x.1) ∧ rest.accepts (b :: word) = true := by
  induction bs with
  | nil => simp [armsOf]
  | cons x bs ih =>
    obtain ⟨hx, hblock⟩ := List.forall_mem_cons.1 hblock
    obtain ⟨hlt, hbound⟩ := List.forall_mem_cons.1 hbound
    rw [List.map_cons, accepts_armsOf_cons base next rest hlt hlt]
    split
    case isTrue hb =>
      have hb : b.toNat = base + x.1 := by omega
      rw [hx]
      constructor
      · exact fun h => .inl ⟨x.1, hx ▸ List.mem_cons_self, hb, h⟩
      · rintro (⟨i, -, hi, h⟩ | ⟨hne, -⟩)
        · obtain rfl : i = x.1 := by omega
          exact h
        · exact absurd hb (hne x List.mem_cons_self)
    case isFalse hb =>
      have hb : b.toNat ≠ base + x.1 := by omega
      rw [ih hblock hbound, List.forall_mem_cons]
      refine or_congr (exists_congr fun i => and_congr_left fun h => ?_)
        (and_congr_left fun _ => ?_)
      · rw [List.mem_cons, or_iff_right]
        rintro rfl
        exact hb h.1
      · rw [and_iff_right hb]

/-- One level: the leading byte chooses a block that is not empty. -/
theorem accepts_arms {width count : Nat} {s : CharSet} (hcount : base + count ≤ 256) {b : UInt8}
    {word : Bytes} :
    (arms base width count next s rest).accepts (b :: word) = true ↔
      (∃ i < count, b.toNat = base + i ∧ slice (i * width) (i * width + width - 1) s ≠ [] ∧
        (next (slice (i * width) (i * width + width - 1) s)).accepts word = true) ∨
      (∀ i < count, slice (i * width) (i * width + width - 1) s ≠ [] → b.toNat ≠ base + i) ∧
        rest.accepts (b :: word) = true := by
  have hblock : ∀ x ∈ blocks width count s, x.2 = slice (x.1 * width) (x.1 * width + width - 1) s :=
    fun x hx => (mem_blocks.1 hx).2.1
  have hbound : ∀ x ∈ blocks width count s, base + x.1 < 256 := fun x hx => by
    have := (mem_blocks.1 hx).1
    omega
  have harms : arms base width count next s rest =
      armsOf base next rest (joinBlocks (blocks width count s)) := rfl
  rw [harms, (accepts_joinBlocks base next rest hbound).2,
    accepts_map_iff base next rest (fun i => slice (i * width) (i * width + width - 1) s) hblock
      hbound]
  refine or_congr (exists_congr fun i => ?_) (and_congr_left fun _ => ?_)
  · simp only [mem_blocks, true_and]
    tauto
  · constructor
    · exact fun h i hi hne => h _ (mem_blocks.2 ⟨hi, rfl, hne⟩)
    · exact fun h x hx => h x.1 (mem_blocks.1 hx).1 (hblock x hx ▸ (mem_blocks.1 hx).2.2)

theorem accepts_nil_arms {width count : Nat} {s : CharSet} (hrest : rest.accepts [] = false) :
    (arms base width count next s rest).accepts [] = false := by
  unfold arms
  cases joinBlocks (blocks width count s) with
  | nil => exact hrest
  | cons r ranges => rfl

end Level

/-! ## Bytes of a code -/

theorem tailCount_eq (k : Nat) : tailCount k = 64 ^ k := by
  rw [tailCount, Nat.one_shiftLeft, Nat.pow_mul]

/-- The continuation bytes that carry a code of so many times six bits. -/
def tailBytes : Nat → Nat → Bytes
  | 0, _ => []
  | k + 1, v => UInt8.ofNat (0x80 + v / 64 ^ k) :: tailBytes k (v % 64 ^ k)

/-- A leading byte, from `base` on, and continuation bytes. -/
def leadBytes (base k v : Nat) : Bytes :=
  UInt8.ofNat (base + v / 64 ^ k) :: tailBytes k (v % 64 ^ k)

/-- One level in front of continuation bytes. -/
theorem accepts_leads {base k count : Nat} {s : CharSet} {rest : ByteTrie}
    (hcount : base + count ≤ 256)
    (hrest : ∀ b word, rest.accepts (b :: word) = true → base + count ≤ b.toNat)
    (htails : ∀ s : CharSet, (∃ v < 64 ^ k, s.mem v = true) →
      ∀ word, (tails k s).accepts word = true ↔
      ∃ v < 64 ^ k, s.mem v = true ∧ word = tailBytes k v) {b : UInt8} {word : Bytes} :
    (arms base (tailCount k) count (tails k) s rest).accepts (b :: word) = true ↔
      (∃ v < count * 64 ^ k, s.mem v = true ∧ b :: word = leadBytes base k v) ∨
        rest.accepts (b :: word) = true := by
  have hwidth : 0 < 64 ^ k := Nat.pow_pos (by decide)
  rw [accepts_arms base (tails k) rest hcount, tailCount_eq]
  refine or_congr ?_ ?_
  · constructor
    · rintro ⟨i, hi, hb, hne, haccepts⟩
      obtain ⟨u, hu⟩ := slice_ne_nil_iff.1 hne
      obtain ⟨v, hv, hmem, rfl⟩ := (htails _ ⟨u, (mem_slice hwidth).1 hu |>.1, hu⟩ word).1 haccepts
      refine ⟨i * 64 ^ k + v, ?_, ((mem_slice hwidth).1 hmem).2, ?_⟩
      · calc i * 64 ^ k + v < i * 64 ^ k + 64 ^ k := Nat.add_lt_add_left hv _
          _ = (i + 1) * 64 ^ k := (Nat.succ_mul i _).symm
          _ ≤ count * 64 ^ k := Nat.mul_le_mul_right _ hi
      · have hdiv : (i * 64 ^ k + v) / 64 ^ k = i := by
          rw [Nat.add_comm, Nat.add_mul_div_right v i hwidth, Nat.div_eq_of_lt hv, Nat.zero_add]
        have hmod : (i * 64 ^ k + v) % 64 ^ k = v := by
          rw [Nat.add_comm, Nat.add_mul_mod_self_right, Nat.mod_eq_of_lt hv]
        rw [leadBytes, hdiv, hmod, ← hb, UInt8.ofNat_toNat]
    · rintro ⟨v, hv, hmem, hbytes⟩
      obtain ⟨rfl, rfl⟩ := List.cons.inj hbytes
      have hi : v / 64 ^ k < count := Nat.div_lt_of_lt_mul (by rwa [Nat.mul_comm])
      have hlow : v % 64 ^ k < 64 ^ k := Nat.mod_lt v hwidth
      have hmem : (slice (v / 64 ^ k * 64 ^ k) (v / 64 ^ k * 64 ^ k + 64 ^ k - 1) s).mem
          (v % 64 ^ k) = true :=
        (mem_slice hwidth).2 ⟨hlow, by rwa [Nat.div_add_mod']⟩
      refine ⟨v / 64 ^ k, hi, UInt8.toNat_ofNat_of_lt' ?_, slice_ne_nil_iff.2 ⟨_, hmem⟩, ?_⟩
      · exact Nat.lt_of_lt_of_le (Nat.add_lt_add_left hi base) hcount
      · exact (htails _ ⟨_, hlow, hmem⟩ _).2 ⟨_, hlow, hmem, rfl⟩
  · constructor
    · exact fun h => h.2
    · intro h
      have hle := hrest b word h
      exact ⟨fun i hi _ => by omega, h⟩

theorem accepts_tails (k : Nat) (s : CharSet) (hs : ∃ v < 64 ^ k, s.mem v = true) (word : Bytes) :
    (tails k s).accepts word = true ↔ ∃ v < 64 ^ k, s.mem v = true ∧ word = tailBytes k v := by
  induction k generalizing s word with
  | zero =>
    obtain ⟨v, hv, hmem⟩ := hs
    obtain rfl : v = 0 := by omega
    simp only [tails, accepts, List.isEmpty_iff, tailBytes]
    exact ⟨fun h => ⟨0, hv, hmem, h⟩, fun ⟨_, _, _, h⟩ => h⟩
  | succ k ih =>
    cases word with
    | nil =>
      rw [tails, accepts_nil_arms _ _ _ rfl]
      simp [tailBytes]
    | cons b word =>
      rw [tails, accepts_leads (by decide) (fun b word h => by cases h) ih, Nat.pow_succ',
        or_iff_left (by simp [accepts])]
      rfl

/-- The leading byte of what a level and the levels below it accept. -/
theorem base_le_of_accepts {base k count : Nat} {s : CharSet} {rest : ByteTrie}
    (hcount : base + count ≤ 256)
    (hrest : ∀ b word, rest.accepts (b :: word) = true → base + count ≤ b.toNat) (b : UInt8)
    (word : Bytes)
    (h : (arms base (tailCount k) count (tails k) s rest).accepts (b :: word) = true) :
    base ≤ b.toNat := by
  rcases (accepts_leads hcount hrest (accepts_tails k)).1 h with ⟨v, hv, -, hbytes⟩ | h
  · obtain ⟨rfl, -⟩ := List.cons.inj hbytes
    have hi : v / 64 ^ k < count := Nat.div_lt_of_lt_mul (by rwa [Nat.mul_comm])
    rw [UInt8.toNat_ofNat_of_lt' (Nat.lt_of_lt_of_le (Nat.add_lt_add_left hi base) hcount)]
    exact Nat.le_add_right base _
  · exact Nat.le_trans (Nat.le_add_right base count) (hrest b word h)

/-! ## Characters -/

theorem utf8EncodeChar_eq (c : Char) :
    String.utf8EncodeChar c =
      if c.toNat ≤ 0x7f then leadBytes 0 0 c.toNat
      else if c.toNat ≤ 0x7ff then leadBytes 0xc0 1 c.toNat
      else if c.toNat ≤ 0xffff then leadBytes 0xe0 2 c.toNat
      else leadBytes 0xf0 3 c.toNat := by
  have hc : c.val.toNat = c.toNat := rfl
  have hvalid : c.toNat < 0xd800 ∨ 0xdfff < c.toNat ∧ c.toNat < 0x110000 := c.valid
  simp only [String.utf8EncodeChar, hc, leadBytes, tailBytes, Nat.reducePow]
  generalize c.toNat = v at hvalid
  split_ifs
  · exact congrArg (fun n => [UInt8.ofNat n]) (by omega)
  all_goals
    refine List.cons_eq_cons.2 ⟨congrArg UInt8.ofNat (by omega), ?_⟩
    repeat refine List.cons_eq_cons.2 ⟨congrArg UInt8.ofNat (by omega), ?_⟩
    rfl

theorem exists_char {v : Nat} (h : v < 0xd800 ∨ 0xdfff < v ∧ v < 0x110000) :
    ∃ c : Char, c.toNat = v :=
  ⟨Char.ofNatAux v h, rfl⟩

/-- The trie of a set accepts the UTF-8 sequences of its characters. -/
theorem accepts_ofChars (s : CharSet) (word : Bytes) :
    (ofChars s).accepts word = true ↔
      ∃ c : Char, s.mem c.toNat = true ∧ word = String.utf8EncodeChar c := by
  cases word with
  | nil =>
    rw [ofChars, accepts_nil_arms _ _ _ (accepts_nil_arms _ _ _ (accepts_nil_arms _ _ _
      (accepts_nil_arms _ _ _ rfl)))]
    refine iff_of_false (by simp) ?_
    rintro ⟨c, -, hc⟩
    rw [utf8EncodeChar_eq] at hc
    split_ifs at hc <;> cases hc
  | cons b word =>
    have hreject : ∀ b word, reject.accepts (b :: word) = true → 0xf0 + 8 ≤ b.toNat :=
      fun _ _ h => by cases h
    have hfour : ∀ s b word,
      (arms 0xf0 (tailCount 3) 8 (tails 3) s reject).accepts (b :: word) = true →
        0xe0 + 16 ≤ b.toNat := fun s => base_le_of_accepts (by decide) hreject
    have hthree : ∀ s u b word, (arms 0xe0 (tailCount 2) 16 (tails 2) s
        (arms 0xf0 (tailCount 3) 8 (tails 3) u reject)).accepts (b :: word) = true →
        0xc0 + 32 ≤ b.toNat := fun s u => base_le_of_accepts (by decide) (hfour u)
    have htwo : ∀ s u v b word,
      (arms 0xc0 (tailCount 1) 32 (tails 1) s (arms 0xe0 (tailCount 2) 16 (tails 2) u
        (arms 0xf0 (tailCount 3) 8 (tails 3) v reject))).accepts (b :: word) = true →
        0 + 0x80 ≤ b.toNat := fun s u v b word h => by
      have hle : 0xc0 ≤ b.toNat := base_le_of_accepts (by decide) (hthree u v) b word h
      omega
    rw [ofChars, accepts_leads (by decide) (htwo _ _ _) (accepts_tails 0),
      accepts_leads (by decide) (hthree _ _) (accepts_tails 1),
      accepts_leads (by decide) (hfour _) (accepts_tails 2),
      accepts_leads (by decide) hreject (accepts_tails 3)]
    simp only [CharSet.mem_overlap, CharSet.mem_cons, CharSet.mem_nil, accepts, Bool.false_eq_true,
      or_false, Nat.reducePow, Nat.reduceMul]
    constructor
    · rintro (⟨v, -, ⟨hs, hv⟩, hbytes⟩ | ⟨v, -, ⟨hs, hv⟩, hbytes⟩ | ⟨v, -, ⟨hs, hv⟩, hbytes⟩ |
        ⟨v, -, ⟨hs, hv⟩, hbytes⟩)
      all_goals
        obtain ⟨c, rfl⟩ : ∃ c : Char, c.toNat = v := exists_char (by omega)
        refine ⟨c, hs, ?_⟩
        rw [hbytes, utf8EncodeChar_eq]
        split_ifs <;> first | rfl | omega
    · rintro ⟨c, hs, hbytes⟩
      have hvalid : c.toNat < 0xd800 ∨ 0xdfff < c.toNat ∧ c.toNat < 0x110000 := c.valid
      rw [utf8EncodeChar_eq] at hbytes
      split_ifs at hbytes
      · exact .inl ⟨c.toNat, by omega, ⟨hs, by omega⟩, hbytes⟩
      · exact .inr (.inl ⟨c.toNat, by omega, ⟨hs, by omega⟩, hbytes⟩)
      · exact .inr (.inr (.inl ⟨c.toNat, by omega, ⟨hs, by omega⟩, hbytes⟩))
      · exact .inr (.inr (.inr ⟨c.toNat, by omega, ⟨hs, by omega⟩, hbytes⟩))

end Pattern.ByteTrie

end TransitionMap
