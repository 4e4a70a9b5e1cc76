import Mathlib.Data.List.Basic
import TransitionMap.Layout

/-!
# Records and their bytes

A byte string stands for a number, its least significant byte first (`Bytes.value`), and strings of
one length for different ones (`Bytes.value_injective`). Words are read back from their bytes
(`word16_ofWord16`, `word32_ofWord32`), and all strings of two or four bytes are those of a word;
hence different keys have different bytes (`Key.toBytes_injective`), the fields of a value can be
read from its bytes without looking at what they are (`Value.read?_toBytes`), and eight bytes are
always those of an entry (`Entry.exists_toBytes`).
-/

namespace TransitionMap

namespace Bytes

/-! ## Byte strings as numbers -/

/-- The number whose bytes are given, least significant first. -/
def value : Bytes → Nat
  | [] => 0
  | b :: rest => b.toNat + 256 * value rest

theorem value_lt (bytes : Bytes) : value bytes < 1 <<< (8 * bytes.length) := by
  induction bytes with
  | nil => decide
  | cons b rest ih =>
    have hb := b.toNat_lt
    have hlength : 8 * (b :: rest).length = 8 * rest.length + 8 := by
      rw [List.length_cons]
      omega
    rw [value, hlength, Nat.shiftLeft_add, Nat.shiftLeft_eq _ 8]
    omega

theorem value_lt_of_length_le {bytes : Bytes} {n : Nat} (h : bytes.length ≤ n) :
    value bytes < 1 <<< (8 * n) := by
  have hle : 1 <<< (8 * bytes.length) ≤ 1 <<< (8 * n) := by
    rw [Nat.shiftLeft_eq, Nat.shiftLeft_eq]
    exact Nat.mul_le_mul_left 1 (Nat.pow_le_pow_right (by decide) (by omega))
  exact Nat.lt_of_lt_of_le (value_lt bytes) hle

theorem value_injective {x y : Bytes} (hlength : x.length = y.length) (h : value x = value y) :
    x = y := by
  induction x generalizing y with
  | nil => exact (List.length_eq_zero_iff.1 hlength.symm).symm
  | cons a x ih =>
    cases y with
    | nil => cases hlength
    | cons b y =>
      have ha := a.toNat_lt
      have hb := b.toNat_lt
      simp only [value] at h
      have hhead : a = b := UInt8.toNat_inj.1 (by omega)
      have htail : x = y := ih (Nat.succ.inj hlength) (by omega)
      rw [hhead, htail]

/-! ## Words -/

theorem toNat_word16 (b0 b1 : UInt8) : (word16 b0 b1).toNat = b0.toNat + b1.toNat * 256 := by
  have h0 := b0.toNat_lt
  have h1 := b1.toNat_lt
  have hshift : (b1.toUInt16 <<< 8).toNat = b1.toNat <<< 8 := by
    simp only [UInt16.toNat_shiftLeft, UInt8.toNat_toUInt16, UInt16.reduceToNat, Nat.reduceMod,
      Nat.shiftLeft_eq, Nat.reducePow]
    omega
  rw [word16, UInt16.toNat_or, hshift, UInt8.toNat_toUInt16, Nat.or_comm,
    ← Nat.shiftLeft_add_eq_or_of_lt h0, Nat.shiftLeft_eq]
  omega

theorem word16_ofWord16 (w : UInt16) : word16 w.toUInt8 (w >>> 8).toUInt8 = w := by
  apply UInt16.toNat_inj.1
  have hw := w.toNat_lt
  simp only [toNat_word16, UInt16.toNat_toUInt8, UInt16.toNat_shiftRight, UInt16.reduceToNat,
    Nat.reduceMod, Nat.shiftRight_eq_div_pow, Nat.reducePow]
  omega

theorem ofWord16_injective {v w : UInt16} (h : ofWord16 v = ofWord16 w) : v = w := by
  simp only [ofWord16, List.cons.injEq, and_true] at h
  rw [← word16_ofWord16 v, ← word16_ofWord16 w, h.1, h.2]

theorem value_ofWord16 (w : UInt16) : value (ofWord16 w) = w.toNat := by
  have hw := w.toNat_lt
  simp only [ofWord16, value, UInt16.toNat_toUInt8, UInt16.toNat_shiftRight, UInt16.reduceToNat,
    Nat.reduceMod, Nat.shiftRight_eq_div_pow, Nat.reducePow]
  omega

theorem value_ofWord32 (w : UInt32) : value (ofWord32 w) = w.toNat := by
  have hw := w.toNat_lt
  simp only [ofWord32, value, UInt32.toNat_toUInt8, UInt32.toNat_shiftRight, UInt32.reduceToNat,
    Nat.reduceMod, Nat.shiftRight_eq_div_pow, Nat.reducePow]
  omega

/-- What stands above the bits of a number is added to it. -/
theorem or_shiftLeft_eq_add {a : Nat} (b i : Nat) (ha : a < 1 <<< i) :
    a ||| b <<< i = a + b <<< i := by
  rw [Nat.one_shiftLeft] at ha
  rw [Nat.or_comm, ← Nat.shiftLeft_add_eq_or_of_lt ha, Nat.add_comm]

/-- A byte moved up within a word of 32 bits loses nothing. -/
theorem toNat_shiftLeft_byte (b : UInt8) {i : UInt32} (hi : i.toNat ≤ 24) :
    (b.toUInt32 <<< i).toNat = b.toNat <<< i.toNat := by
  have hb := b.toNat_lt
  have hpow : 2 ^ i.toNat ≤ 2 ^ 24 := Nat.pow_le_pow_right (by decide) hi
  have hlt : b.toNat * 2 ^ i.toNat < 2 ^ 8 * 2 ^ 24 :=
    Nat.mul_lt_mul_of_lt_of_le hb hpow (by decide)
  have hplaces : i.toNat % 32 = i.toNat := Nat.mod_eq_of_lt (by omega)
  rw [UInt32.toNat_shiftLeft, UInt8.toNat_toUInt32, hplaces, Nat.shiftLeft_eq,
    Nat.mod_eq_of_lt (by omega)]

theorem toNat_word32 (b0 b1 b2 b3 : UInt8) :
    (word32 b0 b1 b2 b3).toNat = value [b0, b1, b2, b3] := by
  have h0 := b0.toNat_lt
  have h1 := b1.toNat_lt
  have h2 := b2.toNat_lt
  have h3 := b3.toNat_lt
  have hshift1 : (b1.toUInt32 <<< 8).toNat = b1.toNat <<< 8 := toNat_shiftLeft_byte b1 (by decide)
  have hshift2 : (b2.toUInt32 <<< 16).toNat = b2.toNat <<< 16 := toNat_shiftLeft_byte b2 (by decide)
  have hshift3 : (b3.toUInt32 <<< 24).toNat = b3.toNat <<< 24 := toNat_shiftLeft_byte b3 (by decide)
  have hlow := or_shiftLeft_eq_add b1.toNat 8 h0
  have hmiddle := or_shiftLeft_eq_add (a := b0.toNat + b1.toNat <<< 8) b2.toNat 16 (by omega)
  have hhigh := or_shiftLeft_eq_add (a := b0.toNat + b1.toNat <<< 8 + b2.toNat <<< 16) b3.toNat 24
    (by omega)
  rw [word32, UInt32.toNat_or, UInt32.toNat_or, UInt32.toNat_or, hshift1, hshift2, hshift3,
    UInt8.toNat_toUInt32, hlow, hmiddle, hhigh]
  simp only [value]
  omega

theorem word32_ofWord32 (w : UInt32) :
    word32 w.toUInt8 (w >>> 8).toUInt8 (w >>> 16).toUInt8 (w >>> 24).toUInt8 = w := by
  apply UInt32.toNat_inj.1
  rw [toNat_word32]
  exact value_ofWord32 w

theorem ofWord32_injective {v w : UInt32} (h : ofWord32 v = ofWord32 w) : v = w := by
  apply UInt32.toNat_inj.1
  rw [← value_ofWord32 v, ← value_ofWord32 w, h]

theorem exists_ofWord16 {bytes : Bytes} (h : bytes.length = 2) : ∃ w, ofWord16 w = bytes := by
  have hlt : value bytes < UInt16.size := value_lt_of_length_le (Nat.le_of_eq h)
  refine ⟨UInt16.ofNat (value bytes), value_injective h.symm ?_⟩
  rw [value_ofWord16, UInt16.toNat_ofNat_of_lt' hlt]

theorem exists_ofWord32 {bytes : Bytes} (h : bytes.length = 4) : ∃ w, ofWord32 w = bytes := by
  have hlt : value bytes < UInt32.size := value_lt_of_length_le (Nat.le_of_eq h)
  refine ⟨UInt32.ofNat (value bytes), value_injective h.symm ?_⟩
  rw [value_ofWord32, UInt32.toNat_ofNat_of_lt' hlt]

theorem exists_append {bytes : Bytes} {n k : Nat} (h : bytes.length = n + k) :
    ∃ front rest, bytes = front ++ rest ∧ front.length = n ∧ rest.length = k := by
  refine ⟨bytes.take n, bytes.drop n, (List.take_append_drop n bytes).symm, ?_, ?_⟩
  · rw [List.length_take, h, Nat.min_eq_left (Nat.le_add_right n k)]
  · rw [List.length_drop, h, Nat.add_sub_cancel_left]

end Bytes

theorem Key.toBytes_injective {k l : Key} (h : k.toBytes = l.toBytes) : k = l := by
  cases k
  cases l
  obtain ⟨hstate, hrest⟩ := List.append_inj h (by simp [Bytes.length_ofWord16])
  obtain rfl := Bytes.ofWord16_injective hstate
  simp_all

namespace Value

/-- The fields of a value as they stand in four bytes, whatever they are. -/
def read? : Bytes → Option Value
  | [f0, f1, s0, s1] => some ⟨Bytes.word16 f0 f1, Bytes.word16 s0 s1⟩
  | _ => none

theorem read?_toBytes (v : Value) : read? v.toBytes = some v := by
  simp [toBytes, Bytes.ofWord16, read?, Bytes.word16_ofWord16]

end Value

/-! ## Records read back -/

theorem Key.ofBytes_toBytes (k : Key) :
    Key.ofBytes k.toBytes =
      if k.padding = 0 then .ok k else .error (.nonZeroPadding k.padding) := by
  obtain ⟨state, unit, padding⟩ := k
  simp only [toBytes, Bytes.ofWord16, List.cons_append, List.nil_append, ofBytes,
    Bytes.word16_ofWord16]
  split
  case isTrue h => rw [h]
  case isFalse => rfl

theorem Value.ofBytes_toBytes (v : Value) :
    Value.ofBytes v.toBytes =
      if v.finalState ≤ 1 then .ok v else .error (.invalidFlag v.finalState) := by
  simp only [toBytes, Bytes.ofWord16, List.cons_append, List.nil_append, ofBytes,
    Bytes.word16_ofWord16]

namespace Entry

theorem length_toBytes (e : Entry) : e.toBytes.length = 8 := rfl

/-- Eight bytes are those of an entry, which need not be valid. -/
theorem exists_toBytes {bytes : Bytes} (h : bytes.length = 8) : ∃ e : Entry, e.toBytes = bytes := by
  obtain ⟨state, bytes, rfl, hstate, h⟩ := Bytes.exists_append (n := 2) (k := 6) h
  obtain ⟨middle, bytes, rfl, hmiddle, h⟩ := Bytes.exists_append (n := 2) (k := 4) h
  obtain ⟨flag, target, rfl, hflag, htarget⟩ := Bytes.exists_append (n := 2) (k := 2) h
  obtain ⟨state, rfl⟩ := Bytes.exists_ofWord16 hstate
  obtain ⟨unit, padding, rfl⟩ := List.length_eq_two.1 hmiddle
  obtain ⟨flag, rfl⟩ := Bytes.exists_ofWord16 hflag
  obtain ⟨target, rfl⟩ := Bytes.exists_ofWord16 htarget
  refine ⟨⟨⟨state, unit, padding⟩, ⟨flag, target⟩⟩, ?_⟩
  simp [toBytes, Key.toBytes, Value.toBytes]

/-- An entry as tables hold them: no padding, and a flag of zero or one. -/
def Valid (e : Entry) : Prop := e.key.padding = 0 ∧ e.value.finalState ≤ 1

instance : DecidablePred Valid := fun _ => inferInstanceAs (Decidable (_ ∧ _))

/-- What is wrong with the bytes of an entry; of two faults the key's counts. -/
inductive Fault (e : Entry) : LayoutError → Prop
  | padding : e.key.padding ≠ 0 → Fault e (.nonZeroPadding e.key.padding)
  | flag : e.key.padding = 0 → 1 < e.value.finalState → Fault e (.invalidFlag e.value.finalState)

theorem exists_fault {e : Entry} (h : ¬ e.Valid) : ∃ cause, e.Fault cause := by
  by_cases hpadding : e.key.padding = 0
  · exact ⟨_, .flag hpadding (UInt16.not_le.1 fun hflag => h ⟨hpadding, hflag⟩)⟩
  · exact ⟨_, .padding hpadding⟩

theorem ofBytes_of_valid {e : Entry} (h : e.Valid) :
    ofBytes e.key.toBytes e.value.toBytes = .ok e := by
  rw [ofBytes, Key.ofBytes_toBytes, Value.ofBytes_toBytes, if_pos h.1, if_pos h.2]
  rfl

theorem ofBytes_of_fault {e : Entry} {cause : LayoutError} (h : e.Fault cause) :
    ofBytes e.key.toBytes e.value.toBytes = .error cause := by
  rw [ofBytes, Key.ofBytes_toBytes, Value.ofBytes_toBytes]
  cases h with
  | padding hpadding =>
    rw [if_neg hpadding]
    rfl
  | flag hpadding hflag =>
    rw [if_pos hpadding, if_neg (UInt16.not_le.2 hflag)]
    rfl

end Entry

end TransitionMap
