import Mathlib.Data.Nat.Bitwise
import Mathlib.Logic.Function.Iterate
import TransitionMap.Image.Checksum
import TransitionMap.Proofs.Records

/-!
# The checksum sees every change within four bytes

A shift of the remainder is linear in exclusive or (`shift_xor`) and loses nothing
(`shift_injective`), since the bit that falls out comes in again at the top with the polynomial.
Up to four bytes can be added to the remainder at once, before all of their shifts
(`run_eq_shifts`); hence different ones leave different remainders (`run_ne_of_burst`), whatever
stands before and behind them (`checksum_ne_of_window`).
-/

namespace TransitionMap

namespace Checksum

open Bytes

/-! ## Shifts -/

theorem and_one_eq_one_iff (r : UInt32) : r &&& 1 = 1 ↔ r.toNat % 2 = 1 := by
  rw [← UInt32.toNat_inj, UInt32.toNat_and]
  simp [Nat.and_one_is_mod]

theorem shift_of_even {r : UInt32} (h : r.toNat % 2 = 0) : shift r = r >>> 1 := by
  have hbit : ¬ r &&& 1 = 1 := by
    rw [and_one_eq_one_iff]
    omega
  rw [shift, if_neg hbit]

theorem shift_of_odd {r : UInt32} (h : r.toNat % 2 = 1) : shift r = (r >>> 1) ^^^ polynomial := by
  rw [shift, if_pos ((and_one_eq_one_iff r).2 h)]

theorem toNat_shiftRight_one (r : UInt32) : (r >>> 1).toNat = r.toNat / 2 := by
  rw [UInt32.toNat_shiftRight]
  rfl

/-- A shift is linear. -/
theorem shift_xor (a b : UInt32) : shift (a ^^^ b) = shift a ^^^ shift b := by
  have hparity := @Nat.xor_mod_two_eq_one a.toNat b.toNat
  rw [← UInt32.toNat_xor] at hparity
  have hright : (a ^^^ b) >>> 1 = (a >>> 1) ^^^ (b >>> 1) := UInt32.shiftRight_xor
  rcases Nat.mod_two_eq_zero_or_one a.toNat with ha | ha <;>
    rcases Nat.mod_two_eq_zero_or_one b.toNat with hb | hb
  · rw [shift_of_even ha, shift_of_even hb, shift_of_even (by omega), hright]
  · rw [shift_of_even ha, shift_of_odd hb, shift_of_odd (by omega), hright, UInt32.xor_assoc]
  · rw [shift_of_odd ha, shift_of_even hb, shift_of_odd (by omega), hright]
    ac_rfl
  · have hcancel : ∀ x y p : UInt32, (x ^^^ p) ^^^ (y ^^^ p) = x ^^^ y := by
      intro x y p
      rw [UInt32.xor_comm y p, UInt32.xor_assoc, ← UInt32.xor_assoc p p y, UInt32.xor_self,
        UInt32.zero_xor]
    rw [shift_of_odd ha, shift_of_odd hb, shift_of_even (by omega), hright, hcancel]

/-- Only the zero remainder is shifted to zero: the polynomial has the top bit, which no half of a
word has. -/
theorem eq_zero_of_shift_eq_zero {r : UInt32} (h : shift r = 0) : r = 0 := by
  have hlt := r.toNat_lt
  have hhalf := toNat_shiftRight_one r
  rcases Nat.mod_two_eq_zero_or_one r.toNat with hr | hr
  · rw [shift_of_even hr] at h
    rw [h] at hhalf
    apply UInt32.toNat_inj.1
    simp at hhalf ⊢
    omega
  · rw [shift_of_odd hr, UInt32.xor_eq_zero_iff] at h
    rw [h, polynomial] at hhalf
    simp at hhalf
    omega

theorem shift_injective : Function.Injective shift := by
  intro a b h
  have hzero : shift (a ^^^ b) = 0 := by
    rw [shift_xor, h, UInt32.xor_self]
  exact UInt32.xor_eq_zero_iff.1 (eq_zero_of_shift_eq_zero hzero)

theorem iterate_shift_xor (n : Nat) (a b : UInt32) :
    shift^[n] (a ^^^ b) = shift^[n] a ^^^ shift^[n] b := by
  induction n generalizing a b with
  | zero => rfl
  | succ n ih => rw [Function.iterate_succ_apply, shift_xor, ih]; rfl

/-- What stands `n` places up comes down by `n` shifts. -/
theorem toNat_iterate_shift {n k : Nat} {r : UInt32} (h : r.toNat = k <<< n) :
    (shift^[n] r).toNat = k := by
  induction n generalizing r with
  | zero => simpa using h
  | succ n ih =>
    rw [Nat.shiftLeft_succ] at h
    rw [Function.iterate_succ_apply]
    apply ih
    rw [shift_of_even (by omega), toNat_shiftRight_one]
    omega

/-! ## Bytes added at once -/

/-- A byte and what stands above it do not overlap. -/
theorem xor_eq_add {a v : Nat} (ha : a < 256) : a ^^^ (256 * v) = a + 256 * v := by
  have hlow : (a ^^^ (256 * v)) % 256 = a := by
    have h := @Nat.xor_mod_two_pow a (256 * v) 8
    simp at h
    omega
  have hhigh : (a ^^^ (256 * v)) / 256 = v := by
    have h := @Nat.xor_div_two_pow a (256 * v) 8
    simp [Nat.div_eq_of_lt ha] at h
    omega
  omega

/-- Three bytes fit above a byte. -/
theorem toNat_ofNat_lifted {a v : Nat} (ha : a < 256) (hv : v < 16777216) :
    (UInt32.ofNat (a + 256 * v)).toNat = a + 256 * v := by
  apply UInt32.toNat_ofNat_of_lt'
  simp only [UInt32.size]
  omega

theorem xor_ofNat_value (b : UInt8) {v : Nat} (hv : v < 16777216) :
    b.toUInt32 ^^^ UInt32.ofNat (256 * v) = UInt32.ofNat (b.toNat + 256 * v) := by
  have hb := b.toNat_lt
  have hhigh := toNat_ofNat_lifted (a := 0) (by decide) hv
  rw [Nat.zero_add] at hhigh
  apply UInt32.toNat_inj.1
  rw [UInt32.toNat_xor, UInt8.toNat_toUInt32, hhigh, toNat_ofNat_lifted hb hv, xor_eq_add hb]

/-- Adding a byte after eight shifts is adding it eight places up before them. -/
theorem step_xor (r : UInt32) (b : UInt8) {v : Nat} (hv : v < 16777216) :
    step r b ^^^ UInt32.ofNat v = shift^[8] (r ^^^ UInt32.ofNat (b.toNat + 256 * v)) := by
  have hdown : shift^[8] (UInt32.ofNat (256 * v)) = UInt32.ofNat v := by
    have hhigh := toNat_ofNat_lifted (a := 0) (by decide) hv
    rw [Nat.zero_add] at hhigh
    have hlow : v < UInt32.size := Nat.lt_trans hv (by decide)
    apply UInt32.toNat_inj.1
    rw [UInt32.toNat_ofNat_of_lt' hlow]
    apply toNat_iterate_shift
    rw [hhigh, Nat.shiftLeft_eq]
    omega
  rw [← xor_ofNat_value b hv, ← UInt32.xor_assoc, iterate_shift_xor, hdown]
  rfl

/-- Up to four bytes are added to the remainder at once, before the shifts. -/
theorem run_eq_shifts (r : UInt32) {bytes : Bytes} (h : bytes.length ≤ 4) :
    run r bytes = shift^[8 * bytes.length] (r ^^^ UInt32.ofNat (value bytes)) := by
  induction bytes generalizing r with
  | nil => simp [run, value]
  | cons b rest ih =>
    rw [List.length_cons] at h
    have hlt : value rest < 16777216 := value_lt_of_length_le (Nat.le_of_succ_le_succ h)
    have hlength : 8 * (b :: rest).length = 8 * rest.length + 8 := by
      rw [List.length_cons]
      omega
    calc run r (b :: rest)
        = run (step r b) rest := rfl
      _ = shift^[8 * rest.length] (step r b ^^^ UInt32.ofNat (value rest)) := ih _ (by omega)
      _ = shift^[8 * rest.length] (shift^[8] (r ^^^ UInt32.ofNat (value (b :: rest)))) := by
        rw [step_xor r b hlt, value]
      _ = shift^[8 * (b :: rest).length] (r ^^^ UInt32.ofNat (value (b :: rest))) := by
        rw [hlength, Function.iterate_add_apply]

/-! ## Differences -/

theorem run_append (r : UInt32) (x y : Bytes) : run r (x ++ y) = run (run r x) y :=
  List.foldl_append

theorem step_injective (b : UInt8) : Function.Injective fun r => step r b := by
  intro r s h
  have hshifts : shift^[8] (r ^^^ b.toUInt32) = shift^[8] (s ^^^ b.toUInt32) := h
  exact (UInt32.xor_left_inj _).1 (shift_injective.iterate 8 hshifts)

/-- Bytes that follow keep remainders apart. -/
theorem run_injective (bytes : Bytes) : Function.Injective fun r => run r bytes := by
  induction bytes with
  | nil => exact fun _ _ h => h
  | cons b rest ih => exact fun _ _ h => step_injective b (ih h)

/-- Different bytes, at most four, leave different remainders. -/
theorem run_ne_of_burst (r : UInt32) {x y : Bytes} (hlength : x.length = y.length)
    (hle : x.length ≤ 4) (hne : x ≠ y) : run r x ≠ run r y := by
  intro h
  rw [run_eq_shifts r hle, run_eq_shifts r (hlength ▸ hle), ← hlength] at h
  have hwords := (UInt32.xor_right_inj r).1 (shift_injective.iterate _ h)
  have hx : value x < UInt32.size := value_lt_of_length_le hle
  have hy : value y < UInt32.size := value_lt_of_length_le (hlength ▸ hle)
  have hvalues : value x = value y := by
    rw [← UInt32.toNat_ofNat_of_lt' hx, hwords, UInt32.toNat_ofNat_of_lt' hy]
  exact hne (value_injective hlength hvalues)

end Checksum

open Checksum

theorem checksum_ne_of_burst (before behind : Bytes) {x y : Bytes} (hlength : x.length = y.length)
    (hle : x.length ≤ 4) (hne : x ≠ y) :
    checksum (before ++ x ++ behind) ≠ checksum (before ++ y ++ behind) := by
  intro h
  have hruns : run 0xffffffff (before ++ x ++ behind) = run 0xffffffff (before ++ y ++ behind) :=
    UInt32.not_inj.1 h
  rw [run_append, run_append, run_append, run_append] at hruns
  exact run_ne_of_burst _ hlength hle hne (run_injective behind hruns)

/-- Byte strings of one length that differ only within a window of four bytes, if at all, have
different checksums. -/
theorem checksum_ne_of_window {x y : Bytes} (hlength : x.length = y.length) (hne : x ≠ y)
    (start : Nat) (hwindow : ∀ i, x[i]? ≠ y[i]? → start ≤ i ∧ i < start + 4) :
    checksum x ≠ checksum y := by
  have hagree : ∀ i, ¬ (start ≤ i ∧ i < start + 4) → x[i]? = y[i]? := by
    intro i hi
    by_contra hdiffer
    exact hi (hwindow i hdiffer)
  have hbefore : x.take start = y.take start := by
    apply List.ext_getElem?
    intro i
    rw [List.getElem?_take, List.getElem?_take]
    split
    · exact hagree i (by omega)
    · rfl
  have hbehind : (x.drop start).drop 4 = (y.drop start).drop 4 := by
    apply List.ext_getElem?
    intro i
    simp only [List.getElem?_drop]
    exact hagree _ (by omega)
  have hsplit : ∀ z : Bytes,
      z = z.take start ++ (z.drop start).take 4 ++ (z.drop start).drop 4 := by
    intro z
    rw [List.append_assoc, List.take_append_drop, List.take_append_drop]
  rw [hsplit x, hsplit y, hbefore, hbehind]
  apply checksum_ne_of_burst
  · simp [hlength]
  · rw [List.length_take]
    exact Nat.min_le_left _ _
  · intro hmiddle
    apply hne
    rw [hsplit x, hsplit y, hbefore, hbehind, hmiddle]

end TransitionMap
