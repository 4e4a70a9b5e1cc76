import Mathlib.Data.List.Perm.Basic
import TransitionMap.Dump
import TransitionMap.Proofs.Sorting

/-!
# Listings and the order of entries

A listing sorts its entries and measures the widest state among them. Neither depends on whether the
entries come in key order already, so a table and its sorted form are listed alike
(`dump_sortByKey`). Nothing inside a line is a line feed, whatever the entry is, so a listing has as
many lines as there are entries (`hasLines_dump`).
-/

namespace TransitionMap

/-- What holds of the first 256 numbers as bytes holds of all bytes. -/
@[elab_as_elim]
theorem forall_byte {P : UInt8 → Prop} (b : UInt8) (h : ∀ n < 256, P (UInt8.ofNat n)) : P b := by
  have hb := h b.toNat b.toNat_lt
  rwa [UInt8.ofNat_toNat] at hb

namespace Dump

theorem maxState_eq_of_perm {entries entries' : List Entry} (h : entries.Perm entries') :
    maxState entries = maxState entries' := by
  have comm : RightCommutative fun (m : Nat) (e : Entry) =>
      max m (max e.key.state.toNat e.value.state.toNat) := ⟨fun m d e => by omega⟩
  exact h.foldl_eq 0

theorem lines_sortByKey (p : Palette) (entries : List Entry) :
    lines p (Entry.sortByKey entries) = lines p entries := by
  have hwidth := maxState_eq_of_perm (Entry.perm_sortByKey entries)
  rw [lines, lines, Entry.sortByKey_sortByKey, hwidth]

/-! ## Lines -/

/-- Nothing but printable characters, so neither a line feed nor an escape. -/
def Printable (text : List Char) : Prop := ∀ c ∈ text, 32 ≤ c.toNat ∧ c.toNat < 127

-- Character by character of the text, not over all characters there are.
instance : DecidablePred Printable := fun text => List.decidableBAll _ text

theorem Printable.newline_notMem {text : List Char} (h : Printable text) : '\n' ∉ text :=
  fun hmem => absurd (h '\n' hmem).1 (by decide)

theorem Printable.append {text text' : List Char} (h : Printable text) (h' : Printable text') :
    Printable (text ++ text') := fun c hc => (List.mem_append.1 hc).elim (h c) (h' c)

theorem printable_padRight {text : List Char} (h : Printable text) (width : Nat) :
    Printable (padRight width text) := by
  refine h.append fun c hc => ?_
  rw [List.eq_of_mem_replicate hc]
  decide

theorem printable_stateLabel (s : StateId) : Printable (stateLabel s) := by
  have hletter : Printable "S".toList := by decide
  rw [stateLabel, StateId.label, String.toList_append, Nat.toList_repr]
  refine hletter.append fun c hc => ?_
  have hdigit := Nat.isDigit_of_mem_toDigits (by decide) (Nat.le_refl 10) hc
  simp only [Char.isDigit, ge_iff_le, Bool.and_eq_true, decide_eq_true_eq,
    UInt32.le_iff_toNat_le] at hdigit
  have hfirst : 48 ≤ c.toNat := hdigit.1
  have hlast : c.toNat ≤ 57 := hdigit.2
  omega

theorem printable_unitLabel (b : UInt8) : Printable (unitLabel b) :=
  forall_byte b (by decide +kernel)

/-- No part of a palette ends a line. -/
structure Inline (p : Palette) : Prop where
  state : '\n' ∉ p.state
  accept : '\n' ∉ p.accept
  dim : '\n' ∉ p.dim
  reset : '\n' ∉ p.reset

theorem inline_ofFlag (colored : Bool) : Inline (.ofFlag colored) := by
  cases colored <;> constructor <;> decide +kernel

theorem newline_notMem_line {p : Palette} (h : Inline p) (width : Nat) (e : Entry) :
    '\n' ∉ line p width e := by
  have hsource := (printable_padRight (printable_stateLabel e.key.state) width).newline_notMem
  have hunit := (printable_padRight (printable_unitLabel e.key.unit) 4).newline_notMem
  have htarget := (printable_stateLabel e.value.state).newline_notMem
  have hword : '\n' ∉ "accept".toList := by decide
  have hspaces : '\n' ∉ [' ', ' '] := by decide
  have harrow : '\n' ∉ [' ', ' ', '-', '>'] := by decide
  unfold line
  split <;> simp only [List.mem_append, h.state, h.accept, h.dim, h.reset, hsource, hunit, htarget,
    hword, hspaces, harrow, or_self, not_false_eq_true]

end Dump

/-- A text of so many lines, each of which ends in a line feed. -/
def HasLines (text : String) (count : Nat) : Prop :=
  ∃ lines : List (List Char), lines.length = count ∧ (∀ line ∈ lines, '\n' ∉ line) ∧
    text.toList = lines.flatMap (· ++ ['\n'])

theorem hasLines_dump {p : Palette} (h : Dump.Inline p) (entries : List Entry) :
    HasLines (dump p entries) entries.length := by
  refine ⟨Dump.lines p entries, ?_, fun line hline => ?_, String.toList_ofList⟩
  · rw [Dump.lines, List.length_map, Entry.length_sortByKey]
  · obtain ⟨e, -, rfl⟩ := List.mem_map.1 hline
    exact Dump.newline_notMem_line h _ e

/-- Sorting a table does not change its listing. -/
theorem dump_sortByKey (p : Palette) (entries : List Entry) :
    dump p (Entry.sortByKey entries) = dump p entries := by
  rw [dump, dump, Dump.lines_sortByKey]

end TransitionMap
