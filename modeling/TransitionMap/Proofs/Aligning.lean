import Mathlib.Data.List.Induction
import Mathlib.Order.Bounds.Defs
import TransitionMap.Proofs.Listing

/-!
# Columns and colors of a listing

A line of a listing is put together from parts of fixed widths up to the arrow: the source state,
padded to the widest label of the table, and the byte, padded to four characters. So bytes and
arrows stand in columns of their own. Colors are escape sequences around the parts, and nothing in a
part looks like one.

* `Dump.digitCount_eq`, `Dump.isGreatest_maxState`: the width of the widest label;
* `Dump.aligned_line`: where the parts of a line begin;
* `visible_append`, `Dump.visible_line`: what is left of a line without its escape sequences;
* `dump_aligned_and_colored`: both for whole listings.
-/

namespace TransitionMap

/-! ## Escape sequences -/

/-- The codes of the characters that end an escape sequence, from `@` to `~`. -/
def endsEscape (c : Char) : Bool := 64 ≤ c.toNat && c.toNat < 127

/-- A text without its escape sequences. A sequence starts with an escape and a bracket; the flag
tells whether the text starts within one. -/
def visible : Bool → List Char → List Char
  | _, [] => []
  | true, c :: rest => visible (!endsEscape c) rest
  | false, '\x1b' :: '[' :: rest => visible true rest
  | false, c :: rest => c :: visible false rest

theorem visible_append {text : List Char} (h : '\x1b' ∉ text) (rest : List Char) :
    visible false (text ++ rest) = text ++ visible false rest := by
  induction text with
  | nil => rfl
  | cons c text ih =>
    obtain ⟨hc, htext⟩ := not_or.1 (mt List.mem_cons.2 h)
    rw [List.cons_append, visible, ih htext, List.cons_append]
    exact fun _ heq => absurd heq.symm hc

theorem visible_escape {code : List Char} (h : code.any endsEscape = false) (rest : List Char) :
    visible false (Palette.escape code ++ rest) = visible false rest := by
  have hcode : visible true (code ++ 'm' :: rest) = visible false rest := by
    induction code with
    | nil => rfl
    | cons c code ih =>
      obtain ⟨hc, hcode⟩ := Bool.or_eq_false_iff.1 h
      rw [List.cons_append, visible, hc, Bool.not_false, ih hcode]
  rw [← hcode, Palette.escape, List.cons_append, List.cons_append, visible, List.append_assoc]
  rfl

namespace Dump

theorem Printable.escape_notMem {text : List Char} (h : Printable text) : '\x1b' ∉ text :=
  fun hmem => absurd (h '\x1b' hmem).1 (by decide)

/-- Nothing is left of the parts of a palette without their escape sequences. -/
structure Invisible (p : Palette) : Prop where
  state : ∀ rest, visible false (p.state ++ rest) = visible false rest
  accept : ∀ rest, visible false (p.accept ++ rest) = visible false rest
  dim : ∀ rest, visible false (p.dim ++ rest) = visible false rest
  reset : ∀ rest, visible false (p.reset ++ rest) = visible false rest

theorem invisible_ofFlag (colored : Bool) : Invisible (.ofFlag colored) := by
  cases colored with
  | false => exact ⟨fun _ => rfl, fun _ => rfl, fun _ => rfl, fun _ => rfl⟩
  | true => constructor <;> exact visible_escape (by decide)

/-- What stands behind the target of a transition. -/
def mark (v : Value) : List Char := if v.accepting then ' ' :: ' ' :: "accept".toList else []

/-- What stands behind the source in a line without colors, from the byte on. -/
def fields (e : Entry) : List Char :=
  padRight 4 (unitLabel e.key.unit) ++ [' ', ' ', '-', '>', ' ', ' '] ++
    (stateLabel e.value.state ++ mark e.value)

theorem line_plain (width : Nat) (e : Entry) : line .plain width e =
    padRight width (stateLabel e.key.state) ++ [' ', ' '] ++ fields e := by
  cases h : e.value.accepting <;> simp [line, fields, mark, Palette.plain, h]

/-- Without its escape sequences a line is the same in every palette. -/
theorem visible_line {p : Palette} (h : Invisible p) (width : Nat) (e : Entry) (rest : List Char) :
    visible false (line p width e ++ rest) = line .plain width e ++ visible false rest := by
  -- Only the parts of the palette hold escapes, so what is left is the line without them.
  have hsource := (printable_padRight (printable_stateLabel e.key.state) width).escape_notMem
  have hunit := (printable_padRight (printable_unitLabel e.key.unit) 4).escape_notMem
  have htarget := (printable_stateLabel e.value.state).escape_notMem
  have hblanks : '\x1b' ∉ [' ', ' '] := by decide
  have harrow : '\x1b' ∉ [' ', ' ', '-', '>'] := by decide
  have hword : '\x1b' ∉ "accept".toList := by decide
  rw [line_plain]
  cases haccepting : e.value.accepting <;>
    simp only [line, fields, mark, haccepting, if_true, if_false, Bool.false_eq_true,
      List.append_assoc, h.state, h.accept, h.dim, h.reset, visible_append hsource,
      visible_append hunit, visible_append htarget, visible_append hblanks,
      visible_append harrow, visible_append hword] <;> simp

theorem visible_lines {p : Palette} (h : Invisible p) (width : Nat) (entries : List Entry) :
    visible false ((entries.map (line p width)).flatMap (· ++ ['\n'])) =
      (entries.map (line .plain width)).flatMap (· ++ ['\n']) := by
  induction entries with
  | nil => rfl
  | cons e rest ih =>
    have hnewline : '\x1b' ∉ ['\n'] := by decide
    rw [List.map_cons, List.flatMap_cons, List.append_assoc, visible_line h,
      visible_append hnewline, ih, List.map_cons, List.flatMap_cons, List.append_assoc]

/-! ## Columns -/

theorem digitCount_eq (n : Nat) : digitCount n = (Nat.toDigits 10 n).length := by
  fun_induction digitCount n with
  | case1 n hlt => rw [Nat.toDigits_of_lt_base hlt, List.length_singleton]
  | case2 n hle ih =>
    rw [Nat.toDigits_of_base_le (by decide) (Nat.le_of_not_lt hle), ih, List.length_append,
      List.length_singleton]

theorem length_toDigits_mono {m n : Nat} (h : m ≤ n) :
    (Nat.toDigits 10 m).length ≤ (Nat.toDigits 10 n).length := by
  have hlt := (Nat.length_toDigits_le_iff (b := 10) (n := n) (by decide)
    Nat.length_toDigits_pos).1 (Nat.le_refl _)
  exact (Nat.length_toDigits_le_iff (by decide) Nat.length_toDigits_pos).2
    (Nat.lt_of_le_of_lt h hlt)

/-- The states that entries mention, sources and targets. -/
def states (entries : List Entry) : List Nat :=
  entries.flatMap fun e => [e.key.state.toNat, e.value.state.toNat]

theorem maxState_eq_foldl (entries : List Entry) :
    maxState entries = (states entries).foldl max 0 := by
  rw [maxState, states, List.foldl_flatMap]
  simp only [List.foldl_cons, List.foldl_nil, Nat.max_assoc]

theorem isGreatest_maxState {entries : List Entry} (h : entries ≠ []) :
    IsGreatest {n | n ∈ states entries} (maxState entries) := by
  have hne : states entries ≠ [] := by
    obtain ⟨e, rest, rfl⟩ := List.exists_cons_of_ne_nil h
    exact List.cons_ne_nil _ _
  rw [maxState_eq_foldl, List.foldl_max_eq_max hne, Nat.zero_max]
  exact ⟨List.max_mem hne, fun n hn => List.le_max_of_mem hn⟩

theorem length_padRight {width : Nat} {text : List Char} (h : text.length ≤ width) :
    (padRight width text).length = width := by
  rw [padRight, List.length_append, List.length_replicate, Nat.add_sub_cancel' h]

theorem length_stateLabel (s : StateId) :
    (stateLabel s).length = 1 + (Nat.toDigits 10 s.toNat).length := by
  rw [stateLabel, StateId.label, String.toList_append, Nat.toList_repr, List.length_append]
  rfl

theorem length_unitLabel_le (b : UInt8) : (unitLabel b).length ≤ 4 :=
  forall_byte b (by decide +kernel)

/-- The parts of a line stand in their columns, where the widest state of the table has so many
digits. -/
structure Aligned (digits : Nat) (e : Entry) (line : List Char) : Prop where
  source : stateLabel e.key.state <+: line
  unit : unitLabel e.key.unit <+: line.drop (1 + digits + 2)
  arrow : ['-', '>'] <+: line.drop (1 + digits + 8)

theorem aligned_line {largest : Nat} {e : Entry} (h : e.key.state.toNat ≤ largest) :
    Aligned (Nat.toDigits 10 largest).length e
      (line .plain ((Nat.toDigits 10 largest).length + 1) e) := by
  have hlabel : (stateLabel e.key.state).length ≤ (Nat.toDigits 10 largest).length + 1 := by
    rw [length_stateLabel, Nat.add_comm]
    exact Nat.succ_le_succ (length_toDigits_mono h)
  have hfront : (padRight ((Nat.toDigits 10 largest).length + 1) (stateLabel e.key.state) ++
      [' ', ' ']).length = 1 + (Nat.toDigits 10 largest).length + 2 := by
    rw [List.length_append, length_padRight hlabel, Nat.add_comm _ 1]
    rfl
  have hfields : (line .plain ((Nat.toDigits 10 largest).length + 1) e).drop
      (1 + (Nat.toDigits 10 largest).length + 2) = fields e := by
    rw [line_plain, List.drop_left' hfront]
  have hunit : (padRight 4 (unitLabel e.key.unit) ++ [' ', ' ']).length = 6 := by
    rw [List.length_append, length_padRight (length_unitLabel_le e.key.unit)]
    rfl
  constructor
  · rw [line_plain, padRight, List.append_assoc, List.append_assoc]
    exact List.prefix_append _ _
  · rw [hfields, fields, padRight, List.append_assoc, List.append_assoc]
    exact List.prefix_append _ _
  · have harrow : fields e = padRight 4 (unitLabel e.key.unit) ++ [' ', ' '] ++
        (['-', '>'] ++ ([' ', ' '] ++ (stateLabel e.value.state ++ mark e.value))) := by
      simp [fields]
    have hplace : 1 + (Nat.toDigits 10 largest).length + 8 =
        1 + (Nat.toDigits 10 largest).length + 2 + 6 := rfl
    rw [hplace, ← List.drop_drop, hfields, harrow, List.drop_left' hunit]
    exact List.prefix_append _ _

end Dump

open Dump

theorem visible_dump {p : Palette} (h : Invisible p) (entries : List Entry) :
    visible false (dump p entries).toList = (dump .plain entries).toList := by
  rw [dump, dump, String.toList_ofList, String.toList_ofList]
  exact visible_lines h _ _

/-- In a listing without colors every line has its byte and its arrow in the columns that all lines
have. Where they are is told by the number of digits of the greatest state that the table mentions,
as a source or as a target; so many digits print all states up to it. Colors are decoration only:
without its escape sequences a colored listing is the plain one. -/
theorem dump_aligned_and_colored (entries : List Entry) :
    let digits := (Nat.toDigits 10 (maxState entries)).length
    (entries ≠ [] → IsGreatest {n | n ∈ states entries} (maxState entries)) ∧
    widthForCount (maxState entries + 1) = digits ∧
    (∃ lines : List (List Char), (dump .plain entries).toList = lines.flatMap (· ++ ['\n']) ∧
      List.Forall₂ (fun e line => '\n' ∉ line ∧ Aligned digits e line)
        (Entry.sortByKey entries) lines) ∧
    visible false (dump .color entries).toList = (dump .plain entries).toList := by
  intro digits
  refine ⟨isGreatest_maxState, digitCount_eq _, ⟨lines .plain entries, String.toList_ofList, ?_⟩,
    visible_dump (invisible_ofFlag true) entries⟩
  rw [lines, List.forall₂_map_right_iff, List.forall₂_same, digitCount_eq]
  intro e he
  have hmem : e ∈ entries := (Entry.perm_sortByKey entries).mem_iff.1 he
  have hmentioned : e.key.state.toNat ∈ states entries :=
    List.mem_flatMap.2 ⟨e, hmem, List.mem_cons_self⟩
  have hle := (isGreatest_maxState (List.ne_nil_of_mem hmem)).2 hmentioned
  exact ⟨newline_notMem_line (inline_ofFlag false) _ e, aligned_line hle⟩

end TransitionMap
