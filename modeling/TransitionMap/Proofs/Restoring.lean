import TransitionMap.Json.Text
import TransitionMap.Proofs.Aligning

/-!
# Tables read back from their listings

A listing can be read back: line by line, without the colors, by the fields of a line. A state ends
where its digits end, and a byte has four characters, whatever they are. So valid entries are listed
alike only if they are the same in key order.

* `Dump.readState?_stateLabel`, `Dump.readUnit?_padRight`: the fields of a line;
* `Dump.readRow?_line`: a line;
* `readListing_dump`: a whole listing;
* `dump_determines_table`: what a listing tells about its table.
-/

namespace TransitionMap

/-- Where a class of characters ends in front of a text that does not go on with it. -/
theorem span_append {α : Type} {p : α → Bool} {front rest : List α}
    (inside : ∀ a ∈ front, p a = true) (stops : ∀ a ∈ rest.head?, p a = false) :
    (front ++ rest).takeWhile p = front ∧ (front ++ rest).dropWhile p = rest := by
  rw [List.takeWhile_append_of_pos inside, List.dropWhile_append_of_pos inside]
  cases rest with
  | nil => simp
  | cons a rest => simp [stops a rfl]

theorem Value.leadingTo_accepting {v : Value} (h : v.finalState ≤ 1) :
    leadingTo v.state v.accepting = v := by
  have hflag : (if v.accepting then 1 else 0) = v.finalState := by
    by_cases hzero : v.finalState = 0
    · simp [accepting, hzero]
    · have hone : v.finalState = 1 := by
        rw [UInt16.le_iff_toNat_le] at h
        rw [← UInt16.toNat_inj] at hzero ⊢
        simp only [UInt16.reduceToNat] at h hzero ⊢
        omega
      simp [accepting, hone]
  rw [leadingTo, hflag]

namespace Dump

/-! ## Fields -/

/-- The state whose label stands in front of a text, and the text behind it. -/
def readState? : List Char → Option (StateId × List Char)
  | 'S' :: rest =>
      some (UInt16.ofNat (Nat.ofDigitChars 10 (rest.takeWhile Char.isDigit) 0),
        rest.dropWhile Char.isDigit)
  | _ => none

/-- The byte of four characters. -/
def readUnit? : List Char → Option UInt8
  | ['\'', '\\', c, '\''] => some (UInt8.ofNat c.toNat)
  | ['\'', c, '\'', ' '] => some (UInt8.ofNat c.toNat)
  | ['0', 'x', high, low] =>
      match Json.Reader.hexDigit? high, Json.Reader.hexDigit? low with
      | some h, some l => some (UInt8.ofNat (h * 16 + l))
      | _, _ => none
  | _ => none

/-- The entry of a line without colors; behind the target there is something if it accepts. -/
def readRow? (line : List Char) : Option Entry :=
  match readState? line with
  | none => none
  | some (source, rest) =>
      let fields := rest.dropWhile (· == ' ')
      match readUnit? (fields.take 4), readState? (fields.drop 10) with
      | some unit, some (target, rest) => some ⟨⟨source, unit, 0⟩, .leadingTo target !rest.isEmpty⟩
      | _, _ => none

theorem readState?_stateLabel (s : StateId) {rest : List Char}
    (stops : ∀ c ∈ rest.head?, c.isDigit = false) :
    readState? (stateLabel s ++ rest) = some (s, rest) := by
  have hdigits : ∀ c ∈ Nat.toDigits 10 s.toNat, c.isDigit = true := fun c hc =>
    Nat.isDigit_of_mem_toDigits (by decide) (by decide) hc
  have hlabel : stateLabel s = 'S' :: Nat.toDigits 10 s.toNat := by
    rw [stateLabel, StateId.label, String.toList_append, Nat.toList_repr]
    rfl
  obtain ⟨htake, hdrop⟩ := span_append hdigits stops
  rw [hlabel, List.cons_append, readState?, htake, hdrop, Nat.ofDigitChars_ten_toDigits,
    UInt16.ofNat_toNat]

theorem readUnit?_padRight (b : UInt8) : readUnit? (padRight 4 (unitLabel b)) = some b :=
  forall_byte b (by decide +kernel)

theorem head?_unitLabel (b : UInt8) :
    (unitLabel b).head? = some '\'' ∨ (unitLabel b).head? = some '0' :=
  forall_byte b (by decide +kernel)

/-! ## Lines -/

theorem isEmpty_mark (v : Value) : (mark v).isEmpty = !v.accepting := by
  cases h : v.accepting <;> simp [mark, h]

theorem isDigit_head?_mark (v : Value) : ∀ c ∈ (mark v).head?, c.isDigit = false := by
  cases h : v.accepting <;> simp [mark, h]

theorem head?_fields (e : Entry) : ∀ c ∈ (fields e).head?, (c == ' ') = false := by
  intro c hc
  rw [fields, padRight, List.append_assoc, List.append_assoc, List.head?_append] at hc
  rcases head?_unitLabel e.key.unit with h | h
  · rw [h, Option.some_or, Option.mem_some_iff] at hc
    rw [← hc]
    rfl
  · rw [h, Option.some_or, Option.mem_some_iff] at hc
    rw [← hc]
    rfl

/-- The digits of a source end where its blanks begin, and these where its byte does. -/
theorem readRow?_line {e : Entry} (h : e.Valid) (width : Nat) :
    readRow? (line .plain width e) = some e := by
  obtain ⟨blanks, hblanks, hne, hline⟩ : ∃ blanks : List Char, (∀ c ∈ blanks, c = ' ') ∧
      blanks ≠ [] ∧ line .plain width e = stateLabel e.key.state ++ (blanks ++ fields e) := by
    refine ⟨List.replicate (width - (stateLabel e.key.state).length) ' ' ++ [' ', ' '], ?_, ?_, ?_⟩
    · simp only [List.mem_append, List.mem_replicate, List.mem_cons, List.not_mem_nil]
      tauto
    · simp
    · rw [line_plain, padRight, List.append_assoc, List.append_assoc, List.append_assoc]
  -- There is a blank even behind the widest label, so its digits end there.
  have hsource : readState? (line .plain width e) = some (e.key.state, blanks ++ fields e) := by
    rw [hline]
    refine readState?_stateLabel _ fun c hc => ?_
    obtain ⟨d, rest, rfl⟩ := List.exists_cons_of_ne_nil hne
    obtain rfl := Option.some.inj hc
    rw [hblanks d List.mem_cons_self]
    rfl
  have hrest : (blanks ++ fields e).dropWhile (· == ' ') = fields e :=
    (span_append (fun c hc => beq_iff_eq.2 (hblanks c hc)) (head?_fields e)).2
  have hunit : (fields e).take 4 = padRight 4 (unitLabel e.key.unit) := by
    rw [fields, List.append_assoc, List.take_left' (length_padRight (length_unitLabel_le _))]
  have htarget : (fields e).drop 10 = stateLabel e.value.state ++ mark e.value := by
    rw [fields, List.drop_left']
    rw [List.length_append, length_padRight (length_unitLabel_le _)]
    rfl
  rw [readRow?, hsource]
  simp only [hrest, hunit, htarget, readUnit?_padRight,
    readState?_stateLabel _ (isDigit_head?_mark e.value), isEmpty_mark, Bool.not_not]
  rw [Value.leadingTo_accepting h.2, ← h.1]

end Dump

open Dump

/-! ## Listings -/

/-- The entries of a listing with or without colors. -/
def readListing (text : String) : List Entry :=
  ((visible false text.toList).splitOn '\n').filterMap readRow?

theorem splitOn_lines {lines : List (List Char)} (h : ∀ line ∈ lines, '\n' ∉ line) :
    (lines.flatMap (· ++ ['\n'])).splitOn '\n' = lines ++ [[]] := by
  induction lines with
  | nil => rfl
  | cons line lines ih =>
    obtain ⟨hline, hlines⟩ := List.forall_mem_cons.1 h
    rw [List.flatMap_cons, List.append_assoc, List.singleton_append,
      List.splitOn_append_cons_self_of_not_mem hline, ih hlines, List.cons_append]

theorem readListing_dump {p : Palette} (h : Invisible p) {entries : List Entry}
    (valid : ∀ e ∈ entries, e.Valid) : readListing (dump p entries) = Entry.sortByKey entries := by
  have htext : visible false (dump p entries).toList =
      (lines .plain entries).flatMap (· ++ ['\n']) := by
    rw [visible_dump h, dump, String.toList_ofList]
  have hlines : ∀ line ∈ lines .plain entries, '\n' ∉ line := fun line hline => by
    obtain ⟨e, -, rfl⟩ := List.mem_map.1 hline
    exact newline_notMem_line (inline_ofFlag false) _ e
  have hread : (Entry.sortByKey entries).filterMap
      (readRow? ∘ line .plain (digitCount (maxState entries) + 1)) = Entry.sortByKey entries := by
    refine (List.filterMap_congr fun e he => ?_).trans List.filterMap_some
    rw [Function.comp_apply, readRow?_line]
    exact valid e ((Entry.perm_sortByKey entries).mem_iff.1 he)
  rw [readListing, htext, splitOn_lines hlines, List.filterMap_append, lines, List.filterMap_map,
    hread]
  exact List.append_nil _

/-- A listing of valid entries has one line for each of them, and these can be read back from it in
key order, with colors or without. So tables are listed alike exactly when they are the same in key
order; entries of one key keep the order that they come in. Where no key repeats, the order in which
the entries come makes no difference. -/
theorem dump_determines_table (colored : Bool) {entries entries' : List Entry}
    (valid : ∀ e ∈ entries, e.key.padding = 0 ∧ e.value.finalState ≤ 1)
    (valid' : ∀ e ∈ entries', e.key.padding = 0 ∧ e.value.finalState ≤ 1) :
    let text := dump (.ofFlag colored)
    HasLines (text entries) entries.length ∧
    readListing (text entries) = Entry.sortByKey entries ∧
    StablySorted entries (Entry.sortByKey entries) ∧
    (text entries = text entries' ↔ Entry.sortByKey entries = Entry.sortByKey entries') ∧
    ((entries.map Entry.key).Nodup → entries.Perm entries' → text entries = text entries') := by
  intro text
  have hread := readListing_dump (invisible_ofFlag colored) valid
  have hread' := readListing_dump (invisible_ofFlag colored) valid'
  have hsame (h : Entry.sortByKey entries = Entry.sortByKey entries') :
      text entries = text entries' := by
    simp only [text]
    rw [← dump_sortByKey, h, dump_sortByKey]
  refine ⟨hasLines_dump (inline_ofFlag colored) entries, hread,
    Entry.stablySorted_sortByKey fun e he => (valid e he).1, ⟨fun h => ?_, hsame⟩,
    fun distinct hperm => hsame (Entry.sortByKey_eq_of_perm hperm distinct)⟩
  rw [← hread, ← hread']
  exact congrArg readListing h

/-- Two entries whose bytes are a line feed and a quote, in one order and in the other. -/
theorem dump_determines_reordered_table :
    let feed : Entry := ⟨⟨12, 0x0a, 0⟩, ⟨1, 3⟩⟩
    let quote : Entry := ⟨⟨3, 0x27, 0⟩, ⟨0, 12⟩⟩
    (∀ e ∈ [feed, quote], e.key.padding = 0 ∧ e.value.finalState ≤ 1) ∧
    (∀ e ∈ [quote, feed], e.key.padding = 0 ∧ e.value.finalState ≤ 1) ∧
    HasLines (dump .color [feed, quote]) 2 ∧
    readListing (dump .color [feed, quote]) = [quote, feed] ∧
    dump .color [feed, quote] = dump .color [quote, feed] := by
  intro feed quote
  have valid : ∀ e ∈ [feed, quote], e.key.padding = 0 ∧ e.value.finalState ≤ 1 := by decide
  have valid' : ∀ e ∈ [quote, feed], e.key.padding = 0 ∧ e.value.finalState ≤ 1 := by decide
  obtain ⟨hlines, hread, -, -, hsame⟩ := dump_determines_table true valid valid'
  have hsorted : Entry.sortByKey [feed, quote] = [quote, feed] := by
    simp [Entry.sortByKey, List.mergeSort, List.MergeSort.Internal.splitInTwo, Key.rank, feed,
      quote]
  rw [hsorted] at hread
  exact ⟨valid, valid', hlines, hread, hsame (by decide) (.swap _ _ _)⟩

end TransitionMap
