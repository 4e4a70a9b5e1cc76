import Mathlib.Tactic.SplitIfs
import TransitionMap.Proofs.Json.Yielding

/-!
# Reading back what is written

Each character of a string is written as itself or as an escape that is read as this character
(`Reader.escapeChar_cases`), so a string is read back from its text, whatever follows
(`Reader.yields_string`). A natural number of 64 bits is read back from its digits when no digit,
point or exponent follows (`Reader.Delimits`, `Reader.yields_number`).

`Reader.Rereads r text a` says that a reader gets a value back from a text, whatever follows. It
passes from the elements of an array to the array (`Rereads.expectArray`).
-/

namespace TransitionMap.Json.Reader

variable {α : Type} {rest input : List Char} {c : Char}

/-! ## Strings -/

theorem hexDigit?_digitChar : ∀ d < 16, hexDigit? (Nat.digitChar d) = some d := by decide

theorem yields_fourDigits {x₁ x₂ x₃ x₄ : Char} {d₁ d₂ d₃ d₄ : Nat} (h₁ : hexDigit? x₁ = some d₁)
    (h₂ : hexDigit? x₂ = some d₂) (h₃ : hexDigit? x₃ = some d₃) (h₄ : hexDigit? x₄ = some d₄) :
    Yields fourDigits (x₁ :: x₂ :: x₃ :: x₄ :: rest) (((d₁ * 16 + d₂) * 16 + d₃) * 16 + d₄) rest :=
  fun offset => ⟨offset + 4, by simp [fourDigits, h₁, h₂, h₃, h₄]⟩

theorem yields_charInString : Yields charInString (c :: rest) c rest :=
  yields_peek.bind (yields_advance.bind yields_pure)

theorem yields_charOfEscape : Yields charOfEscape (c :: rest) c rest :=
  yields_next.bind yields_pure

/-- A control character is read from the two digits of its code. -/
theorem yields_codeEscape (hc : c.toNat < 0x20) :
    Yields codeEscape
      ('0' :: '0' :: Nat.digitChar (c.toNat / 16) :: Nat.digitChar (c.toNat % 16) :: rest)
      c rest := by
  have hhigh := hexDigit?_digitChar (c.toNat / 16) (by omega)
  have hlow := hexDigit?_digitChar (c.toNat % 16) (by omega)
  have hzero : hexDigit? '0' = some 0 := by decide
  refine (yields_fourDigits hzero hzero hhigh hlow).bind ?_
  have hcode : ((0 * 16 + 0) * 16 + c.toNat / 16) * 16 + c.toNat % 16 = c.toNat := by omega
  rw [hcode, if_pos (by omega), Char.ofNat_toNat]
  exact yields_pure

/-- A character is written as an escape, from which it is read, or as it is. -/
theorem escapeChar_cases (c : Char) :
    (∃ text, escapeChar c = '\\' :: text ∧ ∀ rest, Yields escaped (text ++ rest) c rest) ∨
      (escapeChar c = [c] ∧ c ≠ '"' ∧ c ≠ '\\' ∧ ¬ c.toNat < 0x20) := by
  unfold escapeChar
  split_ifs with hquote hslash hback hfeed hline hreturn htab hcontrol
  -- the escapes with a letter or mark of their own
  iterate 7
    · subst_vars
      exact .inl ⟨_, rfl, fun _ => yields_charOfEscape.bind yields_pure⟩
  · exact .inl ⟨_, rfl, fun _ => yields_charOfEscape.bind (yields_codeEscape hcontrol)⟩
  · exact .inr ⟨rfl, hquote, hslash, hcontrol⟩

/-- A string is read character by character. -/
theorem yields_stringBody_cons {fuel : Nat} {done : List Char} {s : String}
    (h : Yields (stringBody fuel (c :: done)) input s rest) :
    Yields (stringBody (fuel + 1) done) (escapeChar c ++ input) s rest := by
  obtain ⟨text, htext, hescaped⟩ | ⟨htext, hquote, hslash, hcontrol⟩ := escapeChar_cases c
  · rw [htext]
    exact yields_charInString.bind ((hescaped input).bind h)
  · rw [htext]
    refine yields_charInString.bind ?_
    rw [if_neg hquote, if_neg hslash, if_neg hcontrol]
    exact h

theorem yields_stringBody (cs done : List Char) (fuel : Nat) (hfuel : cs.length < fuel) :
    Yields (stringBody fuel done) (cs.flatMap escapeChar ++ '"' :: rest)
      (String.ofList (done.reverse ++ cs)) rest := by
  induction cs generalizing done fuel with
  | nil =>
    obtain ⟨fuel, rfl⟩ := Nat.exists_eq_add_of_le' hfuel
    rw [List.append_nil]
    exact yields_charInString.bind yields_pure
  | cons c cs ih =>
    obtain ⟨fuel, rfl⟩ := Nat.exists_eq_add_of_le' (Nat.lt_of_le_of_lt (Nat.zero_le _) hfuel)
    have htail := ih (c :: done) fuel (by simpa using hfuel)
    rw [List.reverse_cons, List.append_assoc] at htail
    rw [List.flatMap_cons, List.append_assoc]
    exact yields_stringBody_cons htail

theorem escapeChar_ne_nil (c : Char) : escapeChar c ≠ [] := by
  obtain ⟨text, htext, -⟩ | ⟨htext, -⟩ := escapeChar_cases c <;> simp [htext]

/-- A string is read back from its text. -/
theorem yields_string (s : String) : Yields string (writeString s ++ rest) s rest := by
  have hlength := length_le_length_flatMap escapeChar_ne_nil s.toList
  have hbody : Yields (stringBody ((s.toList.flatMap escapeChar ++ '"' :: rest).length + 1) [])
      (s.toList.flatMap escapeChar ++ '"' :: rest) s rest := by
    have hfuel : s.toList.length < (s.toList.flatMap escapeChar ++ '"' :: rest).length + 1 := by
      simp only [List.length_append]
      omega
    simpa using yields_stringBody s.toList [] _ hfuel
  rw [writeString, List.cons_append, List.append_assoc]
  exact yields_advance.bind (yields_remaining.bind hbody)

/-! ## Numbers -/

/-- A text that cannot go on with a number. -/
def Delimits (rest : List Char) : Prop :=
  ∀ c ∈ rest.head?, digit? c = none ∧ c ≠ '.' ∧ c ≠ 'e' ∧ c ≠ 'E'

theorem Delimits.head?_bind_digit? (h : Delimits rest) : rest.head?.bind digit? = none := by
  rw [Option.bind_eq_none_iff]
  exact fun c hc => (h c hc).1

theorem digit?_of_isDigit (hc : c.isDigit = true) : digit? c = some (c.toNat - '0'.toNat) := by
  rw [Char.isDigit, Bool.and_eq_true, decide_eq_true_iff, decide_eq_true_iff] at hc
  exact if_pos hc

/-- A digit other than zero has a positive value. -/
theorem lt_toNat_of_isDigit (hc : c.isDigit = true) (hne : c ≠ '0') : '0'.toNat < c.toNat := by
  rw [Char.isDigit, Bool.and_eq_true, decide_eq_true_iff] at hc
  refine Nat.lt_of_le_of_ne hc.1 fun heq => hne ?_
  exact (Char.toNat_inj.1 heq).symm

theorem yields_peekDigit : Yields peekDigit input (input.head?.bind digit?) input :=
  yields_peek.bind yields_pure

/-- Further digits make a number no smaller. -/
theorem le_ofDigitChars (ds : List Char) (n : Nat) : n ≤ Nat.ofDigitChars 10 ds n := by
  induction ds generalizing n with
  | nil => simp
  | cons d ds ih =>
    rw [Nat.ofDigitChars_cons]
    exact Nat.le_trans (by omega) (ih _)

/-- Digits are read to their end when their number fits. -/
theorem yields_digits64 (ds : List Char) {n fuel : Nat} (count : Nat)
    (hds : ∀ d ∈ ds, d.isDigit = true) (hsize : Nat.ofDigitChars 10 ds n < UInt64.size)
    (hrest : Delimits rest) (hfuel : ds.length ≤ fuel) :
    Yields (digits64 fuel n count) (ds ++ rest) (Nat.ofDigitChars 10 ds n, count + ds.length)
      rest := by
  induction ds generalizing n count fuel with
  | nil =>
    cases fuel with
    | zero => exact yields_pure
    | succ fuel =>
      refine yields_peekDigit.bind ?_
      rw [List.nil_append, hrest.head?_bind_digit?]
      exact yields_pure
  | cons d ds ih =>
    obtain ⟨fuel, rfl⟩ := Nat.exists_eq_add_of_le' (Nat.lt_of_lt_of_le (Nat.succ_pos _) hfuel)
    have hd := digit?_of_isDigit (hds d List.mem_cons_self)
    rw [Nat.ofDigitChars_cons, Nat.mul_comm] at hsize ⊢
    have hfits := Nat.lt_of_le_of_lt (le_ofDigitChars ds _) hsize
    have hrounds := ih (count + 1) (fun c hc => hds c (List.mem_cons_of_mem _ hc)) hsize
      (by simpa using hfuel)
    refine yields_peekDigit.bind ?_
    simp only [List.cons_append, List.head?_cons, Option.bind_some, hd]
    rw [if_pos hfits, List.length_cons, Nat.add_comm ds.length, ← Nat.add_assoc]
    exact yields_advance.bind hrounds

theorem yields_skipDigits (hrest : Delimits rest) (fuel count : Nat) :
    Yields (skipDigits fuel count) rest count rest := by
  cases fuel with
  | zero => exact yields_pure
  | succ fuel =>
    refine yields_peekDigit.bind ?_
    rw [hrest.head?_bind_digit?]
    exact yields_pure

theorem yields_peekExponent (hrest : Delimits rest) : Yields peekExponent rest false rest := by
  refine yields_peek.bind ?_
  cases rest with
  | nil => exact yields_pure
  | cons c rest =>
    obtain ⟨-, -, he, hE⟩ := hrest c rfl
    have hexponent : (decide (c = 'e') || decide (c = 'E')) = false := by simp [he, hE]
    rw [← hexponent]
    exact yields_pure

/-- Behind the digits of a natural number nothing more is read. -/
theorem yields_afterInteger (hrest : Delimits rest) (n : Nat) :
    Yields (afterInteger false n 0) rest (.natural n) rest := by
  have hpoint : rest.head? ≠ some '.' := fun hhead => (hrest '.' hhead).2.1 rfl
  refine yields_peek.bind ?_
  rw [if_neg hpoint]
  exact (yields_peekExponent hrest).bind yields_pure

/-- The digits of a positive number do not begin with zero. -/
theorem head?_toDigits_ne {n : Nat} (hn : 0 < n) : (Nat.toDigits 10 n).head? ≠ some '0' := by
  induction n using Nat.strongRecOn with
  | ind n ih =>
    by_cases hlt : n < 10
    · rw [Nat.toDigits_of_lt_base hlt, List.head?_cons]
      simpa [Nat.digitChar_eq_zero] using Nat.ne_of_gt hn
    · rw [Nat.toDigits_of_base_le (by decide) (by omega), List.head?_append]
      have hhead := ih (n / 10) (by omega) (by omega)
      cases hdigits : Nat.toDigits 10 (n / 10) with
      | nil => exact absurd hdigits Nat.toDigits_ne_nil
      | cons c cs => simpa [hdigits] using hhead

/-- Digits that do not begin with zero are read as their number. -/
theorem yields_number_cons {d : Char} {ds : List Char} (hds : ∀ c ∈ d :: ds, c.isDigit = true)
    (hd : d ≠ '0') (hsize : Nat.ofDigitChars 10 (d :: ds) 0 < UInt64.size)
    (hrest : Delimits rest) :
    Yields (number false) (d :: ds ++ rest) (.natural (Nat.ofDigitChars 10 (d :: ds) 0)) rest := by
  have hdigit := digit?_of_isDigit (hds d List.mem_cons_self)
  have htail (c : Char) (hc : c ∈ ds) : c.isDigit = true := hds c (List.mem_cons_of_mem _ hc)
  rw [Nat.ofDigitChars_cons, Nat.mul_zero, Nat.zero_add] at hsize ⊢
  have hfuel : ds.length ≤ (ds ++ rest).length := by simp
  have hdigits := yields_digits64 ds 0 htail hsize hrest hfuel
  refine yields_next.bind ?_
  have hpos := Nat.sub_pos_of_lt (lt_toNat_of_isDigit (hds d List.mem_cons_self) hd)
  obtain ⟨k, hk⟩ := Nat.exists_eq_add_of_le' hpos
  simp only [hk] at hdigit hdigits ⊢
  rw [hdigit]
  exact yields_remaining.bind (hdigits.bind (yields_remaining.bind
    ((yields_skipDigits hrest _ _).bind (yields_afterInteger hrest _))))

/-- A natural number of 64 bits is read back from its digits. -/
theorem yields_number {n : Nat} (hn : n < UInt64.size) (hrest : Delimits rest) :
    Yields (number false) (n.repr.toList ++ rest) (.natural n) rest := by
  have hvalue := Nat.ofDigitChars_toDigits (b := 10) (n := n) (by decide) (by decide)
  have hisDigit (c : Char) (hc : c ∈ Nat.toDigits 10 n) : c.isDigit = true :=
    Nat.isDigit_of_mem_toDigits (by decide) (by decide) hc
  rw [Nat.toList_repr]
  obtain rfl | hpos := Nat.eq_zero_or_pos n
  · have hzero : Nat.toDigits 10 0 = ['0'] := rfl
    rw [hzero, List.singleton_append]
    refine yields_next.bind (yields_peekDigit.bind ?_)
    rw [hrest.head?_bind_digit?]
    exact yields_afterInteger hrest 0
  · have hhead := head?_toDigits_ne hpos
    obtain ⟨d, ds, hdigits⟩ := List.exists_cons_of_ne_nil (Nat.toDigits_ne_nil (n := n) (b := 10))
    rw [hdigits] at hvalue hisDigit hhead ⊢
    rw [List.head?_cons, ne_eq, Option.some_inj] at hhead
    rw [← hvalue] at hn ⊢
    exact yields_number_cons hisDigit hhead hn hrest

/-! ## Values -/

theorem yields_value_string (depth : Nat) (s : String) :
    Yields (value (depth + 1)) (writeString s ++ rest) (.string s) rest :=
  (yields_skipSpace (by decide)).bind (yields_string s).bind_pure

theorem beginsElement_of_isDigit (hc : c.isDigit = true) : BeginsElement c := by
  have hne {k : Char} (hk : k.isDigit = false) : c ≠ k := by
    rintro rfl
    exact absurd hc (by simp [hk])
  refine ⟨?_, hne (by decide)⟩
  simp only [isSpace, Bool.or_eq_false_iff, decide_eq_false_iff_not]
  exact ⟨⟨⟨hne (by decide), hne (by decide)⟩, hne (by decide)⟩, hne (by decide)⟩

/-- A digit begins a number. -/
theorem yields_value_number {n : Number} (depth : Nat) (hc : c.isDigit = true)
    (hnumber : Yields (number false) (c :: input) n rest) :
    Yields (value (depth + 1)) (c :: input) (.number n) rest := by
  refine (yields_skipSpace (beginsElement_of_isDigit hc).1).bind ?_
  split
  case h_1 heq => cases heq
  case h_9 heq =>
    cases heq
    rw [if_pos (by rw [digit?_of_isDigit hc]; rfl)]
    exact hnumber.bind_pure
  -- no other value begins with a digit
  all_goals
    rename_i heq
    cases heq
    exact absurd hc (by decide)

/-- A number is written with a digit at least. -/
theorem exists_cons_repr (n : Nat) : ∃ d ds, n.repr.toList = d :: ds ∧ d.isDigit = true := by
  rw [Nat.toList_repr]
  obtain ⟨d, ds, hdigits⟩ := List.exists_cons_of_ne_nil (Nat.toDigits_ne_nil (n := n) (b := 10))
  have hd : d ∈ Nat.toDigits 10 n := hdigits ▸ List.mem_cons_self
  exact ⟨d, ds, hdigits, Nat.isDigit_of_mem_toDigits (by decide) (by decide) hd⟩

theorem yields_value_natural (depth : Nat) {n : Nat} (hn : n < UInt64.size)
    (hrest : Delimits rest) :
    Yields (value (depth + 1)) (n.repr.toList ++ rest) (.number (.natural n)) rest := by
  have hnumber := yields_number hn hrest
  obtain ⟨d, ds, hdigits, hd⟩ := exists_cons_repr n
  rw [hdigits] at hnumber ⊢
  exact yields_value_number depth hd hnumber

/-- A reader gets a value back from a text, whatever follows, and the text can be an element. -/
structure Rereads (r : Reader α) (text : List Char) (a : α) : Prop where
  begins : ∃ c t, text = c :: t ∧ BeginsElement c
  yields (rest : List Char) : Yields r (text ++ rest) a rest

theorem rereads_expectString (s : String) : Rereads expectString (writeString s) s where
  begins := ⟨'"', _, rfl, by decide, by decide⟩
  yields _ := (yields_beginValue (by decide)).bind (yields_string s)

theorem rereads_expectBool (b : Bool) :
    Rereads expectBool (if b then "true" else "false").toList b where
  begins := by cases b <;> exact ⟨_, _, rfl, by decide, by decide⟩
  yields _ := by
    cases b
    · exact (yields_beginValue (by decide)).bind (yields_literal 'f' "alse")
    · exact (yields_beginValue (by decide)).bind (yields_literal 't' "rue")

section Arrays

variable {element : Nat → Reader α} {write : α → List Char} {items : List α} {depth : Nat}

/-- Elements that are read back are put in front of the earlier ones. -/
theorem folds_elements {element : Reader α} (h : ∀ a ∈ items, Rereads element (write a) a)
    (done : List α) :
    Folds BeginsElement (fun done => do return (← element) :: done) (items.map write) done
      (items.reverse ++ done) := by
  induction items generalizing done with
  | nil => exact .nil done
  | cons a items ih =>
    obtain ⟨⟨c, text, htext, hc⟩, hyields⟩ := h a List.mem_cons_self
    have hitems := ih (fun b hb => h b (List.mem_cons_of_mem _ hb)) (a :: done)
    rw [List.map_cons, htext, List.reverse_cons, List.append_assoc]
    rw [htext] at hyields
    exact .cons hc (fun rest => (hyields rest).bind_pure) hitems

theorem Rereads.expectArray (h : ∀ a ∈ items, Rereads (element (depth + 1)) (write a) a) :
    Rereads (expectArray element (depth + 2)) (writeArray (items.map write)) items where
  begins := ⟨'[', _, rfl, by decide, by decide⟩
  yields rest := by
    have hitems := (folds_elements h []).yields_elements rest
    rw [writeArray, List.cons_append, List.append_assoc]
    refine (yields_beginValue (by decide)).bind (Yields.placed (Yields.nested ?_ yields_endArray))
    refine yields_remaining.bind (hitems.bind ?_)
    rw [List.append_nil, List.reverse_reverse]
    exact yields_pure

end Arrays

end TransitionMap.Json.Reader
