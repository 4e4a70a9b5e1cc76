import TransitionMap.Description.Printer
import TransitionMap.Json.Value

/-!
# What a reader takes and leaves

`Reader.Yields r input a rest`: in front of the text `input`, wherever that stands, the reader gives
`a` and leaves `rest`. Two readers in a row compose (`Yields.bind`), so what a reader does is found
by following its definition.

The loops over elements and over members are one loop, `Reader.rounds`, with two ways to look for
the next round. `Reader.Separates` says how a way to look treats the comma and the closing bracket,
`Reader.Folds` what the rounds make of some texts. Together they give what the loop does to these
texts with commas between them (`Folds.yields_rounds`), by induction on the rounds.
-/

namespace TransitionMap.Json.Reader

variable {α β σ : Type} {r : Reader α} {input mid rest : List Char} {a : α} {b : β} {c : Char}

/-- In front of a text a reader gives a value and leaves the rest. -/
def Yields (r : Reader α) (input : List Char) (a : α) (rest : List Char) : Prop :=
  ∀ offset, ∃ offset', r ⟨input, offset⟩ = (.ok a, ⟨rest, offset'⟩)

theorem yields_pure : Yields (pure a) input a input := fun offset => ⟨offset, rfl⟩

theorem Yields.bind {f : α → Reader β} (hr : Yields r input a mid) (hf : Yields (f a) mid b rest) :
    Yields (r >>= f) input b rest := by
  intro offset
  obtain ⟨middle, hr⟩ := hr offset
  obtain ⟨offset', hf⟩ := hf middle
  refine ⟨offset', ?_⟩
  simp only [Bind.bind, ExceptT.bind, ExceptT.mk, StateT.bind, hr]
  exact hf

/-- What a reader gives is passed on. -/
theorem Yields.bind_pure {f : α → β} (hr : Yields r input a rest) :
    Yields (do return f (← r)) input (f a) rest :=
  hr.bind yields_pure

/-! ## Single characters -/

theorem yields_peek : Yields peek input input.head? input := fun offset => ⟨offset, rfl⟩

theorem yields_advance : Yields advance (c :: rest) () rest := fun _ => ⟨_, rfl⟩

theorem yields_next : Yields next (c :: rest) (some c) rest := fun _ => ⟨_, rfl⟩

theorem yields_remaining : Yields remaining input input.length input := fun offset => ⟨offset, rfl⟩

/-- Where no space stands, none is skipped. -/
theorem yields_skipSpace (hc : isSpace c = false) :
    Yields skipSpace (c :: rest) (some c) (c :: rest) := by
  intro offset
  refine ⟨offset, ?_⟩
  simp [skipSpace, hc]

theorem yields_colon : Yields colon (':' :: rest) () rest :=
  (yields_skipSpace (by decide)).bind yields_advance

theorem yields_word (cs : List Char) : Yields (word cs) (cs ++ rest) () rest := by
  induction cs with
  | nil => exact yields_pure
  | cons c cs ih =>
    refine yields_next.bind ?_
    simpa using ih

theorem yields_literal (c : Char) (word : String) :
    Yields (literal word a) (c :: (word.toList ++ rest)) a rest :=
  yields_advance.bind ((yields_word _).bind yields_pure)

theorem yields_beginValue (hc : isSpace c = false) :
    Yields beginValue (c :: rest) c (c :: rest) :=
  (yields_skipSpace hc).bind yields_pure

/-- A text that is read to its end is read as a whole. -/
theorem Yields.run_eq (hr : Yields r input a []) : r.run (String.ofList input) = .ok a := by
  obtain ⟨middle, hr⟩ := hr 0
  simp only [run, String.toList_ofList, Bind.bind, ExceptT.bind, ExceptT.mk, StateT.bind, hr]
  rfl

/-! ## Brackets -/

theorem yields_endArray : Yields endArray (']' :: rest) () rest :=
  (yields_skipSpace (by decide)).bind yields_advance

theorem yields_endObject : Yields endObject ('\x7d' :: rest) () rest :=
  (yields_skipSpace (by decide)).bind yields_advance

theorem Yields.placed (hr : Yields r input a rest) : Yields (placed r) input a rest := by
  intro offset
  obtain ⟨offset', hr⟩ := hr offset
  exact ⟨offset', by simp [Reader.placed, hr]⟩

theorem Yields.closing {close : Reader Unit} (hr : Yields r input a mid)
    (hclose : Yields close mid () rest) : Yields (closing r close) input a rest := by
  intro offset
  obtain ⟨middle, hr⟩ := hr offset
  obtain ⟨offset', hclose⟩ := hclose middle
  exact ⟨offset', by simp [Reader.closing, hr, hclose]⟩

/-- An array or object is entered behind its bracket, one level down. -/
theorem Yields.nested {body : Nat → Reader α} {close : Reader Unit} {depth : Nat}
    (hbody : Yields (body (depth + 1)) input a mid) (hclose : Yields close mid () rest) :
    Yields (nested (depth + 2) body close) (c :: input) a rest :=
  (yields_advance.bind hbody).closing hclose

/-! ## Loops -/

/-- Goes on reading while there is more. -/
def rounds (more : Bool → Reader Bool) (step : σ → Reader σ) : Nat → Bool → σ → Reader σ
  | 0, _, s => return s
  | fuel + 1, first, s => do
      if ← more first then rounds more step fuel false (← step s) else return s

theorem elements_eq_rounds (step : σ → Reader σ) (fuel : Nat) (first : Bool) (s : σ) :
    elements step fuel first s = rounds hasElement step fuel first s := by
  induction fuel generalizing first s with
  | zero => rfl
  | succ fuel ih => simp only [elements, rounds, ih]

theorem members_eq_rounds (step : σ → Reader σ) (fuel : Nat) (first : Bool) (s : σ) :
    members step fuel first s = rounds hasMember step fuel first s := by
  induction fuel generalizing first s with
  | zero => rfl
  | succ fuel ih => simp only [members, rounds, ih]

/-- A way to look for the next round: it stays in front of the closing bracket, and moves behind a
comma if it is not the first time. -/
structure Separates (more : Bool → Reader Bool) (close : Char) (begins : Char → Prop) : Prop where
  ends (first : Bool) (rest : List Char) : Yields (more first) (close :: rest) false (close :: rest)
  first {c : Char} (rest : List Char) : begins c → Yields (more true) (c :: rest) true (c :: rest)
  next {c : Char} (rest : List Char) :
    begins c → Yields (more false) (',' :: c :: rest) true (c :: rest)

/-- An element begins with any character but a space or the closing bracket. -/
def BeginsElement (c : Char) : Prop := isSpace c = false ∧ c ≠ ']'

theorem separates_hasElement : Separates hasElement ']' BeginsElement where
  ends _ _ := (yields_skipSpace (by decide)).bind yields_pure
  first rest h := by
    refine (yields_skipSpace h.1).bind ?_
    simpa [h.2] using yields_pure
  next rest h := by
    refine (yields_skipSpace (by decide)).bind (yields_advance.bind ?_)
    refine (yields_skipSpace h.1).bind ?_
    simpa [h.2] using yields_pure

theorem separates_hasMember : Separates hasMember '\x7d' (· = '"') where
  ends _ _ := (yields_skipSpace (by decide)).bind yields_pure
  first rest h := by
    subst h
    exact (yields_skipSpace (by decide)).bind yields_pure
  next rest h := by
    subst h
    exact (yields_skipSpace (by decide)).bind
      (yields_advance.bind ((yields_skipSpace (by decide)).bind yields_pure))

/-- Rounds that read one text each, whatever follows, take a state to another. -/
inductive Folds (begins : Char → Prop) (step : σ → Reader σ) : List (List Char) → σ → σ → Prop
  | nil (s : σ) : Folds begins step [] s s
  | cons {c : Char} {text : List Char} {texts : List (List Char)} {s s' s'' : σ} :
      begins c → (∀ rest, Yields (step s) (c :: text ++ rest) s' rest) →
      Folds begins step texts s' s'' → Folds begins step ((c :: text) :: texts) s s''

variable {more : Bool → Reader Bool} {step : σ → Reader σ} {close : Char} {begins : Char → Prop}
  {texts : List (List Char)} {s s' : σ}

/-- Behind the first round, a comma stands in front of each text. -/
theorem Folds.yields_rounds_next (hfolds : Folds begins step texts s s')
    (hmore : Separates more close begins) {fuel : Nat} (hfuel : texts.length ≤ fuel) :
    Yields (rounds more step fuel false s) (texts.flatMap (',' :: ·) ++ close :: rest) s'
      (close :: rest) := by
  induction hfolds generalizing fuel with
  | nil s =>
    cases fuel with
    | zero => exact yields_pure
    | succ fuel => exact (hmore.ends false rest).bind yields_pure
  | cons hbegins hstep _ ih =>
    obtain ⟨fuel, rfl⟩ := Nat.exists_eq_add_of_le' (Nat.lt_of_lt_of_le (Nat.succ_pos _) hfuel)
    simp only [List.flatMap_cons, List.cons_append, List.append_assoc]
    exact (hmore.next _ hbegins).bind ((hstep _).bind (ih (by simpa using hfuel)))

theorem commaSeparated_cons (text : List Char) (texts : List (List Char)) :
    commaSeparated (text :: texts) = text ++ texts.flatMap (',' :: ·) := by
  induction texts generalizing text with
  | nil => simp [commaSeparated]
  | cons next texts ih => simp [commaSeparated, ih]

/-- The loop reads texts with commas between them, up to the closing bracket. -/
theorem Folds.yields_rounds (hfolds : Folds begins step texts s s')
    (hmore : Separates more close begins) {fuel : Nat} (hfuel : texts.length ≤ fuel) :
    Yields (rounds more step fuel true s) (commaSeparated texts ++ close :: rest) s'
      (close :: rest) := by
  cases hfolds with
  | nil =>
    cases fuel with
    | zero => exact yields_pure
    | succ fuel => exact (hmore.ends true rest).bind yields_pure
  | cons hbegins hstep htexts =>
    obtain ⟨fuel, rfl⟩ := Nat.exists_eq_add_of_le' (Nat.lt_of_lt_of_le (Nat.succ_pos _) hfuel)
    rw [commaSeparated_cons, List.append_assoc]
    exact (hmore.first _ hbegins).bind
      ((hstep _).bind (htexts.yields_rounds_next hmore (by simpa using hfuel)))

/-- Pieces that are not empty are no more than their characters. -/
theorem length_le_length_flatMap {f : β → List Char} (hf : ∀ b, f b ≠ []) (l : List β) :
    l.length ≤ (l.flatMap f).length := by
  induction l with
  | nil => simp
  | cons b l ih =>
    have hlength := List.length_pos_iff.2 (hf b)
    simp only [List.flatMap_cons, List.length_append, List.length_cons]
    omega

/-- Each round reads a character at least, so the length of the text bounds their number. -/
theorem Folds.length_le (hfolds : Folds begins step texts s s') :
    texts.length ≤ (commaSeparated texts).length := by
  cases hfolds with
  | nil => simp
  | @cons c text texts =>
    have := length_le_length_flatMap (f := (',' :: ·)) (fun _ => List.cons_ne_nil _ _) texts
    simp only [commaSeparated_cons, List.length_append, List.length_cons]
    omega

/-- Elements up to the end of their array, for which the text to come gives rounds enough. -/
theorem Folds.yields_elements (hfolds : Folds BeginsElement step texts s s')
    (rest : List Char) :
    Yields (elements step ((commaSeparated texts ++ ']' :: rest).length + 1) true s)
      (commaSeparated texts ++ ']' :: rest) s' (']' :: rest) := by
  have hfuel := hfolds.length_le
  rw [elements_eq_rounds]
  exact hfolds.yields_rounds separates_hasElement (by simp only [List.length_append]; omega)

/-- Members up to the end of their object. -/
theorem Folds.yields_members (hfolds : Folds (· = '"') step texts s s') (rest : List Char) :
    Yields (members step ((commaSeparated texts ++ '\x7d' :: rest).length + 1) true s)
      (commaSeparated texts ++ '\x7d' :: rest) s' ('\x7d' :: rest) := by
  have hfuel := hfolds.length_le
  rw [members_eq_rounds]
  exact hfolds.yields_rounds separates_hasMember (by simp only [List.length_append]; omega)

end TransitionMap.Json.Reader
