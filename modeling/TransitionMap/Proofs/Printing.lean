import TransitionMap.Description.Reader
import TransitionMap.Proofs.Json.Rereading
import TransitionMap.Source

/-!
# Descriptions are read back from their text

The text of a description holds each symbol, name and flag in its place, so each reader gets back
what was written there: symbols and transitions (`rereads_readTransition`), then states
(`rereads_readState`), then the description (`rereads_reader`). An object is read member by member
into fields that are still empty (`folds_member`, `yields_readOnce`). So every description is read
back from its text as it is (`parse_text`).
-/

namespace TransitionMap.Description

open Json Json.Reader

variable {α : Type} {element field : Reader α} {text input rest : List Char} {a : α} {c : Char}
  {depth : Nat}

/-! ## Transitions -/

theorem delimits_comma (rest : List Char) : Delimits (',' :: rest) := by
  rintro c ⟨⟩
  decide

theorem beginsElement_write (symbol : SymbolText) :
    ∃ c text, symbol.write = c :: text ∧ BeginsElement c := by
  cases symbol with
  | byte b =>
    obtain ⟨d, ds, hdigits, hd⟩ := exists_cons_repr b.toNat
    exact ⟨d, ds, hdigits, beginsElement_of_isDigit hd⟩
  | text s => exact (rereads_expectString s).begins

/-- A byte is written as a number and a text as a string, so they stay apart. -/
theorem yields_readSymbol (depth : Nat) (symbol : SymbolText) (hrest : Delimits rest) :
    Yields (readSymbol (depth + 1)) (symbol.write ++ rest) symbol rest := by
  cases symbol with
  | byte b =>
    have hsize : b.toNat < UInt64.size := Nat.lt_trans b.toNat_lt (by decide)
    refine (yields_value_natural depth hsize hrest).bind ?_
    simp only [SymbolText.ofValue?, if_pos b.toNat_lt, UInt8.ofNat_toNat]
    exact yields_pure
  | text s => exact (yields_value_string depth s).bind yields_pure

theorem yields_nextElement_zero (whole : String) (hc : BeginsElement c)
    (h : Yields element (c :: input) a rest) :
    Yields (nextElement 0 whole element) (c :: input) a rest :=
  (separates_hasElement.first _ hc).bind h

theorem yields_nextElement_succ (index : Nat) (whole : String) (h : Rereads element text a)
    (rest : List Char) :
    Yields (nextElement (index + 1) whole element) (',' :: (text ++ rest)) a rest := by
  obtain ⟨⟨c, tail, rfl, hc⟩, hyields⟩ := h
  exact (separates_hasElement.next _ hc).bind (hyields rest)

theorem rereads_readTransition (t : SymbolText × String) :
    Rereads (readTransition (depth + 2)) (writeArray [t.1.write, writeString t.2]) t where
  begins := ⟨'[', _, rfl, by decide, by decide⟩
  yields rest := by
    obtain ⟨symbol, target⟩ := t
    have hcomma := delimits_comma (writeString target ++ ']' :: rest)
    have hsymbol := yields_readSymbol depth symbol hcomma
    have htarget := yields_nextElement_succ 0 pairText (rereads_expectString target) (']' :: rest)
    obtain ⟨c, text, htext, hc⟩ := beginsElement_write symbol
    simp only [writeArray, commaSeparated, List.cons_append, List.append_assoc, htext] at hsymbol ⊢
    refine (yields_beginValue (by decide)).bind (Yields.placed (Yields.nested ?_ yields_endArray))
    exact (yields_nextElement_zero pairText hc hsymbol).bind htarget.bind_pure

/-! ## Fields -/

theorem yields_readOnce (name : String) (h : Rereads field text a) (rest : List Char) :
    Yields (readOnce name none field) (':' :: (text ++ rest)) (some a) rest :=
  yields_colon.bind (h.yields rest).bind_pure

/-- A member of an object, at its key. -/
theorem folds_member {σ : Type} {step : σ → Reader σ} {s s' s'' : σ} {name : String}
    {value : List Char} {texts : List (List Char)}
    (h : ∀ rest, Yields (step s) (writeString name ++ (':' :: (value ++ rest))) s' rest)
    (htexts : Folds (· = '"') step texts s' s'') :
    Folds (· = '"') step ((writeString name ++ ':' :: value) :: texts) s s'' :=
  .cons rfl (fun rest => by simpa [writeString] using h rest) htexts

/-- An object is read back when its members are. -/
theorem rereads_readFields (whole : String) (fromArray : Nat → Reader α)
    {fromObject : Nat → Reader α} {fields : List (String × List Char)}
    (h : ∀ rest, Yields (fromObject (depth + 1))
      (commaSeparated (fields.map fun (name, value) => writeString name ++ ':' :: value) ++
        '\x7d' :: rest) a ('\x7d' :: rest)) :
    Rereads (readFields whole (depth + 2) fromArray fromObject) (writeObject fields) a where
  begins := ⟨'\x7b', _, rfl, by decide, by decide⟩
  yields rest := by
    rw [writeObject, List.cons_append, List.append_assoc]
    exact (yields_beginValue (by decide)).bind
      (Yields.placed (Yields.nested (h rest) yields_endObject))

/-- A state is written with all its fields, and each is read once. -/
theorem rereads_readState (s : StateDescription) : Rereads (readState (depth + 4)) s.write s := by
  have htransitions : Rereads (expectArray readTransition (depth + 1 + 2)) _ s.transitions :=
    Rereads.expectArray fun t _ => rereads_readTransition t
  have hname := yields_readOnce "name" (rereads_expectString s.name)
  have haccepting := yields_readOnce "accepting" (rereads_expectBool s.accepting)
  have hlist := yields_readOnce "transitions" htransitions
  have hfields : Folds (· = '"') (readStateField (depth + 3)) _ {}
      ⟨some s.name, some s.accepting, some s.transitions⟩ :=
    folds_member (fun rest => (yields_string "name").bind (hname rest).bind_pure) <|
    folds_member (fun rest => (yields_string "accepting").bind (haccepting rest).bind_pure) <|
    folds_member (fun rest => (yields_string "transitions").bind (hlist rest).bind_pure) (.nil _)
  refine rereads_readFields "struct StateSpec" _ fun rest => ?_
  exact yields_remaining.bind ((hfields.yields_members rest).bind yields_pure)

/-- A description nests five levels, far fewer than may be read. -/
theorem rereads_reader (d : Description) : Rereads reader d.write d := by
  have hstates : Rereads (expectArray readState (125 + 2)) _ d.states :=
    Rereads.expectArray fun s _ => rereads_readState s
  have hstart := yields_readOnce "start" (rereads_expectString d.start)
  have hlist := yields_readOnce "states" hstates
  have hfields : Folds (· = '"') (readField 127) _ {} ⟨some d.start, some d.states⟩ :=
    folds_member (fun rest => (yields_string "start").bind (hstart rest).bind_pure) <|
    folds_member (fun rest => (yields_string "states").bind (hlist rest).bind_pure) (.nil _)
  refine rereads_readFields "struct DfaSpec" _ fun rest => ?_
  exact yields_remaining.bind ((hfields.yields_members rest).bind yields_pure)

/-- A description is read back from its text: whatever characters its names have, and whatever its
symbols are. -/
theorem parse_text (d : Description) : Source.parseDescription d.text = .ok d := by
  have hwrite := (rereads_reader d).yields []
  rw [List.append_nil] at hwrite
  have hparse : parse d.text = .ok d := hwrite.run_eq
  rw [Source.parseDescription, hparse, Except.mapError]

example :
    (Description.mk "a" [⟨"a", true, [(.byte 10, "a"), (.text "\n", "\"")]⟩]).text =
      "\x7b\"start\":\"a\",\"states\":[\x7b\"name\":\"a\",\"accepting\":true," ++
        "\"transitions\":[[10,\"a\"],[\"\\n\",\"\\\"\"]]\x7d]\x7d" := by
  cbv

end TransitionMap.Description
