import TransitionMap.Pattern.Expr.Flags
import TransitionMap.Proofs.Pattern.Normalizing

/-!
# The language of a pattern as it is written

`Syntax.language?` reads a pattern off as a language: characters and classes are the UTF-8
sequences of their sets, sequences are products, alternations sums, repetitions rounds, greedy or
not. The expression of the pattern has this language (`Syntax.language?_eq`), and a pattern without
anchors and boundaries has an expression without assertions (`Syntax.free_of_asserts_eq_false`).
-/

namespace TransitionMap.Pattern

/-- The UTF-8 sequences of the characters of a set. -/
def charWords (set : CharSet) : Language UInt8 :=
  {w | ∃ c : Char, set.mem c.toNat = true ∧ w = String.utf8EncodeChar c}

namespace Syntax

mutual

/-- The words that a pattern matches, and the flags behind it. An anchor or a boundary is taken to
hold. -/
def language? (f : Flags) : Syntax → Option (Language UInt8 × Flags)
  | empty => some (1, f)
  | flags items => some (1, f.apply items)
  | literal c => (f.literal? c).map fun s => (charWords s, f)
  | dot => f.dot?.map fun s => (charWords s, f)
  | anchor _ => some (1, f)
  | letter kind negated => (f.letter? kind negated).map fun s => (charWords s, f)
  | property query negated => (f.property? query negated).map fun s => (charWords s, f)
  | bracketed negated contents =>
      (ClassSet.chars? f (.bracketed negated contents)).map fun s => (charWords s, f)
  | repetition min max _ sub => (language? f sub).map fun (L, f) => (Fragment.rounds L min max, f)
  | group (.capturing _) sub => (language? f sub).map fun (L, _) => (L, f)
  | group (.flagged items) sub => (language? (f.apply items) sub).map fun (L, _) => (L, f)
  | concat items => (languages? f items).map fun (Ls, f) => (Ls.prod, f)
  | alternation branches => (languages? f branches).map fun (Ls, f) => (Ls.sum, f)

/-- The languages of several patterns, the flags of each holding for the next. -/
def languages? (f : Flags) : List Syntax → Option (List (Language UInt8) × Flags)
  | [] => some ([], f)
  | item :: items => do
      let (L, f) ← language? f item
      let (Ls, f) ← languages? f items
      return (L :: Ls, f)

end

mutual

/-- Whether an anchor or a boundary is written somewhere in a pattern. -/
def asserts : Syntax → Bool
  | anchor _ => true
  | repetition _ _ _ sub => asserts sub
  | group _ sub => asserts sub
  | concat items => assertsSome items
  | alternation branches => assertsSome branches
  | _ => false

def assertsSome : List Syntax → Bool
  | [] => false
  | item :: items => asserts item || assertsSome items

end

theorem map_ofSet_eq (f : Flags) (set? : Option CharSet) :
    (set?.map fun s => (charWords s, f)) =
      (set?.map fun s => (Expr.ofSet s, f)).map fun (e, f) => (e.language, f) := by
  cases set? with
  | none => rfl
  | some set => exact congrArg (fun L => some (L, f)) (Expr.language_ofSet set).symm

mutual

/-- The expression of a pattern has the language of the pattern. -/
theorem language?_eq (f : Flags) (s : Syntax) :
    s.language? f = (s.expr? f).map fun (e, f) => (e.language, f) := by
  match s with
  | empty => rfl
  | flags items => rfl
  | literal c => exact map_ofSet_eq f (f.literal? c)
  | dot =>
    rw [language?, expr?, Option.map_map]
    rfl
  | anchor mark => rfl
  | letter kind negated => exact map_ofSet_eq f (f.letter? kind negated)
  | property query negated => exact map_ofSet_eq f (f.property? query negated)
  | bracketed negated contents =>
    exact map_ofSet_eq f (ClassSet.chars? f (.bracketed negated contents))
  | repetition min max greedy sub =>
    rw [language?, expr?, language?_eq f sub, Option.map_map, Option.map_map]
    refine congrArg (Option.map · (sub.expr? f)) (funext fun (e, f) => ?_)
    exact congrArg (·, f) (Expr.language_repetition min max _ e).symm
  | group (.capturing index) sub =>
    rw [language?, expr?, language?_eq f sub, Option.map_map, Option.map_map]
    rfl
  | group (.flagged items) sub =>
    rw [language?, expr?, language?_eq (f.apply items) sub, Option.map_map, Option.map_map]
    rfl
  | concat items =>
    rw [language?, expr?, languages?_eq f items, Option.map_map, Option.map_map]
    refine congrArg (Option.map · (exprs? f items)) (funext fun (es, f) => ?_)
    exact congrArg (·, f) (Expr.language_concat es).symm
  | alternation branches =>
    rw [language?, expr?, languages?_eq f branches, Option.map_map, Option.map_map]
    refine congrArg (Option.map · (exprs? f branches)) (funext fun (es, f) => ?_)
    exact congrArg (·, f) (Expr.language_alternate es).symm

theorem languages?_eq (f : Flags) (items : List Syntax) :
    languages? f items = (exprs? f items).map fun (es, f) => (es.map Expr.language, f) := by
  match items with
  | [] => rfl
  | item :: items =>
    rw [languages?, exprs?, language?_eq f item]
    cases item.expr? f with
    | none => rfl
    | some result =>
      obtain ⟨e, f⟩ := result
      simp only [Option.map_some, Option.bind_eq_bind, Option.bind_some, languages?_eq f items]
      cases exprs? f items <;> rfl

end

theorem free_of_map_ofSet {f f' : Flags} {set? : Option CharSet} {e : Expr}
    (h : (set?.map fun s => (Expr.ofSet s, f)) = some (e, f')) : e.assertions = [] := by
  obtain ⟨set, -, hset⟩ := Option.map_eq_some_iff.1 h
  obtain ⟨rfl, -⟩ := Prod.mk.inj hset
  exact Expr.free_ofSet set

mutual

/-- A pattern without anchors and boundaries asserts nothing. -/
theorem free_of_asserts_eq_false {f g : Flags} {s : Syntax} {e : Expr} (h : s.asserts = false)
    (he : s.expr? f = some (e, g)) : e.assertions = [] := by
  match s with
  | empty => exact (Prod.mk.inj (Option.some.inj he)).1 ▸ rfl
  | flags items => exact (Prod.mk.inj (Option.some.inj he)).1 ▸ rfl
  | literal c => exact free_of_map_ofSet he
  | dot =>
    obtain ⟨set, -, hset⟩ := Option.map_eq_some_iff.1 he
    exact (Prod.mk.inj hset).1 ▸ rfl
  | anchor mark => cases h
  | letter kind negated => exact free_of_map_ofSet he
  | property query negated => exact free_of_map_ofSet he
  | bracketed negated contents => exact free_of_map_ofSet he
  | repetition min max greedy sub =>
    rw [expr?] at he
    obtain ⟨⟨e, behind⟩, hsub, hpair⟩ := Option.map_eq_some_iff.1 he
    obtain ⟨rfl, -⟩ := Prod.mk.inj hpair
    exact Expr.free_repetition (free_of_asserts_eq_false (s := sub) h hsub) min max _
  | group (.capturing index) sub =>
    rw [expr?] at he
    obtain ⟨⟨e, behind⟩, hsub, hpair⟩ := Option.map_eq_some_iff.1 he
    obtain ⟨rfl, -⟩ := Prod.mk.inj hpair
    have hfree : e.assertions = [] := free_of_asserts_eq_false (s := sub) h hsub
    exact hfree
  | group (.flagged items) sub =>
    rw [expr?] at he
    obtain ⟨⟨e, behind⟩, hsub, hpair⟩ := Option.map_eq_some_iff.1 he
    obtain ⟨rfl, -⟩ := Prod.mk.inj hpair
    exact free_of_asserts_eq_false (s := sub) h hsub
  | concat items =>
    rw [expr?] at he
    obtain ⟨⟨es, behind⟩, hitems, hpair⟩ := Option.map_eq_some_iff.1 he
    obtain ⟨rfl, -⟩ := Prod.mk.inj hpair
    exact Expr.free_concat (forall_free_of_assertsSome_eq_false h hitems)
  | alternation branches =>
    rw [expr?] at he
    obtain ⟨⟨es, behind⟩, hbranches, hpair⟩ := Option.map_eq_some_iff.1 he
    obtain ⟨rfl, -⟩ := Prod.mk.inj hpair
    exact Expr.free_alternate (forall_free_of_assertsSome_eq_false h hbranches)

theorem forall_free_of_assertsSome_eq_false {f g : Flags} {items : List Syntax} {es : List Expr}
    (h : assertsSome items = false) (hes : exprs? f items = some (es, g)) :
    ∀ e ∈ es, e.assertions = [] := by
  match items with
  | [] =>
    obtain ⟨rfl, -⟩ := Prod.mk.inj (Option.some.inj hes)
    exact fun e he => absurd he List.not_mem_nil
  | item :: items =>
    obtain ⟨hitem, hitems⟩ := Bool.or_eq_false_iff.1 h
    rw [exprs?] at hes
    obtain ⟨⟨e, behind⟩, he, hes⟩ := Option.bind_eq_some_iff.1 hes
    obtain ⟨⟨es, last⟩, hrest, hpair⟩ := Option.bind_eq_some_iff.1 hes
    obtain ⟨rfl, -⟩ := Prod.mk.inj (Option.some.inj hpair)
    exact List.forall_mem_cons.2
      ⟨free_of_asserts_eq_false hitem he, forall_free_of_assertsSome_eq_false hitems hrest⟩

end

end Syntax

end TransitionMap.Pattern
