import TransitionMap.Proofs.Exploration
import TransitionMap.Table

/-!
# Building a table from numbered states

What `Table.build` makes of any numbering of states. The transitions of one state are *clean* when
no byte is repeated and every target has a number; clean transitions give one entry each, in their
order (`entriesOf_of_clean`), and the first transition that is not clean decides the error
(`entriesOf_of_fault`). A build succeeds when all states are clean (`build_of_clean`) and otherwise
fails on the first state that is not (`build_of_fault`).
-/

namespace TransitionMap

/-! ## Numbers -/

namespace StateIds

variable {σ : Type} [DecidableEq σ] [Hashable σ] (ids : StateIds σ)

theorem toNat_ofNat {i : Nat} (h : i < StateId.count) : (UInt16.ofNat i).toNat = i :=
  UInt16.toNat_ofNat_of_lt' h

theorem length_le : ids.states.toList.length ≤ StateId.count := by
  rw [← OrderedSet.size_eq_length]
  exact ids.size_le

theorem id?_eq_some_iff (s : σ) (id : StateId) :
    ids.id? s = some id ↔ ids.states.toList[id.toNat]? = some s := by
  have hle := ids.length_le
  simp only [id?, Option.bind_eq_some_iff, OrderedSet.position?_eq_some_iff, StateId.ofIndex?,
    Option.ite_none_right_eq_some, Option.some.injEq]
  constructor
  · rintro ⟨i, hi, hlt, rfl⟩
    rwa [toNat_ofNat hlt]
  · intro h
    exact ⟨id.toNat, h, id.toNat_lt, UInt16.ofNat_toNat⟩

theorem isSome_id?_iff (s : σ) : (ids.id? s).isSome ↔ s ∈ ids.states.toList := by
  rw [Option.isSome_iff_exists]
  constructor
  · rintro ⟨id, h⟩
    exact List.mem_of_getElem? ((ids.id?_eq_some_iff s id).1 h)
  · intro h
    obtain ⟨i, hi⟩ := List.mem_iff_getElem?.1 h
    have hlt := (List.getElem?_eq_some_iff.1 hi).1
    have hle := ids.length_le
    refine ⟨UInt16.ofNat i, (ids.id?_eq_some_iff s _).2 ?_⟩
    rwa [toNat_ofNat (by omega)]

theorem mem_pairs_iff (id : StateId) (s : σ) : (id, s) ∈ ids.pairs ↔ ids.id? s = some id := by
  rw [id?_eq_some_iff]
  simp only [pairs, List.mem_map, Prod.mk.injEq, Prod.exists, List.mem_zipIdx_iff_getElem?]
  constructor
  · rintro ⟨s', i, hi, rfl, rfl⟩
    have hlt := (List.getElem?_eq_some_iff.1 hi).1
    have hle := ids.length_le
    rwa [toNat_ofNat (by omega)]
  · intro h
    exact ⟨s, id.toNat, h, UInt16.ofNat_toNat, rfl⟩

end StateIds

/-! ## Sequences of results -/

section Sequences

variable {ε α β : Type} {f : α → Except ε β} {g : α → β}

theorem mapM_eq_ok {l : List α} (h : ∀ a ∈ l, f a = .ok (g a)) : l.mapM f = .ok (l.map g) := by
  induction l with
  | nil => rfl
  | cons a l ih =>
    rw [List.mapM_cons, h a List.mem_cons_self, ih fun b hb => h b (List.mem_cons_of_mem a hb)]
    rfl

theorem mapM_eq_error {before after : List α} {a : α} {e : ε} (h : ∀ b ∈ before, f b = .ok (g b))
    (ha : f a = .error e) : (before ++ a :: after).mapM f = .error e := by
  rw [List.mapM_append, mapM_eq_ok h, List.mapM_cons, ha]
  rfl

/-- What succeeds has succeeded in both steps. -/
theorem exists_of_bind_eq_ok {x : Except ε α} {b : β} (h : x >>= f = .ok b) :
    ∃ a, x = .ok a ∧ f a = .ok b := by
  cases x with
  | error e => cases h
  | ok a => exact ⟨a, rfl, h⟩

theorem exists_of_mapM_eq_ok {l : List α} {bs : List β} (h : l.mapM f = .ok bs) :
    ∀ a ∈ l, ∃ b, f a = .ok b := by
  induction l generalizing bs with
  | nil => exact fun a ha => absurd ha List.not_mem_nil
  | cons a l ih =>
    rw [List.mapM_cons] at h
    obtain ⟨b, hhead, h⟩ := exists_of_bind_eq_ok h
    obtain ⟨rest, htail, -⟩ := exists_of_bind_eq_ok h
    exact List.forall_mem_cons.2 ⟨⟨b, hhead⟩, ih htail⟩

/-- If `f` succeeds where `p` holds and nowhere else, then so does a sequence of results of `f`. -/
theorem mapM_eq_ok_iff {p : α → Prop} (hok : ∀ a, p a → f a = .ok (g a))
    (hp : ∀ a b, f a = .ok b → p a) {l : List α} {bs : List β} :
    l.mapM f = .ok bs ↔ (∀ a ∈ l, p a) ∧ l.map g = bs := by
  constructor
  · intro h
    have hall : ∀ a ∈ l, p a := fun a ha => by
      obtain ⟨b, hb⟩ := exists_of_mapM_eq_ok h a ha
      exact hp a b hb
    rw [mapM_eq_ok fun a ha => hok a (hall a ha)] at h
    exact ⟨hall, Except.ok.inj h⟩
  · rintro ⟨hall, rfl⟩
    exact mapM_eq_ok fun a ha => hok a (hall a ha)

theorem map_eq_ok_iff {x : Except ε α} {b : β} :
    x.map g = .ok b ↔ ∃ a, x = .ok a ∧ g a = b := by
  cases x with
  | error e => simp [Except.map]
  | ok a => simp [Except.map]

end Sequences

namespace Table

variable {σ : Type} [DecidableEq σ] [Hashable σ] (a : Automaton σ) (ids : StateIds σ)

/-! ## The transitions of one state -/

/-- The entry of a transition from the state with number `id`. -/
def entryOf (id : StateId) (t : UInt8 × σ) : Entry :=
  ⟨{ state := id, unit := t.1 }, .leadingTo ((ids.id? t.2).getD 0) (a.accepting t.2)⟩

/-- No byte is repeated or among those seen, and every target has a number. -/
structure Clean (seen : List UInt8) (ts : List (UInt8 × σ)) : Prop where
  nodup : (ts.map Prod.fst).Nodup
  fresh : ∀ t ∈ ts, t.1 ∉ seen
  known : ∀ t ∈ ts, (ids.id? t.2).isSome

/-- What is wrong with a transition behind transitions on the bytes `seen`. -/
inductive Fault (id : StateId) (s : σ) (seen : List UInt8) (t : UInt8 × σ) : CompileError → Prop
  | repeated : t.1 ∈ seen → Fault id s seen t (.nonDeterministic id (a.describe s) t.1)
  | unknown : t.1 ∉ seen → ids.id? t.2 = none → Fault id s seen t (.unknownTarget id t.1)

variable {ids} in
theorem Clean.tail {seen : List UInt8} {t : UInt8 × σ} {ts : List (UInt8 × σ)}
    (h : Clean ids seen (t :: ts)) : Clean ids (t.1 :: seen) ts where
  nodup := (List.nodup_cons.1 h.nodup).2
  fresh u hu hmem := by
    rcases List.mem_cons.1 hmem with he | hmem
    · exact (List.nodup_cons.1 h.nodup).1 (he ▸ List.mem_map_of_mem hu)
    · exact h.fresh u (List.mem_cons_of_mem t hu) hmem
  known u hu := h.known u (List.mem_cons_of_mem t hu)

variable {a ids} {id : StateId} {s : σ}

theorem entriesOf_append_of_clean {seen : List UInt8} {ts : List (UInt8 × σ)}
    (h : Clean ids seen ts) (rest : List (UInt8 × σ)) :
    entriesOf a ids id s seen (ts ++ rest) =
      (entriesOf a ids id s ((ts.map Prod.fst).reverse ++ seen) rest).map
        (ts.map (entryOf a ids id) ++ ·) := by
  induction ts generalizing seen with
  | nil =>
    simp only [List.nil_append, List.map_nil, List.reverse_nil]
    cases entriesOf a ids id s seen rest <;> rfl
  | cons t ts ih =>
    obtain ⟨target, htarget⟩ := Option.isSome_iff_exists.1 (h.known t List.mem_cons_self)
    have hfresh : seen.contains t.1 = false := by
      simpa using h.fresh t List.mem_cons_self
    simp only [List.cons_append, entriesOf, hfresh, Bool.false_eq_true, ↓reduceIte, htarget,
      ih h.tail, List.map_cons, List.reverse_cons, List.append_assoc, List.nil_append, entryOf,
      Option.getD_some]
    cases entriesOf a ids id s ((ts.map Prod.fst).reverse ++ t.1 :: seen) rest <;> rfl

theorem entriesOf_of_clean {seen : List UInt8} {ts : List (UInt8 × σ)} (h : Clean ids seen ts) :
    entriesOf a ids id s seen ts = .ok (ts.map (entryOf a ids id)) := by
  have happ : entriesOf a ids id s seen (ts ++ []) = _ := entriesOf_append_of_clean h []
  simpa [entriesOf, Except.map] using happ

theorem entriesOf_of_fault {seen : List UInt8} {earlier later : List (UInt8 × σ)} {t : UInt8 × σ}
    {e : CompileError} (h : Clean ids seen earlier)
    (ht : Fault a ids id s ((earlier.map Prod.fst).reverse ++ seen) t e) :
    entriesOf a ids id s seen (earlier ++ t :: later) = .error e := by
  rw [entriesOf_append_of_clean h, entriesOf]
  cases ht with
  | repeated hmem =>
    rw [if_pos (List.contains_iff_mem.2 hmem)]
    rfl
  | unknown hfresh hnone =>
    rw [if_neg (by simpa using hfresh), hnone]
    rfl

/-! ## All states -/

/-- The transitions of a state, with nothing seen before them. -/
abbrev CleanState (a : Automaton σ) (ids : StateIds σ) (s : σ) : Prop :=
  Clean ids [] (a.transitions s)

theorem build_of_clean (h : ∀ p ∈ ids.pairs, CleanState a ids p.2) :
    build a ids =
      .ok ⟨ids.pairs.flatMap fun p => (a.transitions p.2).map (entryOf a ids p.1), ids.size⟩ := by
  rw [build, mapM_eq_ok (g := fun p => (a.transitions p.2).map (entryOf a ids p.1))
    fun p hp => entriesOf_of_clean (h p hp)]
  rfl

theorem build_of_fault {before after : List (StateId × σ)} {earlier later : List (UInt8 × σ)}
    {t : UInt8 × σ} {e : CompileError} (hpairs : ids.pairs = before ++ (id, s) :: after)
    (hbefore : ∀ p ∈ before, CleanState a ids p.2)
    (htransitions : a.transitions s = earlier ++ t :: later)
    (hearlier : Clean ids [] earlier) (ht : Fault a ids id s (earlier.map Prod.fst) t e) :
    build a ids = .error e := by
  have hs : entriesOf a ids id s [] (a.transitions s) = .error e := by
    rw [htransitions]
    refine entriesOf_of_fault hearlier ?_
    cases ht with
    | repeated hmem => exact .repeated (by simpa using hmem)
    | unknown hfresh hnone => exact .unknown (by simpa using hfresh) hnone
  rw [build, hpairs, mapM_eq_error (g := fun p => (a.transitions p.2).map (entryOf a ids p.1))
    (fun p hp => entriesOf_of_clean (hbefore p hp)) hs]
  rfl

end Table

end TransitionMap
