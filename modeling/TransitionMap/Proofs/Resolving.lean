import Mathlib.Data.List.Forall2
import TransitionMap.Proofs.Describing
import TransitionMap.Proofs.Planning

/-!
# Resolving the names of a description

The arena of a description has its states in the order of their declaration, with the places of
names for names and bytes for symbols (`Description.Places`). What is wrong with a description that
has none is told by the first repeated name, else by the first transition that cannot be resolved,
else by the start (`Description.FirstFault`).

* `SymbolText.toByte_eq_ok_iff`: which symbols stand for a byte;
* `Description.toArena_eq_error_iff`: the error is that of the first fault;
* `Description.Respelled.toArena_eq`: it does not matter how a symbol is written;
* `Description.toArena_resolves_names`: the three together.
-/

namespace TransitionMap

/-! ## Lists compared place by place -/

section Lists

variable {α β γ ε : Type}

theorem exists_of_forall₂ {R : α → β → Prop} {l : List α} {l' : List β} (h : List.Forall₂ R l l')
    {b : β} (hb : b ∈ l') : ∃ a ∈ l, R a b := by
  induction h with
  | nil => cases hb
  | @cons a b' l l' hab _ ih =>
    rcases List.mem_cons.1 hb with rfl | hb
    · exact ⟨a, List.mem_cons_self, hab⟩
    · obtain ⟨a', ha', hab'⟩ := ih hb
      exact ⟨a', List.mem_cons_of_mem a ha', hab'⟩

theorem mapM_eq_of_forall₂ {f : α → Except ε γ} {g : β → Except ε γ} {l : List α} {l' : List β}
    (h : List.Forall₂ (fun a b => g b = f a) l l') : l'.mapM g = l.mapM f := by
  induction h with
  | nil => rfl
  | cons hab _ ih => rw [List.mapM_cons, List.mapM_cons, hab, ih]

end Lists

/-! ## Symbols -/

/-- A symbol stands for a byte: for itself, or as a text of the one character with this code. -/
inductive SymbolText.StandsFor : SymbolText → UInt8 → Prop
  | byte (b : UInt8) : StandsFor (.byte b) b
  | text {c : Char} {b : UInt8} : c.toNat = b.toNat → StandsFor (.text (String.ofList [c])) b

namespace SymbolText

theorem StandsFor.toByte_eq {s : SymbolText} {b : UInt8} (h : s.StandsFor b) :
    s.toByte = .ok b := by
  cases h with
  | byte => rfl
  | @text c b hc =>
    have hlt : b.toNat < 256 := b.toNat_lt
    simp [toByte, hc, hlt]

theorem toByte_text (s : String) :
    (∃ b, (text s).StandsFor b) ∨ (text s).toByte = .error (.invalidSymbol s) := by
  simp only [toByte]
  split
  case h_1 c hc =>
    split
    case isTrue hlt =>
      rw [← String.ofList_toList (s := s), hc]
      exact .inl ⟨UInt8.ofNat c.toNat, .text (UInt8.toNat_ofNat_of_lt' hlt).symm⟩
    case isFalse => exact .inr rfl
  case h_2 => exact .inr rfl

theorem toByte_eq_ok_iff {s : SymbolText} {b : UInt8} : s.toByte = .ok b ↔ s.StandsFor b := by
  constructor
  · intro h
    cases s with
    | byte b' =>
      obtain rfl := Except.ok.inj h
      exact .byte b'
    | text s =>
      rcases toByte_text s with ⟨b', hb'⟩ | herror
      · obtain rfl := Except.ok.inj (hb'.toByte_eq.symm.trans h)
        exact hb'
      · rw [herror] at h
        cases h
  · exact StandsFor.toByte_eq

end SymbolText

namespace Description

/-- A transition that can be resolved: its target is declared and its symbol stands for a byte. -/
def Resolves (d : Description) (t : SymbolText × String) : Prop :=
  t.2 ∈ d.names ∧ ∃ b, t.1.StandsFor b

/-- What is wrong with a transition; of two faults, that of the target counts. -/
inductive Offends (d : Description) : SymbolText × String → DescriptionError → Prop
  | target {t : SymbolText × String} : t.2 ∉ d.names → Offends d t (.unknownState t.2)
  | symbol {s target : String} : target ∈ d.names → (∀ b, ¬ (SymbolText.text s).StandsFor b) →
      Offends d (.text s, target) (.invalidSymbol s)

/-- The first fault of a description: the first declared name that repeats an earlier one, else the
first transition that cannot be resolved, in the order of declaration, else a start that is not
declared. -/
inductive FirstFault (d : Description) : DescriptionError → Prop
  | repeated {before after : List StateDescription} {s : StateDescription}
      (declared : d.states = before ++ s :: after)
      (distinct : (before.map StateDescription.name).Nodup)
      (repeats : s.name ∈ before.map StateDescription.name) :
      FirstFault d (.duplicateState s.name)
  | transition {before after : List StateDescription} {s : StateDescription}
      {earlier later : List (SymbolText × String)} {t : SymbolText × String} {e : DescriptionError}
      (distinct : d.names.Nodup) (declared : d.states = before ++ s :: after)
      (resolved : ∀ r ∈ before, ∀ u ∈ r.transitions, d.Resolves u)
      (transitions : s.transitions = earlier ++ t :: later)
      (resolved' : ∀ u ∈ earlier, d.Resolves u) (offends : d.Offends t e) : FirstFault d e
  | start (distinct : d.names.Nodup)
      (resolved : ∀ s ∈ d.states, ∀ t ∈ s.transitions, d.Resolves t)
      (unknown : d.start ∉ d.names) : FirstFault d (.unknownState d.start)

/-- A state of an arena is a declared one: it has its name and flag, and its transitions in their
order, with the byte of each symbol and the place where each target is declared. -/
structure PlacesState (d : Description) (s : StateDescription) (r : ArenaState) : Prop where
  name : r.name = some s.name
  accepting : r.accepting = s.accepting
  transitions : List.Forall₂ (fun t u => t.1.StandsFor u.1 ∧ d.names[u.2]? = some t.2)
    s.transitions r.transitions

/-- An arena has one state for each declared one, in this order, and the described start. -/
structure Places (d : Description) (p : Arena) : Prop where
  states : List.Forall₂ d.PlacesState d.states p.states.toList
  start : d.names[p.start]? = some d.start

/-! ## Faults -/

theorem wellFormed_iff {d : Description} :
    d.WellFormed ↔ d.names.Nodup ∧ (∀ s ∈ d.states, ∀ t ∈ s.transitions, d.Resolves t) ∧
      d.start ∈ d.names := by
  constructor
  · intro h
    refine ⟨h.nodup, fun s hs t ht => ⟨h.targets s hs t ht, ?_⟩, h.start⟩
    obtain ⟨b, hb⟩ := h.symbols s hs t ht
    exact ⟨b, SymbolText.toByte_eq_ok_iff.1 hb⟩
  · rintro ⟨hnodup, hresolved, hstart⟩
    refine ⟨hnodup, hstart, fun s hs t ht => (hresolved s hs t ht).1, fun s hs t ht => ?_⟩
    obtain ⟨b, hb⟩ := (hresolved s hs t ht).2
    exact ⟨b, hb.toByte_eq⟩

theorem exists_offends {d : Description} {t : SymbolText × String} (h : ¬ d.Resolves t) :
    ∃ e, d.Offends t e := by
  obtain ⟨symbol, target⟩ := t
  by_cases htarget : target ∈ d.names
  · cases symbol with
    | byte b => exact absurd ⟨htarget, b, .byte b⟩ h
    | text s => exact ⟨_, .symbol htarget fun b hb => h ⟨htarget, b, hb⟩⟩
  · exact ⟨_, .target htarget⟩

/-- A description is well formed or has a first fault. -/
theorem exists_firstFault {d : Description} (h : ¬ d.WellFormed) : ∃ e, d.FirstFault e := by
  classical
  by_cases hnodup : d.names.Nodup
  · by_cases hresolved : ∀ s ∈ d.states, ∀ t ∈ s.transitions, d.Resolves t
    · by_cases hstart : d.start ∈ d.names
      · exact absurd (wellFormed_iff.2 ⟨hnodup, hresolved, hstart⟩) h
      · exact ⟨_, .start hnodup hresolved hstart⟩
    · obtain ⟨before, s, after, hstates, hbefore, hs⟩ := exists_first_not hresolved
      obtain ⟨earlier, t, later, htransitions, hearlier, ht⟩ := exists_first_not hs
      obtain ⟨e, he⟩ := exists_offends ht
      exact ⟨e, .transition hnodup hstates hbefore htransitions hearlier he⟩
  · obtain ⟨before, s, after, hstates, hdistinct, hrepeats⟩ := exists_first_repeat hnodup
    exact ⟨_, .repeated hstates hdistinct hrepeats⟩

section States

variable {d : Description} {names : OrderedSet String} (hnames : names.toList = d.names)
include hnames

theorem transition_eq_error {t : SymbolText × String} {e : DescriptionError}
    (h : d.Offends t e) : transition names t = .error e := by
  cases h with
  | target hunknown =>
    rw [transition, number_of_notMem (hnames ▸ hunknown)]
    rfl
  | symbol htarget hnone =>
    rw [transition, number_of_mem (hnames ▸ htarget)]
    rcases SymbolText.toByte_text _ with ⟨b, hb⟩ | herror
    · exact absurd hb (hnone b)
    · simp only [bind, Except.bind, herror]

theorem arenaState_eq_of_resolved {s : StateDescription}
    (h : ∀ t ∈ s.transitions, d.Resolves t) : arenaState names s = .ok (d.placed s) :=
  arenaState_eq hnames fun t ht => ⟨(h t ht).1, (h t ht).2.imp fun _ hb => hb.toByte_eq⟩

theorem arenaState_eq_error {s : StateDescription} {earlier later : List (SymbolText × String)}
    {t : SymbolText × String} {e : DescriptionError}
    (htransitions : s.transitions = earlier ++ t :: later)
    (hresolved : ∀ u ∈ earlier, d.Resolves u) (ht : d.Offends t e) :
    arenaState names s = .error e := by
  have hearlier := fun u hu => transition_eq hnames (hresolved u hu).1
    ((hresolved u hu).2.imp fun _ hb => hb.toByte_eq)
  rw [arenaState, htransitions, mapM_eq_error hearlier (transition_eq_error hnames ht)]
  rfl

end States

theorem FirstFault.toArena_eq {d : Description} {e : DescriptionError} (h : d.FirstFault e) :
    d.toArena = .error e := by
  cases h with
  | repeated declared distinct repeats =>
    rw [toArena, declared, collectNames_eq_error (by simpa using distinct) (by simpa using repeats)]
    rfl
  | @transition before after s earlier later t e distinct declared resolved transitions resolved'
      offends =>
    obtain ⟨names, hcollect, hnames⟩ := exists_collectNames distinct
    have hbefore := fun r hr => arenaState_eq_of_resolved hnames (resolved r hr)
    have hs := arenaState_eq_error hnames transitions resolved' offends
    rw [toArena, hcollect, declared]
    simp only [bind, Except.bind, mapM_eq_error hbefore hs]
  | start distinct resolved unknown =>
    obtain ⟨names, hcollect, hnames⟩ := exists_collectNames distinct
    have hstates := mapM_eq_ok fun s hs => arenaState_eq_of_resolved hnames (resolved s hs)
    rw [toArena, hcollect]
    simp only [bind, Except.bind, hstates, number_of_notMem (hnames ▸ unknown)]

theorem toArena_eq_error_iff {d : Description} {e : DescriptionError} :
    d.toArena = .error e ↔ d.FirstFault e := by
  constructor
  · intro h
    have hnot : ¬ d.WellFormed := by
      intro hwell
      rw [hwell.toArena_eq] at h
      cases h
    obtain ⟨e', he'⟩ := exists_firstFault hnot
    obtain rfl := Except.error.inj (he'.toArena_eq.symm.trans h)
    exact he'
  · exact FirstFault.toArena_eq

/-! ## The arena -/

theorem WellFormed.placesState {d : Description} (h : d.WellFormed) {s : StateDescription}
    (hs : s ∈ d.states) : d.PlacesState s (d.placed s) where
  name := rfl
  accepting := rfl
  transitions := by
    rw [placed, List.forall₂_map_right_iff, List.forall₂_same]
    intro t ht
    obtain ⟨b, hb⟩ := h.symbols s hs t ht
    have hbyte : t.1.byteD = b := by
      rw [SymbolText.byteD, hb]
      rfl
    exact ⟨hbyte ▸ SymbolText.toByte_eq_ok_iff.1 hb, List.getElem?_idxOf (h.targets s hs t ht)⟩

theorem WellFormed.places {d : Description} (h : d.WellFormed) : d.Places d.arena where
  states := by
    rw [arena, List.forall₂_map_right_iff, List.forall₂_same]
    exact fun s hs => h.placesState hs
  start := List.getElem?_idxOf h.start

section Places

variable {d : Description} {p : Arena} (h : d.Places p)
include h

theorem Places.size_eq : p.size = d.names.length := by
  have hlength := h.states.length_eq
  rw [Arena.size, names, List.length_map, hlength, Array.length_toList]

theorem Places.start_lt : p.start < p.size := by
  rw [h.size_eq]
  exact (List.getElem?_eq_some_iff.1 h.start).1

theorem Places.target_lt {i : Nat} {u : UInt8 × Nat} (hu : u ∈ (p.state i).transitions) :
    u.2 < p.size := by
  unfold Arena.state at hu
  cases hi : p.states[i]? with
  | none => simp [hi] at hu
  | some r =>
    rw [hi, Option.getD_some] at hu
    have hr : r ∈ p.states.toList := Array.mem_toList_iff.2 (Array.mem_of_getElem? hi)
    obtain ⟨s, -, hplaced⟩ := exists_of_forall₂ h.states hr
    obtain ⟨t, -, -, htarget⟩ := exists_of_forall₂ hplaced.transitions hu
    rw [h.size_eq]
    exact (List.getElem?_eq_some_iff.1 htarget).1

end Places

/-! ## Other ways to write a symbol -/

/-- A transition with the same target and the same symbol, or another one for the same byte. -/
def SameTransition (t t' : SymbolText × String) : Prop :=
  t'.2 = t.2 ∧ (t'.1 = t.1 ∨ ∃ b, t.1.StandsFor b ∧ t'.1.StandsFor b)

/-- A description in which some symbols are written in another way. -/
structure Respelled (d d' : Description) : Prop where
  start : d'.start = d.start
  states : List.Forall₂ (fun s s' => s'.name = s.name ∧ s'.accepting = s.accepting ∧
    List.Forall₂ SameTransition s.transitions s'.transitions) d.states d'.states

theorem SameTransition.transition_eq {t t' : SymbolText × String} (h : SameTransition t t')
    (names : OrderedSet String) : transition names t' = transition names t := by
  obtain ⟨htarget, hsymbol⟩ := h
  have hbyte : t'.1.toByte = t.1.toByte := by
    rcases hsymbol with hsame | ⟨b, hb, hb'⟩
    · rw [hsame]
    · rw [hb.toByte_eq, hb'.toByte_eq]
  rw [transition, transition, htarget, hbyte]

theorem collectNames_congr {states states' : List StateDescription}
    (h : List.Forall₂ (fun s s' => s'.name = s.name) states states') (names : OrderedSet String) :
    collectNames names states' = collectNames names states := by
  induction h generalizing names with
  | nil => rfl
  | cons hname _ ih => rw [collectNames, collectNames, hname, ih]

theorem Respelled.toArena_eq {d d' : Description} (h : d.Respelled d') :
    d'.toArena = d.toArena := by
  have hnames := collectNames_congr (h.states.imp fun _ _ hs => hs.1) .empty
  have hstates : ∀ names, d'.states.mapM (arenaState names) = d.states.mapM (arenaState names) := by
    intro names
    refine mapM_eq_of_forall₂ (h.states.imp fun s s' hs => ?_)
    obtain ⟨hname, haccepting, htransitions⟩ := hs
    have hsame := mapM_eq_of_forall₂ (htransitions.imp fun t t' ht => ht.transition_eq names)
    rw [arenaState, arenaState, hname, haccepting, hsame]
  simp only [toArena, hnames, hstates, h.start]

/-- Which descriptions have an arena, and which one: every state stands at the place of its
declaration, its transitions lead to the places of the described targets on the bytes of the
described symbols, however these are written, and planning fails on it only for too many states or
for two transitions on one byte. The others are refused for their first fault. -/
theorem toArena_resolves_names (d : Description) :
    ((∃ p, d.toArena = .ok p) ↔
      d.names.Nodup ∧ (∀ s ∈ d.states, ∀ t ∈ s.transitions, t.2 ∈ d.names) ∧ d.start ∈ d.names ∧
        ∀ s ∈ d.states, ∀ t ∈ s.transitions, ∃ b, t.1.StandsFor b) ∧
    (∀ p, d.toArena = .ok p → d.Places p ∧ p.start < p.size ∧
      (∀ i, ∀ u ∈ (p.state i).transitions, u.2 < p.size) ∧
      ∀ maxStates e, Table.plan p.toAutomaton maxStates = .error e →
        (∃ count max, e = .tooManyStates count max) ∨
          ∃ state origin symbol, e = .nonDeterministic state origin symbol) ∧
    (∀ d', d.Respelled d' → d'.toArena = d.toArena) ∧
    ∀ e, d.toArena = .error e ↔ d.FirstFault e := by
  refine ⟨?_, fun p hp => ?_, fun d' h => h.toArena_eq, fun e => toArena_eq_error_iff⟩
  · constructor
    · rintro ⟨p, hp⟩
      obtain ⟨hnodup, hresolved, hstart⟩ := wellFormed_iff.1 (wellFormed_of_toArena_eq_ok hp)
      exact ⟨hnodup, fun s hs t ht => (hresolved s hs t ht).1, hstart,
        fun s hs t ht => (hresolved s hs t ht).2⟩
    · rintro ⟨hnodup, htargets, hstart, hsymbols⟩
      have hwell : d.WellFormed := wellFormed_iff.2
        ⟨hnodup, fun s hs t ht => ⟨htargets s hs t ht, hsymbols s hs t ht⟩, hstart⟩
      exact ⟨d.arena, hwell.toArena_eq⟩
  · obtain ⟨hwell, rfl⟩ := toArena_eq_ok_iff.1 hp
    have hplaces := hwell.places
    refine ⟨hplaces, hplaces.start_lt, fun i u hu => hplaces.target_lt hu, fun maxStates e he => ?_⟩
    cases (Table.plan_eq_iff _ _ _).1 he with
    | tooMany => exact .inl ⟨_, _, rfl⟩
    | repeated => exact .inr ⟨_, _, _, rfl⟩

end Description

end TransitionMap
