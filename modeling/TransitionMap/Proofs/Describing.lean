import TransitionMap.Description
import TransitionMap.Proofs.Building

/-!
# What a description stands for

A description is *well formed* when its names differ, the start and all targets are among them, and
every symbol is a byte. Exactly these descriptions have an arena, in which a state's number is the
place of its declaration (`Description.toArena_eq_ok_iff`).
-/

namespace TransitionMap

/-- The byte of a symbol, zero if there is none. -/
def SymbolText.byteD (s : SymbolText) : UInt8 := s.toByte.toOption.getD 0

namespace Description

def names (d : Description) : List String := d.states.map (·.name)

structure WellFormed (d : Description) : Prop where
  nodup : d.names.Nodup
  start : d.start ∈ d.names
  targets : ∀ s ∈ d.states, ∀ t ∈ s.transitions, t.2 ∈ d.names
  symbols : ∀ s ∈ d.states, ∀ t ∈ s.transitions, ∃ b, t.1.toByte = .ok b

/-- A state by the places where names are declared. -/
def placed (d : Description) (s : StateDescription) : ArenaState :=
  { name := some s.name
    accepting := s.accepting
    transitions := s.transitions.map fun t => (t.1.byteD, d.names.idxOf t.2) }

/-- The arena of a description that is well formed. -/
def arena (d : Description) : Arena := ⟨(d.states.map d.placed).toArray, d.names.idxOf d.start⟩

/-! ## Names -/

section Names

variable {names : OrderedSet String}

/-- Names that do not repeat are collected, and the next ones are looked for among them. -/
theorem collectNames_append {states : List StateDescription}
    (h : (names.toList ++ states.map (·.name)).Nodup) (rest : List StateDescription) :
    ∃ all, all.toList = names.toList ++ states.map (·.name) ∧
      collectNames names (states ++ rest) = collectNames all rest := by
  induction states generalizing names with
  | nil => exact ⟨names, by simp, rfl⟩
  | cons s states ih =>
    have hfresh : s.name ∉ names.toList := fun hmem =>
      (List.nodup_append.1 h).2.2 s.name hmem s.name (by simp) rfl
    have hinsert : (names.insert s.name).toList = names.toList ++ [s.name] := by
      rw [OrderedSet.toList_insert, if_neg hfresh]
    have hnew : ¬ names.contains s.name = true := fun hmem =>
      hfresh (Array.mem_toList_iff.2 ((names.contains_iff s.name).1 hmem))
    have hrest : ((names.insert s.name).toList ++ states.map (·.name)).Nodup := by
      simpa [hinsert] using h
    obtain ⟨all, hlist, hall⟩ := ih hrest
    refine ⟨all, by simp [hlist, hinsert], ?_⟩
    rw [List.cons_append, collectNames, if_neg hnew, hall]

theorem collectNames_eq {states : List StateDescription}
    (h : (names.toList ++ states.map (·.name)).Nodup) :
    ∃ all, collectNames names states = .ok all ∧
      all.toList = names.toList ++ states.map (·.name) := by
  obtain ⟨all, hlist, hall⟩ := collectNames_append h []
  rw [List.append_nil] at hall
  exact ⟨all, hall, hlist⟩

/-- The first name that repeats an earlier one is reported. -/
theorem collectNames_eq_error {before after : List StateDescription} {s : StateDescription}
    (h : (names.toList ++ before.map (·.name)).Nodup)
    (hs : s.name ∈ names.toList ++ before.map (·.name)) :
    collectNames names (before ++ s :: after) = .error (.duplicateState s.name) := by
  obtain ⟨all, hlist, hall⟩ := collectNames_append h (s :: after)
  have hmem : s.name ∈ all.toList := hlist ▸ hs
  have hcontains := (all.contains_iff s.name).2 (Array.mem_toList_iff.1 hmem)
  rw [hall, collectNames, if_pos hcontains]

theorem toList_of_collectNames {states : List StateDescription} {all : OrderedSet String}
    (h : collectNames names states = .ok all) :
    all.toList = names.toList ++ states.map (·.name) := by
  induction states generalizing names with
  | nil =>
    obtain rfl := Except.ok.inj h
    simp
  | cons s rest ih =>
    rw [collectNames] at h
    split at h
    case isTrue => cases h
    case isFalse hnew =>
      have hfresh : s.name ∉ names.toList := fun hmem =>
        hnew ((names.contains_iff s.name).2 (Array.mem_toList_iff.1 hmem))
      rw [ih h, OrderedSet.toList_insert, if_neg hfresh]
      simp

theorem number_eq_ok_iff {name : String} {i : Nat} :
    number names name = .ok i ↔ names.toList[i]? = some name := by
  rw [← OrderedSet.position?_eq_some_iff, number]
  cases names.position? name <;> simp

theorem number_of_mem {name : String} (h : name ∈ names.toList) :
    number names name = .ok (names.toList.idxOf name) :=
  number_eq_ok_iff.2 (List.getElem?_idxOf h)

theorem number_of_notMem {name : String} (h : name ∉ names.toList) :
    number names name = .error (.unknownState name) := by
  cases hnumber : names.position? name with
  | none => rw [number, hnumber]
  | some i =>
    rw [OrderedSet.position?_eq_some_iff] at hnumber
    exact absurd (List.mem_of_getElem? hnumber) h

end Names

/-! ## States -/

section States

variable {d : Description} {names : OrderedSet String} (hnames : names.toList = d.names)
include hnames

theorem transition_eq {t : SymbolText × String} (htarget : t.2 ∈ d.names)
    (hsymbol : ∃ b, t.1.toByte = .ok b) :
    transition names t = .ok (t.1.byteD, d.names.idxOf t.2) := by
  obtain ⟨b, hb⟩ := hsymbol
  have hbyte : t.1.byteD = b := by
    rw [SymbolText.byteD, hb]
    rfl
  rw [transition, number_of_mem (hnames ▸ htarget), hb, hbyte, hnames]
  rfl

theorem mem_of_transition_eq_ok {t : SymbolText × String} {u : UInt8 × Nat}
    (h : transition names t = .ok u) : t.2 ∈ d.names ∧ ∃ b, t.1.toByte = .ok b := by
  rw [transition] at h
  obtain ⟨i, hnumber, h⟩ := exists_of_bind_eq_ok h
  obtain ⟨b, hbyte, -⟩ := exists_of_bind_eq_ok h
  exact ⟨hnames ▸ List.mem_of_getElem? (number_eq_ok_iff.1 hnumber), b, hbyte⟩

theorem arenaState_eq {s : StateDescription}
    (h : ∀ t ∈ s.transitions, t.2 ∈ d.names ∧ ∃ b, t.1.toByte = .ok b) :
    arenaState names s = .ok (d.placed s) := by
  have htransitions := mapM_eq_ok (f := transition names)
    fun t ht => transition_eq hnames (h t ht).1 (h t ht).2
  rw [arenaState, htransitions]
  rfl

theorem mem_of_arenaState_eq_ok {s : StateDescription} {r : ArenaState}
    (h : arenaState names s = .ok r) :
    ∀ t ∈ s.transitions, t.2 ∈ d.names ∧ ∃ b, t.1.toByte = .ok b := by
  intro t ht
  rw [arenaState] at h
  obtain ⟨us, htransitions, -⟩ := exists_of_bind_eq_ok h
  obtain ⟨u, hu⟩ := exists_of_mapM_eq_ok htransitions t ht
  exact mem_of_transition_eq_ok hnames hu

end States

/-! ## Arenas -/

theorem exists_collectNames {d : Description} (h : d.names.Nodup) :
    ∃ all, collectNames .empty d.states = .ok all ∧ all.toList = d.names := by
  have hnodup : (OrderedSet.empty.toList ++ d.states.map StateDescription.name).Nodup := h
  exact collectNames_eq hnodup

theorem WellFormed.toArena_eq {d : Description} (h : d.WellFormed) : d.toArena = .ok d.arena := by
  obtain ⟨names, hcollect, hnames⟩ := exists_collectNames h.nodup
  have hstates := mapM_eq_ok (f := arenaState names) fun s hs =>
    arenaState_eq hnames fun t ht => ⟨h.targets s hs t ht, h.symbols s hs t ht⟩
  rw [toArena, hcollect]
  simp only [bind, Except.bind, hstates, number_of_mem (hnames ▸ h.start), hnames, pure,
    Except.pure, arena]

theorem wellFormed_of_toArena_eq_ok {d : Description} {p : Arena} (h : d.toArena = .ok p) :
    d.WellFormed := by
  rw [toArena] at h
  obtain ⟨names, hcollect, h⟩ := exists_of_bind_eq_ok h
  obtain ⟨states, hstates, h⟩ := exists_of_bind_eq_ok h
  obtain ⟨start, hstart, -⟩ := exists_of_bind_eq_ok h
  have hnames : names.toList = d.names := by
    simpa [Description.names] using toList_of_collectNames hcollect
  have hclosed : ∀ s ∈ d.states, ∀ t ∈ s.transitions,
      t.2 ∈ d.names ∧ ∃ b, t.1.toByte = .ok b := by
    intro s hs
    obtain ⟨r, hr⟩ := exists_of_mapM_eq_ok hstates s hs
    exact mem_of_arenaState_eq_ok hnames hr
  exact {
    nodup := hnames ▸ names.nodup_toList
    start := hnames ▸ List.mem_of_getElem? (number_eq_ok_iff.1 hstart)
    targets := fun s hs t ht => (hclosed s hs t ht).1
    symbols := fun s hs t ht => (hclosed s hs t ht).2 }

theorem toArena_eq_ok_iff {d : Description} {p : Arena} :
    d.toArena = .ok p ↔ d.WellFormed ∧ p = d.arena := by
  constructor
  · intro h
    have hwell := wellFormed_of_toArena_eq_ok h
    rw [hwell.toArena_eq] at h
    exact ⟨hwell, (Except.ok.inj h).symm⟩
  · rintro ⟨hwell, rfl⟩
    exact hwell.toArena_eq

/-- A declared state stands at the place of its name. -/
theorem WellFormed.state_arena {d : Description} (h : d.WellFormed) {s : StateDescription}
    (hs : s ∈ d.states) : d.arena.state (d.names.idxOf s.name) = d.placed s := by
  obtain ⟨i, hi⟩ := List.mem_iff_getElem?.1 hs
  obtain ⟨hlt, rfl⟩ := List.getElem?_eq_some_iff.1 hi
  have hlt' : i < d.names.length := by rwa [names, List.length_map]
  have hname : d.names[i] = d.states[i].name := by simp only [names, List.getElem_map]
  have hidx : d.names.idxOf d.states[i].name = i := by
    rw [← hname]
    exact h.nodup.idxOf_getElem i hlt'
  rw [hidx, Arena.state, arena]
  simp [hlt]

end Description

end TransitionMap
