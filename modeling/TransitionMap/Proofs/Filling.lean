import TransitionMap.Proofs.Accepting
import TransitionMap.Proofs.Accounting

/-!
# Writing to a map that may run full

A map in memory with a limit refuses a new key once the limit is reached, and goes on overwriting
the keys that it holds. Of some entries with distinct keys it loses those whose keys are new to it
(`MemoryStore.fresh`), but for the first ones, which the limit leaves room for (`MemoryStore.lost`).

* `MemoryStore.put_of_held`, `MemoryStore.put_of_room`, `MemoryStore.put_of_full`: the three ways in
  which a record can be taken or refused;
* `Table.filled_writeEntries`: what a run of writes loses, and how far it fills the map;
* `Table.leaves_writeEntries`: what the map holds after it;
* `Table.compile_loses_overflow`: so a compilation into a map loses exactly the overflow;
* `Table.compile_again`: compiling once more loses the same entries and changes nothing.
-/

namespace TransitionMap

theorem filter_mem_eq_of_sublist {α : Type} [DecidableEq α] {l l' : List α} (h : l.Sublist l')
    (hnodup : l'.Nodup) : l'.filter (· ∈ l) = l := by
  have hself : l.filter (· ∈ l) = l := List.filter_eq_self.2 fun a ha => decide_eq_true ha
  have hsub : l.Sublist (l'.filter (· ∈ l)) := by
    have hboth := h.filter (· ∈ l)
    rwa [hself] at hboth
  have hperm : (l'.filter (· ∈ l)).Perm l := by
    refine (List.perm_ext_iff_of_nodup (hnodup.filter _) (hnodup.sublist h)).2 fun a => ?_
    simpa using fun ha => h.subset ha
  exact (hsub.eq_of_length hperm.length_eq.symm).symm

namespace MemoryStore

/-- The entries whose keys a map does not hold, in their order. -/
def fresh (s : MemoryStore) (entries : List Entry) : List Entry :=
  entries.filter fun e => (s.get? e.key.toBytes).isNone

/-- The entries that a map has no room for. Its limit may be below the number of its pairs. -/
def lost (s : MemoryStore) (entries : List Entry) : List Entry :=
  match s.maxEntries with
  | none => []
  | some maxEntries => (s.fresh entries).drop (maxEntries - s.size)

/-- The notes of the entries that a map has no room for. -/
def overflow (s : MemoryStore) (entries : List Entry) : List WriteFailure :=
  match s.maxEntries with
  | none => []
  | some maxEntries => (s.lost entries).map fun e => ⟨e.key, .capacityExceeded maxEntries⟩

/-- A map with one more pair. -/
def stored (s : MemoryStore) (e : Entry) : MemoryStore :=
  { s with attempts := s.attempts + 1, records := s.records.insert e.key.toBytes e.value.toBytes }

/-- A map after a write that it has refused. -/
def asked (s : MemoryStore) : MemoryStore := { s with attempts := s.attempts + 1 }

variable {s : MemoryStore} {e : Entry} {rest : List Entry}

/-- Maps in which every key leads to the same value have the same pairs in the same order. -/
theorem entries_eq_of_get?_eq {t : MemoryStore} (h : ∀ key, s.get? key = t.get? key) :
    s.entries = t.entries := by
  have hequiv : s.records.Equiv t.records := .of_forall_constGet?_eq h
  exact hequiv.toList_eq

/-! ## One write -/

/-- A usable map refuses a record only because it is full. -/
theorem Usable.full_of_refuses (h : s.Usable) {error : StoreError}
    (refuses : s.Refuses e.key.toBytes e.value.toBytes error) :
    s.get? e.key.toBytes = none ∧ ∃ c, s.maxEntries = some c ∧ c ≤ s.size := by
  rcases refuses with shut | ⟨-, wrong⟩ | ⟨-, -, wrong⟩ | ⟨-, -, -, new, limited, reached⟩
  · exact absurd (h.closed.symm.trans shut) Bool.false_ne_true
  · exact absurd (e.key.length_toBytes.trans h.keySize.symm) wrong
  · exact absurd (e.value.length_toBytes.trans h.valueSize.symm) wrong
  · exact ⟨new, _, limited, reached⟩

theorem put_of_held (h : s.Usable) (held : s.get? e.key.toBytes ≠ none) :
    Store.put s e.key.toBytes e.value.toBytes = (.ok (), s.stored e) :=
  put_of_taken fun _ refuses => held (h.full_of_refuses refuses).1

theorem put_of_room (h : s.Usable) (room : ∀ c, s.maxEntries = some c → s.size < c) :
    Store.put s e.key.toBytes e.value.toBytes = (.ok (), s.stored e) := by
  refine put_of_taken fun _ refuses => ?_
  obtain ⟨-, c, limited, reached⟩ := h.full_of_refuses refuses
  exact Nat.not_le.2 (room c limited) reached

theorem put_of_full (h : s.Usable) (new : s.get? e.key.toBytes = none) {c : Nat}
    (hmax : s.maxEntries = some c) (full : c ≤ s.size) :
    Store.put s e.key.toBytes e.value.toBytes = (.error (.capacityExceeded c), s.asked) :=
  put_of_refuses (.full h.closed (e.key.length_toBytes.trans h.keySize.symm)
    (e.value.length_toBytes.trans h.valueSize.symm) new hmax full)

/-! ## What a write changes for the entries behind it -/

theorem size_stored_of_held (held : s.get? e.key.toBytes ≠ none) :
    (s.stored e).size = s.size := by
  have hcontains : s.records.contains e.key.toBytes = true := by
    rw [contains_eq]
    exact Option.isSome_iff_ne_none.2 held
  simp [stored, size, Std.TreeMap.size_insert, hcontains]

theorem size_stored_of_new (new : s.get? e.key.toBytes = none) :
    (s.stored e).size = s.size + 1 := by
  have hcontains : s.records.contains e.key.toBytes = false := by
    rw [contains_eq, new]
    rfl
  simp [stored, size, Std.TreeMap.size_insert, hcontains]

theorem fresh_stored (hkey : e.key ∉ rest.map Entry.key) :
    (s.stored e).fresh rest = s.fresh rest := by
  refine List.filter_congr fun f hf => ?_
  have hne : e.key.toBytes ≠ f.key.toBytes := fun heq =>
    hkey (Key.toBytes_injective heq ▸ List.mem_map_of_mem hf)
  simp [get?, stored, Std.TreeMap.getElem?_insert, hne]

theorem fresh_cons_of_held (held : s.get? e.key.toBytes ≠ none) :
    s.fresh (e :: rest) = s.fresh rest := by
  have hsome : (s.get? e.key.toBytes).isNone = false := by
    rw [Option.isNone_eq_false_iff]
    exact Option.isSome_iff_ne_none.2 held
  simp [fresh, hsome]

theorem fresh_cons_of_new (new : s.get? e.key.toBytes = none) :
    s.fresh (e :: rest) = e :: s.fresh rest := by
  simp [fresh, new]

/-! ## What a write leaves to be lost -/

theorem lost_cons_of_held (held : s.get? e.key.toBytes ≠ none)
    (hkey : e.key ∉ rest.map Entry.key) : s.lost (e :: rest) = (s.stored e).lost rest := by
  have hmax : (s.stored e).maxEntries = s.maxEntries := rfl
  simp only [lost, hmax, fresh_cons_of_held held, fresh_stored hkey, size_stored_of_held held]

theorem lost_cons_of_room (new : s.get? e.key.toBytes = none)
    (room : ∀ c, s.maxEntries = some c → s.size < c) (hkey : e.key ∉ rest.map Entry.key) :
    s.lost (e :: rest) = (s.stored e).lost rest := by
  have hmax : (s.stored e).maxEntries = s.maxEntries := rfl
  simp only [lost, hmax, fresh_cons_of_new new, fresh_stored hkey, size_stored_of_new new]
  cases hlimit : s.maxEntries with
  | none => rfl
  | some c =>
    have hlt := room c hlimit
    have hleft : c - s.size = (c - (s.size + 1)) + 1 := by omega
    simp only [hleft, List.drop_succ_cons]

theorem lost_cons_of_full (new : s.get? e.key.toBytes = none) {c : Nat}
    (hmax : s.maxEntries = some c) (full : c ≤ s.size) :
    s.lost (e :: rest) = e :: s.asked.lost rest := by
  have hmax' : s.asked.maxEntries = some c := hmax
  have hsize : s.asked.size = s.size := rfl
  have hfresh : s.asked.fresh rest = s.fresh rest := rfl
  have hleft : c - s.size = 0 := by omega
  simp [lost, hmax, hmax', hsize, hfresh, hleft, fresh_cons_of_new new]

theorem overflow_eq_of_lost_eq {t : MemoryStore} {entries entries' : List Entry}
    (hmax : t.maxEntries = s.maxEntries) (hlost : s.lost entries = t.lost entries') :
    s.overflow entries = t.overflow entries' := by
  simp only [overflow, hmax, hlost]

theorem overflow_of_limit {entries : List Entry} {c : Nat} (hmax : s.maxEntries = some c) :
    s.overflow entries = (s.lost entries).map fun e => ⟨e.key, .capacityExceeded c⟩ := by
  simp only [overflow, hmax]

theorem keys_overflow (s : MemoryStore) (entries : List Entry) :
    (s.overflow entries).map WriteFailure.key = (s.lost entries).map Entry.key := by
  unfold overflow
  cases hmax : s.maxEntries with
  | none => simp [lost, hmax]
  | some c => simp

theorem lost_sublist (s : MemoryStore) (entries : List Entry) :
    (s.lost entries).Sublist (s.fresh entries) := by
  unfold lost
  cases s.maxEntries with
  | none => exact List.nil_sublist _
  | some c => exact List.drop_sublist _ _

end MemoryStore

namespace Table

variable {s : MemoryStore} {entries : List Entry}

open MemoryStore

/-! ## A run of writes -/

/-- What a run of writes comes to: it notes the overflow, counts every write, and changes nothing
but the pairs of the map, which grows by the fresh entries that are not lost. -/
structure Filled (s : MemoryStore) (entries : List Entry) (failures : List WriteFailure)
    (s' : MemoryStore) : Prop where
  failures : failures = s.overflow entries
  store : s' = { s with records := s'.records, attempts := s.attempts + entries.length }
  size : s'.size + (s.lost entries).length = s.size + (s.fresh entries).length

section Step

variable {e : Entry} {rest : List Entry} {failures : List WriteFailure} {s' : MemoryStore}

theorem Filled.cons_stored (hlost : s.lost (e :: rest) = (s.stored e).lost rest)
    (hsize : (s.stored e).size + ((s.stored e).fresh rest).length =
      s.size + (s.fresh (e :: rest)).length)
    (h : Filled (s.stored e) rest failures s') : Filled s (e :: rest) failures s' where
  failures := by
    have hmax : (s.stored e).maxEntries = s.maxEntries := rfl
    rw [overflow_eq_of_lost_eq hmax hlost]
    exact h.failures
  store := by
    rw [List.length_cons, Nat.add_comm rest.length, ← Nat.add_assoc]
    exact h.store
  size := by
    rw [hlost, h.size, hsize]

theorem Filled.cons_asked (new : s.get? e.key.toBytes = none) {c : Nat}
    (hmax : s.maxEntries = some c) (full : c ≤ s.size)
    (h : Filled s.asked rest failures s') :
    Filled s (e :: rest) (⟨e.key, .capacityExceeded c⟩ :: failures) s' where
  failures := by
    have hmax' : s.asked.maxEntries = some c := hmax
    rw [overflow_of_limit hmax, lost_cons_of_full new hmax full, List.map_cons,
      ← overflow_of_limit hmax', h.failures]
  store := by
    rw [List.length_cons, Nat.add_comm rest.length, ← Nat.add_assoc]
    exact h.store
  size := by
    have hsize : s'.size + (s.asked.lost rest).length = s.size + (s.fresh rest).length := h.size
    rw [lost_cons_of_full new hmax full, fresh_cons_of_new new, List.length_cons, List.length_cons]
    omega

end Step

theorem Filled.maxEntries {failures : List WriteFailure} {s' : MemoryStore}
    (h : Filled s entries failures s') : s'.maxEntries = s.maxEntries := by
  rw [h.store]

theorem Filled.usable {failures : List WriteFailure} {s' : MemoryStore}
    (h : Filled s entries failures s') (usable : s.Usable) : s'.Usable := by
  rw [h.store]
  exact ⟨usable.closed, usable.keySize, usable.valueSize⟩

theorem filled_writeEntries (h : s.Usable) (tally : Tally)
    (hkeys : (entries.map Entry.key).Nodup) :
    ∃ failures, (writeEntries s tally entries).1.failures = tally.refused.reverse ++ failures ∧
      Filled s entries failures (writeEntries s tally entries).2 := by
  induction entries generalizing s tally with
  | nil =>
    have hlost : s.lost [] = [] := List.sublist_nil.1 (s.lost_sublist [])
    have hnone : s.overflow [] = [] := by
      unfold overflow
      rw [hlost]
      cases s.maxEntries <;> rfl
    exact ⟨[], by simp [writeEntries], hnone.symm, rfl, by simp [writeEntries, hlost, fresh]⟩
  | cons e rest ih =>
    obtain ⟨hkey, hkeys⟩ := List.nodup_cons.1 hkeys
    have hstored : (s.stored e).Usable := ⟨h.closed, h.keySize, h.valueSize⟩
    have hasked : s.asked.Usable := ⟨h.closed, h.keySize, h.valueSize⟩
    rw [writeEntries]
    -- a key that is held is overwritten, a new one needs room
    by_cases new : s.get? e.key.toBytes = none
    · by_cases room : ∀ c, s.maxEntries = some c → s.size < c
      · obtain ⟨failures, hfst, hfilled⟩ := ih hstored (tally.add e.key (.ok ())) hkeys
        rw [put_of_room h room]
        refine ⟨failures, hfst, hfilled.cons_stored (lost_cons_of_room new room hkey) ?_⟩
        rw [size_stored_of_new new, fresh_stored hkey, fresh_cons_of_new new, List.length_cons]
        omega
      · push Not at room
        obtain ⟨c, hmax, full⟩ := room
        obtain ⟨failures, hfst, hfilled⟩ :=
          ih hasked (tally.add e.key (.error (.capacityExceeded c))) hkeys
        rw [put_of_full h new hmax full]
        exact ⟨_, by simp [hfst], hfilled.cons_asked new hmax full⟩
    · obtain ⟨failures, hfst, hfilled⟩ := ih hstored (tally.add e.key (.ok ())) hkeys
      rw [put_of_held h new]
      refine ⟨failures, hfst, hfilled.cons_stored (lost_cons_of_held new hkey) ?_⟩
      rw [size_stored_of_held new, fresh_stored hkey, fresh_cons_of_held new]

/-! ## What the map holds -/

theorem mem_of_mem_lost {e : Entry} (h : e ∈ s.lost entries) :
    e ∈ entries ∧ s.get? e.key.toBytes = none := by
  have hfresh := (s.lost_sublist entries).subset h
  rw [fresh, List.mem_filter, Option.isNone_iff_eq_none] at hfresh
  exact hfresh

/-- What a map holds after a run of writes: the entries that are not lost, and what it held under
other keys. -/
structure Leaves (s : MemoryStore) (entries : List Entry) (s' : MemoryStore) : Prop where
  lost : ∀ e ∈ s.lost entries, s'.get? e.key.toBytes = none
  stored : ∀ e ∈ entries, e ∉ s.lost entries → s'.get? e.key.toBytes = some e.value.toBytes
  kept : ∀ key, (∀ e ∈ entries, e.key.toBytes ≠ key) → s'.get? key = s.get? key

theorem leaves_writeEntries (h : s.Usable) (tally : Tally)
    (hkeys : (entries.map Entry.key).Nodup) :
    Leaves s entries (writeEntries s tally entries).2 := by
  obtain ⟨failures, hfst, filled⟩ := filled_writeEntries h tally hkeys
  obtain ⟨failures', hfst', written⟩ := written_writeEntries s tally hkeys
  obtain rfl : failures' = failures := List.append_cancel_left (hfst'.symm.trans hfst)
  have hsame : ∀ e ∈ entries, ∀ f ∈ entries, e.key = f.key → e = f :=
    fun e he f hf => List.inj_on_of_nodup_map hkeys he hf
  have hfailed : ∀ e ∈ entries, e.key ∉ failures'.map WriteFailure.key ↔ e ∉ s.lost entries := by
    intro e he
    rw [filled.failures, keys_overflow, not_iff_not]
    constructor
    · intro hmem
      obtain ⟨f, hf, hkey⟩ := List.mem_map.1 hmem
      rwa [← hsame f (mem_of_mem_lost hf).1 e he hkey]
    · exact List.mem_map_of_mem
  refine ⟨fun e hlost => ?_, fun e he hnot => ?_, fun key hkey => ?_⟩
  · obtain ⟨he, hnone⟩ := mem_of_mem_lost hlost
    rw [← hnone]
    refine written.get?_kept _ fun f hf hnot hbytes => ?_
    rw [hfailed f hf, hsame f hf e he (Key.toBytes_injective hbytes)] at hnot
    exact hnot hlost
  · exact written.get?_stored e he ((hfailed e he).2 hnot)
  · exact written.get?_kept key fun e he _ => hkey e he

section Leaves

variable {s' : MemoryStore}

/-- A key that is held has been held before, or is that of an entry that is not lost. -/
theorem Leaves.held (h : Leaves s entries s') {key : Bytes} (hheld : s'.get? key ≠ none) :
    s.get? key ≠ none ∨ ∃ e ∈ entries, e ∉ s.lost entries ∧ e.key.toBytes = key := by
  by_cases hkey : ∃ e ∈ entries, e.key.toBytes = key
  · obtain ⟨e, he, rfl⟩ := hkey
    by_cases hlost : e ∈ s.lost entries
    · exact absurd (h.lost e hlost) hheld
    · exact .inr ⟨e, he, hlost, rfl⟩
  · push Not at hkey
    rw [h.kept key hkey] at hheld
    exact .inl hheld

/-- To the map that a run of writes leaves, the lost entries are the fresh ones. -/
theorem Leaves.fresh_eq (h : Leaves s entries s') (hentries : entries.Nodup) :
    s'.fresh entries = s.lost entries := by
  have hsub : (s.lost entries).Sublist entries :=
    (s.lost_sublist entries).trans List.filter_sublist
  have hlost : ∀ e ∈ entries, (s'.get? e.key.toBytes).isNone = decide (e ∈ s.lost entries) := by
    intro e he
    by_cases hmem : e ∈ s.lost entries
    · simp [h.lost e hmem, hmem]
    · simp [h.stored e he hmem, hmem]
  rw [fresh, List.filter_congr hlost]
  exact filter_mem_eq_of_sublist hsub hentries

/-- The limit is reached once something is lost, so that the same entries are lost again. -/
theorem Leaves.lost_eq {failures : List WriteFailure} (h : Leaves s entries s')
    (filled : Filled s entries failures s') (hentries : entries.Nodup) :
    s'.lost entries = s.lost entries := by
  have hmax : s'.maxEntries = s.maxEntries := filled.maxEntries
  have hsize := filled.size
  have hfresh := h.fresh_eq hentries
  cases hlimit : s.maxEntries with
  | none => simp [MemoryStore.lost, hmax, hlimit]
  | some c =>
    have hlost : s.lost entries = (s.fresh entries).drop (c - s.size) := by
      simp only [MemoryStore.lost, hlimit]
    have hlost' : s'.lost entries = (s.lost entries).drop (c - s'.size) := by
      simp only [MemoryStore.lost, hmax, hlimit, hfresh]
    rw [hlost']
    by_cases hnil : s.lost entries = []
    · rw [hnil, List.drop_nil]
    · have hpos := List.length_pos_iff.2 hnil
      have hlength := congrArg List.length hlost
      rw [List.length_drop] at hlength
      have hfull : c - s'.size = 0 := by omega
      rw [hfull, List.drop_zero]

/-- Another run of the same writes leaves what the first one has left. -/
theorem Leaves.get?_again {s'' : MemoryStore} (h : Leaves s entries s')
    (h' : Leaves s' entries s'') (hlost : s'.lost entries = s.lost entries) (key : Bytes) :
    s''.get? key = s'.get? key := by
  by_cases hkey : ∃ e ∈ entries, e.key.toBytes = key
  · obtain ⟨e, he, rfl⟩ := hkey
    by_cases hmem : e ∈ s.lost entries
    · rw [h.lost e hmem, h'.lost e (hlost ▸ hmem)]
    · rw [h.stored e he hmem, h'.stored e he (hlost ▸ hmem)]
  · push Not at hkey
    exact h'.kept key hkey

end Leaves

/-! ## Compilations -/

variable {σ : Type} [DecidableEq σ] [Hashable σ]

theorem compile_filling {a : Automaton σ} {maxStates : Nat} {store : MemoryStore}
    (usable : store.Usable) {table : Table} (planned : plan a maxStates = .ok table) :
    ∃ store', compile a maxStates store =
        (.ok ⟨table.size, store.overflow table.entries⟩, store') ∧
      Filled store table.entries (store.overflow table.entries) store' ∧
      Leaves store table.entries store' := by
  have layout : Store.checkLayout store = .ok () := checkLayout_eq_ok_iff.2 usable
  obtain ⟨rfl, hsize, hdet⟩ := eq_of_plan_eq_ok planned
  have hkeys := Automaton.nodup_keys hsize hdet
  obtain ⟨failures, hfst, filled⟩ := filled_writeEntries usable {} hkeys
  obtain rfl := filled.failures
  rw [List.reverse_nil, List.nil_append] at hfst
  have hsummary := writeEntries_eq_of_failures hfst
  refine ⟨(writeEntries store {} a.entries).2, ?_, filled, leaves_writeEntries usable {} hkeys⟩
  rw [compile_of_planned layout planned, hsummary]
  rfl

/-- A compilation into a map with a limit loses the planned entries with new keys but for as many of
them, in the order of the table, as the limit leaves room for, each because of the limit. All other
entries are stored. Other keys keep what they hold, and nothing else appears. Every entry counts as
one attempt, and nothing else of the map changes. -/
theorem compile_loses_overflow (a : Automaton σ) (maxStates : Nat) (store : MemoryStore)
    (isOpen : store.closed = false) (keySize : store.keySize = 4) (valueSize : store.valueSize = 4)
    {table : Table} (planned : plan a maxStates = .ok table) :
    ∃ store', compile a maxStates store =
        (.ok ⟨table.size, store.overflow table.entries⟩, store') ∧
      (∀ e ∈ store.lost table.entries, store'.get? e.key.toBytes = none) ∧
      (∀ e ∈ table.entries, e ∉ store.lost table.entries →
        store'.get? e.key.toBytes = some e.value.toBytes) ∧
      (∀ key, (∀ e ∈ table.entries, e.key.toBytes ≠ key) →
        store'.get? key = store.get? key) ∧
      (∀ key, store'.get? key ≠ none → store.get? key ≠ none ∨
        ∃ e ∈ table.entries, e ∉ store.lost table.entries ∧ e.key.toBytes = key) ∧
      store' =
        { store with records := store'.records, attempts := store.attempts + table.size } := by
  have usable : store.Usable := ⟨isOpen, keySize, valueSize⟩
  obtain ⟨store', hcompile, filled, leaves⟩ := compile_filling usable planned
  exact ⟨store', hcompile, leaves.lost, leaves.stored, leaves.kept, fun key => leaves.held,
    filled.store⟩

/-- The map holds a key of the table and one that is none, and has room for one of two new ones. -/
theorem compile_loses_last_of_two_new :
    let a := (Arena.mk #[⟨none, false, [(97, 1), (98, 1)]⟩, ⟨none, true, [(97, 0)]⟩] 0).toAutomaton
    let store := ((MemoryStore.new.put [0, 0, 97, 0] [0, 0, 7, 0]).2.put [9, 0, 97, 0]
      [0, 0, 8, 0]).2.withMaxEntries 3
    ∃ store', compile a 10 store = (.ok ⟨3, [⟨⟨1, 97, 0⟩, .capacityExceeded 3⟩]⟩, store') ∧
      store'.get? [0, 0, 97, 0] = some [1, 0, 1, 0] ∧
      store'.get? [0, 0, 98, 0] = some [1, 0, 1, 0] ∧
      store'.get? [1, 0, 97, 0] = none ∧
      store'.get? [9, 0, 97, 0] = some [0, 0, 8, 0] ∧ store'.attempts = 5 := by
  intro a store
  have planned : plan a 10 = .ok
      ⟨[⟨⟨0, 97, 0⟩, ⟨1, 1⟩⟩, ⟨⟨0, 98, 0⟩, ⟨1, 1⟩⟩, ⟨⟨1, 97, 0⟩, ⟨0, 0⟩⟩], 2⟩ := by
    simp only [a]
    cbv
  obtain ⟨store', hcompile, hlost, hstored, hkept, -, hrest⟩ :=
    compile_loses_overflow a 10 store rfl rfl rfl planned
  have hlast : store.lost [⟨⟨0, 97, 0⟩, ⟨1, 1⟩⟩, ⟨⟨0, 98, 0⟩, ⟨1, 1⟩⟩, ⟨⟨1, 97, 0⟩, ⟨0, 0⟩⟩] =
      [⟨⟨1, 97, 0⟩, ⟨0, 0⟩⟩] := rfl
  simp only [hlast] at hlost hstored
  refine ⟨store', hcompile, hstored ⟨⟨0, 97, 0⟩, ⟨1, 1⟩⟩ (by simp) (by decide),
    hstored ⟨⟨0, 98, 0⟩, ⟨1, 1⟩⟩ (by simp) (by decide), hlost ⟨⟨1, 97, 0⟩, ⟨0, 0⟩⟩ (by simp),
    hkept [9, 0, 97, 0] (by decide), ?_⟩
  rw [hrest]
  rfl

/-- Compiling into a map in memory once more, whatever the map is like, gives the same answer, with
the same failures in the same order, and leaves the pairs of the map as they are. -/
theorem compile_again (a : Automaton σ) (maxStates : Nat) (store : MemoryStore) :
    let first := compile a maxStates store
    let second := compile a maxStates first.2
    second.1 = first.1 ∧ second.2.entries = first.2.entries ∧
      ∀ key, second.2.get? key = first.2.get? key := by
  intro first second
  -- an aborted compilation leaves the store as it was, and so does the next one
  have habort : first.2 = store → second.1 = first.1 ∧ second.2.entries = first.2.entries ∧
      ∀ key, second.2.get? key = first.2.get? key := by
    intro hstore
    have hsame : second = first := by simp only [second, hstore, first]
    rw [hsame]
    exact ⟨rfl, rfl, fun key => rfl⟩
  cases hlayout : Store.checkLayout store with
  | error c => exact habort (congrArg Prod.snd (compile_of_refused hlayout))
  | ok =>
    cases planned : plan a maxStates with
    | error e => exact habort (congrArg Prod.snd (compile_of_unplanned hlayout planned))
    | ok table =>
      have usable := checkLayout_eq_ok_iff.1 hlayout
      obtain ⟨store', hfirst, filled, leaves⟩ := compile_filling usable planned
      obtain ⟨store'', hsecond, -, leaves'⟩ := compile_filling (filled.usable usable) planned
      have hdistinct : table.entries.Nodup := by
        obtain ⟨rfl, hsize, hdet⟩ := eq_of_plan_eq_ok planned
        exact List.Nodup.of_map Entry.key (Automaton.nodup_keys hsize hdet)
      have hlost : store'.lost table.entries = store.lost table.entries :=
        leaves.lost_eq filled hdistinct
      have hoverflow : store'.overflow table.entries = store.overflow table.entries :=
        overflow_eq_of_lost_eq filled.maxEntries.symm hlost
      have hget : ∀ key, store''.get? key = store'.get? key := leaves.get?_again leaves' hlost
      have hone : first = (.ok ⟨table.size, store.overflow table.entries⟩, store') := hfirst
      have htwo : second = (.ok ⟨table.size, store.overflow table.entries⟩, store'') := by
        simp only [second, hone]
        rw [hsecond, hoverflow]
      rw [hone, htwo]
      exact ⟨rfl, entries_eq_of_get?_eq hget, hget⟩

end Table

end TransitionMap
