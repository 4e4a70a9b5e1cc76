import Mathlib.Data.List.Perm.Basic
import Mathlib.Data.Set.List
import TransitionMap.Proofs.Accepting
import TransitionMap.Proofs.Image.Format

/-!
# Tables collected for an image

A buffer yields its records in the order of their bytes. The first byte of a key is the low one of
its state, so the records of state 256 stand before those of state 1. But they are the entries that
have been written, each once (`ImageBuffer.perm_records`), and sorting them gives what sorting the
table gives (`ImageBuffer.toImage_of_written`). So the image of a planned table is that of its
entries (`Table.toImage_collected`).
-/

namespace TransitionMap

open LawfulStore

namespace Entry

theorem pair_injective : Function.Injective pair := by
  intro d e h
  obtain ⟨hkey, hvalue⟩ := Prod.mk.inj h
  have hread : some d.value = some e.value := by
    rw [← Value.read?_toBytes, ← Value.read?_toBytes, hvalue]
  cases d
  cases e
  rw [Entry.mk.injEq]
  exact ⟨Key.toBytes_injective hkey, Option.some.inj hread⟩

/-- Pairs in any order are those of entries in some order. -/
theorem exists_perm_of_perm_pair {pairs : List (Bytes × Bytes)} {entries : List Entry}
    (h : pairs.Perm (entries.map pair)) :
    ∃ listed : List Entry, pairs = listed.map pair ∧ listed.Perm entries := by
  have hrange : pairs ∈ Set.range (List.map pair) := by
    rw [Set.range_list_map]
    intro p hp
    obtain ⟨e, -, he⟩ := List.mem_map.1 (h.mem_iff.1 hp)
    exact ⟨e, he⟩
  obtain ⟨listed, rfl⟩ := hrange
  exact ⟨listed, rfl, (List.map_perm_map_iff pair_injective).1 h⟩

theorem valid_of_ofBytes_eq_ok {e f : Entry} (h : ofBytes e.key.toBytes e.value.toBytes = .ok f) :
    e.Valid := by
  by_contra hnot
  obtain ⟨cause, hfault⟩ := exists_fault hnot
  rw [ofBytes_of_fault hfault] at h
  cases h

end Entry

namespace ImageBuffer

/-! ## The buffer as a map -/

def get? (b : ImageBuffer) (key : Bytes) : Option Bytes := b.records[key]?

theorem get?_put (b : ImageBuffer) (key value k : Bytes) :
    (b.put key value).2.get? k =
      if (b.put key value).1.isOk = true ∧ k = key then some value else b.get? k := by
  by_cases hsizes : key.length = 4 ∧ value.length = 4
  · rw [b.put_eq hsizes.1 hsizes.2]
    by_cases h : k = key
    · subst h
      simp [get?, Except.isOk, Except.toBool]
    · simp [get?, h, Std.TreeMap.getElem?_insert, Ne.symm h]
  · have hrefused : ∃ e, b.put key value = (.error e, b) := by
      by_cases hkey : key.length = 4
      · have hvalue : value.length ≠ 4 := fun hvalue => hsizes ⟨hkey, hvalue⟩
        exact ⟨_, by rw [put, if_neg (not_not_intro hkey), if_pos hvalue]⟩
      · exact ⟨_, by rw [put, if_pos hkey]⟩
    obtain ⟨e, he⟩ := hrefused
    simp [he, Except.isOk, Except.toBool]

instance : LawfulStore ImageBuffer := ⟨ImageBuffer.get?, get?_put⟩

theorem get?_new (key : Bytes) : LawfulStore.get? new key = none := by
  simp [LawfulStore.get?, get?, new]

/-! ## Records and entries -/

variable {b : ImageBuffer} {entries : List Entry}

theorem perm_records (distinct : (entries.map Entry.key).Nodup)
    (written : Table.Written new entries [] b) :
    b.records.toList.Perm (entries.map Entry.pair) := by
  have hrecords : b.records.toList.Nodup := by
    refine b.records.distinct_keys_toList.imp fun hne heq => hne ?_
    rw [heq]
    exact Std.ReflCmp.compare_self
  have hpairs : (entries.map Entry.pair).Nodup :=
    (List.Nodup.of_map Entry.key distinct).map Entry.pair_injective
  -- Neither list repeats anything, so it is enough that they have the same members.
  refine (List.perm_ext_iff_of_nodup hrecords hpairs).2 fun ⟨key, value⟩ => ?_
  rw [Std.TreeMap.mem_toList_iff_getElem?_eq_some]
  constructor
  · intro hget
    by_cases hkey : ∃ e ∈ entries, e.key.toBytes = key
    · obtain ⟨e, he, rfl⟩ := hkey
      have hstored : b.records[e.key.toBytes]? = some e.value.toBytes :=
        written.get?_stored e he List.not_mem_nil
      obtain rfl := Option.some.inj (hstored.symm.trans hget)
      exact List.mem_map_of_mem he
    · have hkept := written.get?_kept key fun e he _ hbytes => hkey ⟨e, he, hbytes⟩
      rw [get?_new] at hkept
      have hnone : b.records[key]? = none := hkept
      rw [hnone] at hget
      cases hget
  · intro hmem
    obtain ⟨e, he, heq⟩ := List.mem_map.1 hmem
    obtain ⟨rfl, rfl⟩ := Prod.mk.inj heq
    exact written.get?_stored e he List.not_mem_nil

/-- The records of a buffer make an image when they are those of valid entries. -/
theorem toImage_eq_ok_iff {image : Image} (hrecords : b.records.toList = entries.map Entry.pair) :
    b.toImage = .ok image ↔ (∀ e ∈ entries, e.Valid) ∧ Image.ofEntries entries = image := by
  have htoImage : b.toImage = (((entries.map Entry.pair).zipIdx).mapM fun p =>
      (Entry.ofBytes p.1.1 p.1.2).mapError (ImageError.record p.2)).map Image.ofEntries := by
    rw [← hrecords]
    rfl
  have hread : ∀ read, ((entries.map Entry.pair).zipIdx).mapM (fun p =>
      (Entry.ofBytes p.1.1 p.1.2).mapError (ImageError.record p.2)) = .ok read ↔
        (∀ e ∈ entries, e.Valid) ∧ entries = read := fun read => by
    have hok : ∀ p : Entry × Nat, p.1.Valid →
        (Entry.ofBytes p.1.key.toBytes p.1.value.toBytes).mapError (ImageError.record p.2) =
          .ok p.1 := fun p hp => by
      rw [Entry.ofBytes_of_valid hp]
      rfl
    have hvalid : ∀ (p : Entry × Nat) (f : Entry),
        (Entry.ofBytes p.1.key.toBytes p.1.value.toBytes).mapError (ImageError.record p.2) =
          .ok f → p.1.Valid := fun p f hf => by
      cases hread : Entry.ofBytes p.1.key.toBytes p.1.value.toBytes with
      | error cause =>
        rw [hread] at hf
        cases hf
      | ok f => exact Entry.valid_of_ofBytes_eq_ok hread
    rw [List.zipIdx_map, List.mapM_map]
    refine (mapM_eq_ok_iff hok hvalid).trans ?_
    rw [← List.forall_mem_map (f := Prod.fst), List.zipIdx_map_fst]
  simp only [htoImage, map_eq_ok_iff, hread, and_assoc, exists_and_left, exists_eq_left']

/-- All records can be read, and their order does not matter. -/
theorem toImage_of_written (distinct : (entries.map Entry.key).Nodup)
    (valid : ∀ e ∈ entries, e.Valid) (written : Table.Written new entries [] b) :
    b.toImage = .ok (Image.ofEntries entries) := by
  obtain ⟨collected, hcollected, hperm⟩ :=
    Entry.exists_perm_of_perm_pair (perm_records distinct written)
  have hvalid : ∀ e ∈ collected, e.Valid := fun e he => valid e (hperm.mem_iff.1 he)
  have hsame : Image.ofEntries collected = Image.ofEntries entries :=
    congrArg Image.mk (Entry.sortByKey_eq_of_perm hperm.symm distinct).symm
  exact (toImage_eq_ok_iff hcollected).2 ⟨hvalid, hsame⟩

theorem size_of_written (distinct : (entries.map Entry.key).Nodup)
    (written : Table.Written new entries [] b) : b.size = entries.length := by
  rw [size, ← Std.TreeMap.length_toList, (perm_records distinct written).length_eq,
    List.length_map]

end ImageBuffer

variable {σ : Type} [DecidableEq σ] [Hashable σ] {a : Automaton σ} {maxStates : Nat}

theorem Automaton.valid_of_mem_entries {e : Entry} (h : e ∈ a.entries) : e.Valid := by
  obtain ⟨s, -, t, -, rfl⟩ := mem_entries.1 h
  refine ⟨rfl, ?_⟩
  simp only [entry, value]
  split <;> decide

namespace Key

theorem rank_lt (k : Key) : k.rank < 4294967296 := by
  have hstate := k.state.toNat_lt
  have hunit := k.unit.toNat_lt
  have hpadding := k.padding.toNat_lt
  rw [rank]
  omega

theorem rank_div_mul {k : Key} (h : k.padding = 0) : k.rank / 256 * 256 = k.rank := by
  have hzero : k.padding.toNat = 0 := by rw [h]; rfl
  rw [rank, hzero]
  omega

end Key

namespace Table

/-- The buffer that a table has been written to. -/
def collected (t : Table) : ImageBuffer := (writeEntries ImageBuffer.new {} t.entries).2

variable {t : Table} (planned : plan a maxStates = .ok t)
include planned

theorem distinct_of_plan : (t.entries.map Entry.key).Nodup := by
  obtain ⟨rfl, hsize, hdet⟩ := eq_of_plan_eq_ok planned
  exact Automaton.nodup_keys hsize hdet

theorem valid_of_plan : ∀ e ∈ t.entries, e.Valid := by
  obtain ⟨rfl, -, -⟩ := eq_of_plan_eq_ok planned
  exact fun e he => Automaton.valid_of_mem_entries he

/-- The keys of a table differ in state and byte, so a word of 32 bits can count them. -/
theorem few_of_plan : t.entries.length < UInt32.size := by
  have distinct := distinct_of_plan planned
  have valid := valid_of_plan planned
  have hplaces : (t.entries.map fun e => e.key.rank / 256).Nodup := by
    refine (List.Nodup.of_map Entry.key distinct).map_on fun d hd e he hplace => ?_
    have hrank : d.key.rank = e.key.rank := by
      rw [← Key.rank_div_mul (valid d hd).1, ← Key.rank_div_mul (valid e he).1, hplace]
    exact List.inj_on_of_nodup_map distinct hd he (Key.rank_injective hrank)
  have hsub : (t.entries.map fun e => e.key.rank / 256) ⊆ List.range 16777216 := by
    intro n hn
    obtain ⟨e, -, rfl⟩ := List.mem_map.1 hn
    have hlt := e.key.rank_lt
    exact List.mem_range.2 (by omega)
  have hle := (hplaces.subperm hsub).length_le
  rw [List.length_map, List.length_range] at hle
  exact Nat.lt_of_le_of_lt hle (by decide)

/-- The image of a planned table is read back from its bytes. -/
theorem ofBytes_image_of_plan :
    Image.ofBytes (Image.ofEntries t.entries).toBytes = .ok (Image.ofEntries t.entries) := by
  have hperm : (Image.ofEntries t.entries).entries.Perm t.entries := Entry.perm_sortByKey t.entries
  refine Image.ofBytes_toBytes ?_ fun e he => valid_of_plan planned e (hperm.mem_iff.1 he)
  rw [hperm.length_eq]
  exact few_of_plan planned

/-- A planned table is collected without a failure. -/
theorem compile_imageBuffer :
    compile a maxStates ImageBuffer.new = (.ok ⟨t.size, []⟩, t.collected) := by
  have hnone : (writeEntries ImageBuffer.new {} t.entries).1.failures = [] :=
    (writeEntries_of_accepting ImageBuffer.accepting trivial {} t.entries).1
  rw [compile_of_planned rfl planned, writeEntries_eq_of_failures hnone]
  rfl

theorem written_collected : Written ImageBuffer.new t.entries [] t.collected := by
  have layout : Store.checkLayout ImageBuffer.new = .ok () := rfl
  obtain ⟨buffer, hcompile, -, written⟩ :=
    compile_of_accepting ImageBuffer.accepting trivial layout planned
  rw [compile_imageBuffer planned] at hcompile
  obtain rfl : t.collected = buffer := congrArg Prod.snd hcompile
  exact written

theorem size_collected : t.collected.size = t.size :=
  ImageBuffer.size_of_written (distinct_of_plan planned) (written_collected planned)

theorem toImage_collected : t.collected.toImage = .ok (Image.ofEntries t.entries) :=
  ImageBuffer.toImage_of_written (distinct_of_plan planned) (valid_of_plan planned)
    (written_collected planned)

end Table

end TransitionMap
