import TransitionMap.Proofs.Image.Format

/-!
# The order of the records of an image

The image of a table has its entries in the order of state and byte. An image file that is read need
not: reading takes the records as they come and checks each of them alone, so an image that comes
from a file is in order exactly when the file is.

* `Entry.sortByKey_eq_self_iff`: sorting changes nothing when entries without padding are in order;
* `Image.inOrder_ofEntries`: an image that is built is in order;
* `Image.inOrder_iff_rebuilt`: when an image that has been read, built again, is the same image, and
  when it has the same bytes;
* `Image.reads_out_of_order`: a file out of order is read as it is.
-/

namespace TransitionMap

namespace Entry

/-- In the order of state and byte. -/
def InOrder (entries : List Entry) : Prop :=
  entries.Pairwise fun d e =>
    d.key.state < e.key.state ∨ (d.key.state = e.key.state ∧ d.key.unit ≤ e.key.unit)

instance : DecidablePred InOrder := fun entries =>
  inferInstanceAs (Decidable (entries.Pairwise _))

end Entry

theorem Key.rank_le_of_state_lt_or {k l : Key} (hpadding : k.padding = l.padding)
    (h : k.state < l.state ∨ (k.state = l.state ∧ k.unit ≤ l.unit)) : k.rank ≤ l.rank := by
  have hk := k.unit.toNat_lt
  rw [UInt16.lt_iff_toNat_lt, ← UInt16.toNat_inj, UInt8.le_iff_toNat_le] at h
  simp only [rank, hpadding]
  omega

namespace Entry

theorem inOrder_sortByKey (entries : List Entry) : InOrder (sortByKey entries) :=
  (pairwise_sortByKey entries).imp Key.state_lt_or_of_rank_le

theorem sortByKey_eq_self_iff {entries : List Entry} (h : ∀ e ∈ entries, e.key.padding = 0) :
    sortByKey entries = entries ↔ InOrder entries := by
  refine ⟨fun hsame => hsame ▸ inOrder_sortByKey entries, fun hordered => ?_⟩
  refine List.mergeSort_of_pairwise (hordered.imp_of_mem fun {d e} hd he hle => ?_)
  exact decide_eq_true (Key.rank_le_of_state_lt_or ((h d hd).trans (h e he).symm) hle)

end Entry

namespace Image

open Entry

theorem inOrder_ofEntries (entries : List Entry) : InOrder (ofEntries entries).entries :=
  inOrder_sortByKey entries

theorem ofEntries_ofEntries (entries : List Entry) :
    ofEntries (ofEntries entries).entries = ofEntries entries :=
  congrArg Image.mk (sortByKey_sortByKey entries)

/-- Images of valid entries have the same bytes only if they are the same. -/
theorem toBytes_injective {image image' : Image} (few : image.entries.length < UInt32.size)
    (valid : ∀ e ∈ image.entries, e.Valid) (few' : image'.entries.length < UInt32.size)
    (valid' : ∀ e ∈ image'.entries, e.Valid) (h : image.toBytes = image'.toBytes) :
    image = image' := by
  have hread := ofBytes_toBytes few valid
  rw [h, ofBytes_toBytes few' valid'] at hread
  exact (Except.ok.inj hread).symm

/-- What a byte string that is read as an image must be. -/
theorem exists_file_of_ofBytes_eq_ok {bytes : Bytes} {image : Image}
    (h : ofBytes bytes = .ok image) :
    image.entries.length < UInt32.size ∧ (∀ e ∈ image.entries, e.Valid) ∧
      ∃ reserved : Bytes, reserved.length = 12 ∧ bytes = file reserved image.entries := by
  rcases exists_rejected_or_file bytes with ⟨e, he⟩ | ⟨entries, reserved, few, valid, hr, rfl⟩
  · rw [he.ofBytes_eq] at h
    cases h
  · rw [ofBytes_file few valid hr] at h
    cases h
    exact ⟨few, valid, reserved, hr, rfl⟩

/-- An image that is built is in the order of state and byte, and building it again changes nothing.
One that is read has the entries of the file in the order of the file. It is the same image when it
is built again, and has the bytes of the file but for the reserved ones, exactly when the file is in
that order. -/
theorem inOrder_iff_rebuilt {bytes : Bytes} {image : Image} (accepted : ofBytes bytes = .ok image) :
    (∀ entries, InOrder (ofEntries entries).entries ∧
      ofEntries (ofEntries entries).entries = ofEntries entries) ∧
    bytes.drop 32 = recordBytes image.entries ∧
    (InOrder image.entries ↔ ofEntries image.entries = image) ∧
    (InOrder image.entries ↔ (ofEntries image.entries).toBytes =
      bytes.take 20 ++ List.replicate 12 0 ++ bytes.drop 32) := by
  obtain ⟨few, valid, reserved, hr, rfl⟩ := exists_file_of_ofBytes_eq_ok accepted
  have hbytes : (file reserved image.entries).take 20 ++ List.replicate 12 0 ++
      (file reserved image.entries).drop 32 = image.toBytes := by
    rw [toBytes_eq_file, take_file, drop_file hr]
    rfl
  have hsame : ofEntries image.entries = image ↔ InOrder image.entries := by
    rw [← sortByKey_eq_self_iff fun e he => (valid e he).1, ofEntries]
    exact ⟨congrArg Image.entries, congrArg Image.mk⟩
  have hperm := perm_sortByKey image.entries
  refine ⟨fun entries => ⟨inOrder_ofEntries entries, ofEntries_ofEntries entries⟩, drop_file hr _,
    hsame.symm, ?_⟩
  rw [hbytes, ← hsame]
  refine ⟨congrArg Image.toBytes, toBytes_injective ?_ (fun e he => ?_) few valid⟩
  · exact Nat.lt_of_le_of_lt (Nat.le_of_eq hperm.length_eq) few
  · exact valid e (hperm.mem_iff.1 he)

/-- Two entries in order, in a file whose reserved bytes are not zero. -/
theorem rebuilt_of_ordered_pair :
    let entries : List Entry := [⟨⟨1, 0x61, 0⟩, ⟨0, 2⟩⟩, ⟨⟨2, 0x62, 0⟩, ⟨1, 0⟩⟩]
    let bytes := file (List.replicate 12 7) entries
    ofBytes bytes = .ok ⟨entries⟩ ∧ InOrder entries ∧ ofEntries entries = ⟨entries⟩ ∧
      (ofEntries entries).toBytes = bytes.take 20 ++ List.replicate 12 0 ++ bytes.drop 32 := by
  intro entries bytes
  have accepted : ofBytes bytes = .ok ⟨entries⟩ := ofBytes_file (by decide) (by decide) rfl
  have hordered : InOrder entries := by decide
  obtain ⟨-, -, himage, hbytes⟩ := inOrder_iff_rebuilt accepted
  exact ⟨accepted, hordered, himage.1 hordered, hbytes.1 hordered⟩

/-- Two entries out of order make an image file too. -/
theorem reads_out_of_order :
    let entries : List Entry := [⟨⟨2, 0x62, 0⟩, ⟨1, 0⟩⟩, ⟨⟨1, 0x61, 0⟩, ⟨0, 2⟩⟩]
    ofBytes (Image.mk entries).toBytes = .ok ⟨entries⟩ ∧ ¬ InOrder entries ∧
      ofEntries entries ≠ ⟨entries⟩ := by
  intro entries
  have hread : ofBytes (Image.mk entries).toBytes = .ok ⟨entries⟩ :=
    ofBytes_toBytes (by decide) (by decide)
  have hnot : ¬ InOrder entries := by decide
  refine ⟨hread, hnot, fun hsame => hnot ?_⟩
  have hsorted : (ofEntries entries).entries = entries := congrArg Image.entries hsame
  exact hsorted ▸ inOrder_ofEntries entries

end Image

end TransitionMap
