import TransitionMap.Proofs.Image.Burst
import TransitionMap.Proofs.Image.Format

/-!
# Damaged images

A change within four bytes of an image file cannot go unnoticed. If it changes a record, it leaves
the checksum in the header alone, which is twelve bytes away (`Image.Damaged.take_eq`), and the
records have another checksum (`Image.Damaged.checksum_drop_ne`). If it changes no record, then the
first twenty bytes are no longer those that go with the records. Either way no image file comes out
(`Image.Damaged.ne_file`). A file that lost its end or got a longer one has too few or too many
records for its header (`Image.ofBytes_of_length`).
-/

namespace TransitionMap.Image

/-- A byte string that has been changed within four bytes, and not only in what an image file
reserves. -/
structure Damaged (bytes damaged : Bytes) : Prop where
  length_eq : damaged.length = bytes.length
  window : ∃ start, ∀ i, damaged[i]? ≠ bytes[i]? → start ≤ i ∧ i < start + 4
  seen : ∃ i, damaged[i]? ≠ bytes[i]? ∧ ¬ (20 ≤ i ∧ i < 32)

namespace Damaged

variable {bytes damaged : Bytes}

/-- Damage that spares the front of a file is in the records. -/
theorem drop_ne (h : Damaged bytes damaged) (htake : damaged.take 20 = bytes.take 20) :
    damaged.drop 32 ≠ bytes.drop 32 := by
  intro hdrop
  obtain ⟨i, hdiffer, hi⟩ := h.seen
  apply hdiffer
  by_cases hlow : i < 20
  · rw [← List.getElem?_take_of_lt hlow, htake, List.getElem?_take_of_lt hlow]
  · obtain ⟨k, rfl⟩ := Nat.exists_eq_add_of_le (show 32 ≤ i by omega)
    rw [← List.getElem?_drop, hdrop, List.getElem?_drop]

/-- Damage in the records spares the front of a file. -/
theorem take_eq (h : Damaged bytes damaged) (hdrop : damaged.drop 32 ≠ bytes.drop 32) :
    damaged.take 20 = bytes.take 20 := by
  obtain ⟨start, hwindow⟩ := h.window
  have hstart : 20 ≤ start := by
    by_contra hlow
    apply hdrop
    apply List.ext_getElem?
    intro i
    rw [List.getElem?_drop, List.getElem?_drop]
    by_contra hdiffer
    have hplace := hwindow (32 + i) hdiffer
    omega
  apply List.ext_getElem?
  intro i
  rw [List.getElem?_take, List.getElem?_take]
  split
  case isFalse => rfl
  case isTrue hi =>
    by_contra hdiffer
    have hplace := hwindow i hdiffer
    omega

theorem checksum_drop_ne (h : Damaged bytes damaged) (hdrop : damaged.drop 32 ≠ bytes.drop 32) :
    checksum (damaged.drop 32) ≠ checksum (bytes.drop 32) := by
  obtain ⟨start, hwindow⟩ := h.window
  have hlength : (damaged.drop 32).length = (bytes.drop 32).length := by
    rw [List.length_drop, List.length_drop, h.length_eq]
  apply checksum_ne_of_window hlength hdrop (start - 32)
  intro i hdiffer
  rw [List.getElem?_drop, List.getElem?_drop] at hdiffer
  have hplace := hwindow (32 + i) hdiffer
  omega

end Damaged

/-! ## Fronts -/

theorem front_eq_of_recordBytes_eq {entries others : List Entry}
    (h : recordBytes entries = recordBytes others) : front entries = front others := by
  have hcount : entries.length = others.length := by
    have hlength := congrArg List.length h
    rw [length_recordBytes, length_recordBytes] at hlength
    omega
  simp only [front, h, hcount]

theorem checksum_eq_of_front_eq {entries others : List Entry} (h : front entries = front others) :
    checksum (recordBytes entries) = checksum (recordBytes others) := by
  have hword : Bytes.ofWord32 (checksum (recordBytes entries)) =
      Bytes.ofWord32 (checksum (recordBytes others)) :=
    congrArg (fun bytes => (bytes.drop 8).take 4) h
  exact Bytes.ofWord32_injective hword

/-! ## Rejected files -/

/-- A damaged image file is none of other entries. -/
theorem Damaged.ne_file {entries others : List Entry} {reserved reserved' damaged : Bytes}
    (h : Damaged (file reserved entries) damaged) (hreserved : reserved.length = 12)
    (hreserved' : reserved'.length = 12) : damaged ≠ file reserved' others := by
  rintro rfl
  by_cases hdrop : (file reserved' others).drop 32 = (file reserved entries).drop 32
  case pos =>
    have htake : (file reserved' others).take 20 = (file reserved entries).take 20 := by
      rw [drop_file hreserved, drop_file hreserved'] at hdrop
      rw [take_file, take_file]
      exact front_eq_of_recordBytes_eq hdrop
    exact h.drop_ne htake hdrop
  case neg =>
    have htake := h.take_eq hdrop
    rw [take_file, take_file] at htake
    have hsum := h.checksum_drop_ne hdrop
    rw [drop_file hreserved, drop_file hreserved'] at hsum
    exact hsum (checksum_eq_of_front_eq htake)

theorem Damaged.exists_error {entries : List Entry} {reserved damaged : Bytes}
    (h : Damaged (file reserved entries) damaged) (hreserved : reserved.length = 12) :
    ∃ e, ofBytes damaged = .error e := by
  rcases exists_rejected_or_file damaged with ⟨e, he⟩ | ⟨others, reserved', -, -, hr, hfile⟩
  · exact ⟨e, he.ofBytes_eq⟩
  · exact absurd hfile (h.ne_file hreserved hr)

/-- Records that do not have the checksum that the front of the file says. -/
theorem ofBytes_of_checksum {entries : List Entry} (few : entries.length < UInt32.size)
    {bytes : Bytes} (hlength : bytes.length = 32 + entries.length * 8)
    (hfront : bytes.take 20 = front entries)
    (hsum : checksum (bytes.drop 32) ≠ checksum (recordBytes entries)) :
    ofBytes bytes =
      .error (.checksum (checksum (recordBytes entries)) (checksum (bytes.drop 32))) := by
  have hreserved : ((bytes.drop 20).take 12).length = 12 := by
    rw [List.length_take, List.length_drop]
    omega
  have hsplit : bytes =
      (headerOf ((bytes.drop 20).take 12) entries).toBytes ++ bytes.drop 32 := by
    calc bytes
        = bytes.take 20 ++ ((bytes.drop 20).take 12 ++ (bytes.drop 20).drop 12) := by
          rw [List.take_append_drop, List.take_append_drop]
      _ = (headerOf ((bytes.drop 20).take 12) entries).toBytes ++ bytes.drop 32 := by
          rw [toBytes_headerOf, hfront, List.drop_drop, List.append_assoc]
  have hcount : (bytes.drop 32).length =
      (headerOf ((bytes.drop 20).take 12) entries).entryCount.toNat * 8 := by
    rw [toNat_entryCount few, List.length_drop]
    omega
  have hrejected := Rejected.checksum (supported_headerOf hreserved entries) hcount hsum
  rw [← hsplit] at hrejected
  exact hrejected.ofBytes_eq

/-- A file whose length is not the one that its header declares. -/
theorem ofBytes_of_length {entries : List Entry} (few : entries.length < UInt32.size)
    {reserved : Bytes} (hreserved : reserved.length = 12) {bytes : Bytes}
    (hheader : (headerOf reserved entries).toBytes <+: bytes)
    (hlength : bytes.length ≠ 32 + entries.length * 8) :
    ofBytes bytes = .error (.sizeMismatch (UInt32.ofNat entries.length) (bytes.length - 32)) := by
  have hsupported := supported_headerOf hreserved entries
  obtain ⟨records, rfl⟩ := hheader
  rw [List.length_append, Header.length_toBytes hsupported.sized] at hlength ⊢
  have hcount : records.length ≠ (headerOf reserved entries).entryCount.toNat * 8 := by
    rw [toNat_entryCount few]
    omega
  rw [(Rejected.count hsupported hcount).ofBytes_eq, Nat.add_sub_cancel_left]
  rfl

theorem ofBytes_of_prefix {entries : List Entry} (few : entries.length < UInt32.size)
    {reserved : Bytes} (hreserved : reserved.length = 12) {part : Bytes}
    (hpart : part <+: file reserved entries) (hne : part ≠ file reserved entries) :
    ofBytes part = .error (if part.length < 32 then .fileTooSmall part.length
      else .sizeMismatch (UInt32.ofNat entries.length) (part.length - 32)) := by
  split
  case isTrue hshort => exact (Rejected.short hshort).ofBytes_eq
  case isFalse hshort =>
    have hlength : part.length ≠ 32 + entries.length * 8 := by
      rw [← length_file hreserved]
      exact fun h => hne (hpart.eq_of_length h)
    -- What is left of the file has the whole header.
    have hheader : (headerOf reserved entries).toBytes <+: part := by
      rw [file_eq] at hpart
      apply List.prefix_of_prefix_length_le (List.prefix_append _ _) hpart
      rw [Header.length_toBytes (supported_headerOf hreserved entries).sized]
      exact Nat.le_of_not_lt hshort
    exact ofBytes_of_length few hreserved hheader hlength

theorem ofBytes_of_extra {entries : List Entry} (few : entries.length < UInt32.size)
    {reserved : Bytes} (hreserved : reserved.length = 12) {extra : Bytes} (hextra : extra ≠ []) :
    ofBytes (file reserved entries ++ extra) =
      .error (.sizeMismatch (UInt32.ofNat entries.length)
        ((file reserved entries ++ extra).length - 32)) := by
  have hheader : (headerOf reserved entries).toBytes <+: file reserved entries ++ extra := by
    rw [file_eq, List.append_assoc]
    exact List.prefix_append _ _
  have hlength : (file reserved entries ++ extra).length ≠ 32 + entries.length * 8 := by
    have hpos := List.length_pos_iff.2 hextra
    rw [List.length_append, length_file hreserved]
    omega
  exact ofBytes_of_length few hreserved hheader hlength

/-- The image of a table is not accepted any more when it has been changed within four bytes, not
all of them reserved, has lost bytes at its end or has got more. When the change spares the first
twenty bytes it is the checksum that tells. -/
theorem ofBytes_rejects_damage (entries : List Entry) (few : entries.length < UInt32.size) :
    let bytes := (ofEntries entries).toBytes
    (∀ damaged, Damaged bytes damaged →
      (∃ e, ofBytes damaged = .error e) ∧
      (damaged.take 20 = bytes.take 20 →
        ofBytes damaged =
          .error (.checksum (checksum (bytes.drop 32)) (checksum (damaged.drop 32))))) ∧
    (∀ part, part <+: bytes → part ≠ bytes →
      ofBytes part = .error (if part.length < 32 then .fileTooSmall part.length
        else .sizeMismatch (UInt32.ofNat entries.length) (part.length - 32))) ∧
    ∀ extra, extra ≠ [] →
      ofBytes (bytes ++ extra) =
        .error (.sizeMismatch (UInt32.ofNat entries.length) ((bytes ++ extra).length - 32)) := by
  intro bytes
  have hbytes : bytes = file (List.replicate 12 0) (Entry.sortByKey entries) := toBytes_eq_file _
  have hreserved : (List.replicate 12 (0 : UInt8)).length = 12 := List.length_replicate
  have hcount : (Entry.sortByKey entries).length = entries.length := Entry.length_sortByKey entries
  have hfew : (Entry.sortByKey entries).length < UInt32.size := hcount ▸ few
  rw [hbytes, ← hcount]
  refine ⟨?_, ?_, ?_⟩
  · intro damaged h
    refine ⟨h.exists_error hreserved, fun htake => ?_⟩
    have hsum := h.checksum_drop_ne (h.drop_ne htake)
    have hlength : damaged.length = 32 + (Entry.sortByKey entries).length * 8 := by
      rw [h.length_eq, length_file hreserved]
    rw [take_file] at htake
    rw [drop_file hreserved] at hsum ⊢
    exact ofBytes_of_checksum hfew hlength htake hsum
  · intro part hpart hne
    exact ofBytes_of_prefix hfew hreserved hpart hne
  · intro extra hextra
    exact ofBytes_of_extra hfew hreserved hextra

/-- A change of the last reserved byte and of the first state, the front alone, and a byte at the
end. -/
theorem ofBytes_rejects_damage_across_header :
    let entry : Entry := ⟨⟨1, 0x61, 0⟩, ⟨1, 2⟩⟩
    let bytes := file (List.replicate 12 0) [entry]
    let damaged := (bytes.set 31 9).set 32 3
    (ofEntries [entry]).toBytes = bytes ∧ Damaged bytes damaged ∧
    ofBytes damaged = .error (.checksum (checksum (bytes.drop 32)) (checksum (damaged.drop 32))) ∧
    ofBytes (bytes.take 20) = .error (.fileTooSmall 20) ∧
    ofBytes (bytes ++ [0]) = .error (.sizeMismatch 1 9) := by
  intro entry bytes damaged
  have hbytes : (ofEntries [entry]).toBytes = bytes := by
    rw [toBytes_eq_file, ofEntries, Entry.sortByKey, List.mergeSort_singleton]
  have hdamaged : Damaged bytes damaged := by
    refine ⟨?_, ⟨31, ?_⟩, ⟨32, by decide, by decide⟩⟩
    · rw [List.length_set, List.length_set]
    · intro i hdiffer
      by_contra hi
      apply hdiffer
      rw [List.getElem?_set_ne (by omega), List.getElem?_set_ne (by omega)]
  have hall := ofBytes_rejects_damage [entry] (by decide)
  rw [hbytes] at hall
  obtain ⟨hdamage, hpart, hextra⟩ := hall
  have hcut : bytes.take 20 ≠ bytes := by
    intro h
    have hlength : bytes.length = 40 := length_file rfl [entry]
    have hfront : (bytes.take 20).length = 20 := by rw [List.length_take, hlength]; rfl
    rw [h, hlength] at hfront
    cases hfront
  exact ⟨hbytes, hdamaged, (hdamage damaged hdamaged).2 rfl,
    hpart (bytes.take 20) (List.take_prefix _ _) hcut, hextra [0] (List.cons_ne_nil _ _)⟩

end TransitionMap.Image
