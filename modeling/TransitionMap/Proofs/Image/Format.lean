import TransitionMap.Image
import TransitionMap.Proofs.FirstFault
import TransitionMap.Proofs.Sorting

/-!
# Which byte strings are images

`Image.file` is the format as it stands in a file, byte for byte, and `Image.Rejected` lists what
can be wrong with a byte string, in the order of the checks.

* `Image.Header.exists_toBytes`, `Image.exists_recordBytes`: any bytes are those of a header, or of
  records, when their length is right;
* `Image.readRecords_of_valid`, `Image.readRecords_of_fault`: records are read back up to the first
  that is no valid entry;
* `Image.exists_rejected_or_file`: every byte string is rejected or an image file, and reading it
  says which (`Image.Rejected.ofBytes_eq`, `Image.ofBytes_file`);
* `Image.ofBytes_reads_format`: so reading accepts the format and nothing else, gives back what has
  been written, and reports the first fault.
-/

namespace TransitionMap.Image

/-! ## Headers -/

namespace Header

/-- The letters and the reserved bytes of a header have their lengths. -/
def Sized (h : Header) : Prop := h.magic.length = 4 ∧ h.reserved.length = 12

theorem length_toBytes {h : Header} (hs : h.Sized) : h.toBytes.length = 32 := by
  obtain ⟨hmagic, hreserved⟩ := hs
  simp only [toBytes, List.length_append, Bytes.length_ofWord16, Bytes.length_ofWord32, hmagic,
    hreserved]

theorem split?_toBytes {h : Header} (hs : h.Sized) (records : Bytes) :
    split? (h.toBytes ++ records) = some (h, records) := by
  obtain ⟨magic, version, checksum, entryCount, keySize, valueSize, reserved⟩ := h
  obtain ⟨hmagic, hreserved⟩ := hs
  match magic, reserved, hmagic, hreserved with
  | [_, _, _, _], [_, _, _, _, _, _, _, _, _, _, _, _], _, _ =>
    simp only [toBytes, Bytes.ofWord16, Bytes.ofWord32, List.cons_append, List.nil_append, split?,
      Bytes.word16_ofWord16, Bytes.word32_ofWord32]

theorem split?_of_length_lt {bytes : Bytes} (h : bytes.length < 32) : split? bytes = none := by
  unfold split?
  split
  · simp only [List.length_cons] at h
    omega
  · rfl

/-- Thirty-two bytes are those of a header. -/
theorem exists_toBytes {bytes : Bytes} (h : 32 ≤ bytes.length) :
    ∃ (header : Header) (records : Bytes), header.Sized ∧ bytes = header.toBytes ++ records := by
  obtain ⟨k, h⟩ := Nat.exists_eq_add_of_le h
  obtain ⟨magic, bytes, rfl, hmagic, h⟩ :=
    Bytes.exists_append (n := 4) (k := 28 + k) (h.trans (by omega))
  obtain ⟨version, bytes, rfl, hversion, h⟩ :=
    Bytes.exists_append (n := 4) (k := 24 + k) (h.trans (by omega))
  obtain ⟨check, bytes, rfl, hcheck, h⟩ :=
    Bytes.exists_append (n := 4) (k := 20 + k) (h.trans (by omega))
  obtain ⟨count, bytes, rfl, hcount, h⟩ :=
    Bytes.exists_append (n := 4) (k := 16 + k) (h.trans (by omega))
  obtain ⟨keySize, bytes, rfl, hkey, h⟩ :=
    Bytes.exists_append (n := 2) (k := 14 + k) (h.trans (by omega))
  obtain ⟨valueSize, bytes, rfl, hvalue, h⟩ :=
    Bytes.exists_append (n := 2) (k := 12 + k) (h.trans (by omega))
  obtain ⟨reserved, records, rfl, hreserved, -⟩ := Bytes.exists_append h
  obtain ⟨version, rfl⟩ := Bytes.exists_ofWord32 hversion
  obtain ⟨check, rfl⟩ := Bytes.exists_ofWord32 hcheck
  obtain ⟨count, rfl⟩ := Bytes.exists_ofWord32 hcount
  obtain ⟨keySize, rfl⟩ := Bytes.exists_ofWord16 hkey
  obtain ⟨valueSize, rfl⟩ := Bytes.exists_ofWord16 hvalue
  refine ⟨⟨magic, version, check, count, keySize, valueSize, reserved⟩, records,
    ⟨hmagic, hreserved⟩, ?_⟩
  simp only [toBytes, List.append_assoc]

/-- A header of this version, for records of these sizes. -/
structure Supported (h : Header) : Prop where
  sized : h.Sized
  magic : h.magic = Image.magic
  version : h.version = 1
  keySize : h.keySize = 4
  valueSize : h.valueSize = 4

end Header

/-! ## Records -/

theorem recordBytes_cons (e : Entry) (entries : List Entry) :
    recordBytes (e :: entries) = e.toBytes ++ recordBytes entries := rfl

theorem length_recordBytes (entries : List Entry) :
    (recordBytes entries).length = entries.length * 8 := by
  induction entries with
  | nil => rfl
  | cons e rest ih =>
    rw [recordBytes_cons, List.length_append, Entry.length_toBytes, ih, List.length_cons]
    omega

/-- Bytes by the eight are those of entries, which need not be valid. -/
theorem exists_recordBytes {bytes : Bytes} {n : Nat} (h : bytes.length = n * 8) :
    ∃ entries : List Entry, entries.length = n ∧ recordBytes entries = bytes := by
  induction n generalizing bytes with
  | zero =>
    rw [Nat.zero_mul, List.length_eq_zero_iff] at h
    exact ⟨[], rfl, h.symm⟩
  | succ n ih =>
    obtain ⟨first, rest, rfl, hfirst, hrest⟩ :=
      Bytes.exists_append (n := 8) (k := n * 8) (h.trans (by omega))
    obtain ⟨e, rfl⟩ := Entry.exists_toBytes hfirst
    obtain ⟨entries, hlength, rfl⟩ := ih hrest
    exact ⟨e :: entries, by rw [List.length_cons, hlength], rfl⟩

theorem readRecords_cons (index : Nat) (done : List Entry) (e : Entry) (rest : Bytes) :
    readRecords index done (e.toBytes ++ rest) =
      match Entry.ofBytes e.key.toBytes e.value.toBytes with
      | .ok entry => readRecords (index + 1) (entry :: done) rest
      | .error cause => .error (.record index cause) := rfl

theorem readRecords_of_valid {entries : List Entry} (h : ∀ e ∈ entries, e.Valid) (index : Nat)
    (done : List Entry) :
    readRecords index done (recordBytes entries) = .ok (done.reverse ++ entries) := by
  induction entries generalizing index done with
  | nil => simp [recordBytes, readRecords]
  | cons e rest ih =>
    obtain ⟨he, hrest⟩ := List.forall_mem_cons.1 h
    rw [recordBytes_cons, readRecords_cons, Entry.ofBytes_of_valid he]
    simp only [ih hrest, List.reverse_cons, List.append_assoc, List.singleton_append]

/-- Reading stops at the first entry with a fault and reports its place. -/
theorem readRecords_of_fault {good rest : List Entry} {e : Entry} {cause : LayoutError}
    (hgood : ∀ g ∈ good, g.Valid) (hfault : e.Fault cause) (index : Nat) (done : List Entry) :
    readRecords index done (recordBytes (good ++ e :: rest)) =
      .error (.record (index + good.length) cause) := by
  induction good generalizing index done with
  | nil =>
    rw [List.nil_append, recordBytes_cons, readRecords_cons, Entry.ofBytes_of_fault hfault]
    rfl
  | cons g good ih =>
    obtain ⟨hg, hgood⟩ := List.forall_mem_cons.1 hgood
    have hplace : index + 1 + good.length = index + (g :: good).length := by
      rw [List.length_cons]
      omega
    rw [List.cons_append, recordBytes_cons, readRecords_cons, Entry.ofBytes_of_valid hg]
    simp only [ih hgood, hplace]

/-! ## The format -/

/-- The first twenty bytes of the image file of some entries. -/
def front (entries : List Entry) : Bytes :=
  [0x44, 0x46, 0x41, 0x4d] ++ [1, 0, 0, 0] ++
    Bytes.ofWord32 (TransitionMap.checksum (recordBytes entries)) ++
    Bytes.ofWord32 (UInt32.ofNat entries.length) ++ [4, 0] ++ [4, 0]

/-- The image file of some entries as they stand, with given reserved bytes. -/
def file (reserved : Bytes) (entries : List Entry) : Bytes :=
  front entries ++ reserved ++ entries.flatMap fun e => e.key.toBytes ++ e.value.toBytes

/-- The header of the image of some entries, with given reserved bytes. -/
abbrev headerOf (reserved : Bytes) (entries : List Entry) : Header :=
  { (Image.mk entries).header with reserved }

theorem toBytes_headerOf (reserved : Bytes) (entries : List Entry) :
    (headerOf reserved entries).toBytes = front entries ++ reserved := by
  have hversion : Bytes.ofWord32 Image.version = [1, 0, 0, 0] := by decide
  have hsize : Bytes.ofWord16 4 = [4, 0] := by decide
  simp only [front, header, Header.toBytes, hversion, hsize]
  rfl

theorem file_eq (reserved : Bytes) (entries : List Entry) :
    file reserved entries = (headerOf reserved entries).toBytes ++ recordBytes entries := by
  rw [toBytes_headerOf]
  rfl

theorem toBytes_eq_file (image : Image) :
    image.toBytes = file (List.replicate 12 0) image.entries := by
  rw [file_eq]
  rfl

theorem length_front (entries : List Entry) : (front entries).length = 20 := rfl

theorem supported_headerOf {reserved : Bytes} (h : reserved.length = 12) (entries : List Entry) :
    (headerOf reserved entries).Supported :=
  ⟨⟨rfl, h⟩, rfl, rfl, rfl, rfl⟩

theorem length_file {reserved : Bytes} (h : reserved.length = 12) (entries : List Entry) :
    (file reserved entries).length = 32 + entries.length * 8 := by
  rw [file_eq, List.length_append, length_recordBytes,
    Header.length_toBytes (supported_headerOf h entries).sized]

theorem take_file (reserved : Bytes) (entries : List Entry) :
    (file reserved entries).take 20 = front entries := by
  rw [file, List.append_assoc, List.take_left' (length_front entries)]

theorem drop_file {reserved : Bytes} (h : reserved.length = 12) (entries : List Entry) :
    (file reserved entries).drop 32 = recordBytes entries := by
  have hfront : (front entries ++ reserved).length = 32 := by
    rw [List.length_append, length_front, h]
  rw [file, List.drop_left' hfront]
  rfl

theorem toNat_entryCount {entries : List Entry} (few : entries.length < UInt32.size)
    (reserved : Bytes) : (headerOf reserved entries).entryCount.toNat = entries.length :=
  UInt32.toNat_ofNat_of_lt' few

/-- What is wrong with a byte string that is no image file, by the first check that fails. -/
inductive Rejected : Bytes → ImageError → Prop
  | short {bytes : Bytes} : bytes.length < 32 → Rejected bytes (.fileTooSmall bytes.length)
  | magic {h : Header} {records : Bytes} : h.Sized → h.magic ≠ Image.magic →
      Rejected (h.toBytes ++ records) .invalidMagic
  | version {h : Header} {records : Bytes} : h.Sized → h.magic = Image.magic → h.version ≠ 1 →
      Rejected (h.toBytes ++ records) (.unsupportedVersion h.version)
  | sizes {h : Header} {records : Bytes} : h.Sized → h.magic = Image.magic → h.version = 1 →
      h.keySize ≠ 4 ∨ h.valueSize ≠ 4 →
      Rejected (h.toBytes ++ records) (.recordLayout h.keySize h.valueSize)
  | count {h : Header} {records : Bytes} : h.Supported →
      records.length ≠ h.entryCount.toNat * 8 →
      Rejected (h.toBytes ++ records) (.sizeMismatch h.entryCount records.length)
  | checksum {h : Header} {records : Bytes} : h.Supported →
      records.length = h.entryCount.toNat * 8 → checksum records ≠ h.checksum →
      Rejected (h.toBytes ++ records) (.checksum h.checksum (checksum records))
  | record {h : Header} {good rest : List Entry} {e : Entry} {cause : LayoutError} : h.Supported →
      (good ++ e :: rest).length = h.entryCount.toNat →
      TransitionMap.checksum (recordBytes (good ++ e :: rest)) = h.checksum →
      (∀ g ∈ good, g.Valid) → e.Fault cause →
      Rejected (h.toBytes ++ recordBytes (good ++ e :: rest)) (.record good.length cause)

/-! ## Reading -/

theorem ofBytes_toBytes_append {h : Header} (hs : h.Sized) (records : Bytes) :
    ofBytes (h.toBytes ++ records) =
      if !h.hasMagic then .error .invalidMagic
      else if !h.hasVersion then .error (.unsupportedVersion h.version)
      else if h.keySize ≠ 4 ∨ h.valueSize ≠ 4 then .error (.recordLayout h.keySize h.valueSize)
      else if records.length ≠ h.entryCount.toNat * 8 then
        .error (.sizeMismatch h.entryCount records.length)
      else if TransitionMap.checksum records ≠ h.checksum then
        .error (.checksum h.checksum (TransitionMap.checksum records))
      else (readRecords 0 [] records).map Image.mk := by
  rw [ofBytes, Header.split?_toBytes hs]

/-- A header of this version passes the checks up to that of the size. -/
theorem ofBytes_of_supported {h : Header} (hs : h.Supported) (records : Bytes) :
    ofBytes (h.toBytes ++ records) =
      if records.length ≠ h.entryCount.toNat * 8 then
        .error (.sizeMismatch h.entryCount records.length)
      else if TransitionMap.checksum records ≠ h.checksum then
        .error (.checksum h.checksum (TransitionMap.checksum records))
      else (readRecords 0 [] records).map Image.mk := by
  have hsizes : ¬ (h.keySize ≠ 4 ∨ h.valueSize ≠ 4) := by
    rintro (hkey | hvalue)
    · exact hkey hs.keySize
    · exact hvalue hs.valueSize
  have hmagic : h.hasMagic = true := beq_iff_eq.2 hs.magic
  have hversion : h.hasVersion = true := beq_iff_eq.2 hs.version
  rw [ofBytes_toBytes_append hs.sized, hmagic, hversion, if_neg hsizes]
  rfl

theorem Rejected.ofBytes_eq {bytes : Bytes} {e : ImageError} (h : Rejected bytes e) :
    ofBytes bytes = .error e := by
  cases h with
  | short hshort => rw [ofBytes, Header.split?_of_length_lt hshort]
  | magic hs hmagic =>
    have hno : Header.hasMagic _ = false := beq_eq_false_iff_ne.2 hmagic
    rw [ofBytes_toBytes_append hs, hno]
    rfl
  | version hs hmagic hversion =>
    have hyes : Header.hasMagic _ = true := beq_iff_eq.2 hmagic
    have hno : Header.hasVersion _ = false := beq_eq_false_iff_ne.2 hversion
    rw [ofBytes_toBytes_append hs, hyes, hno]
    rfl
  | sizes hs hmagic hversion hsizes =>
    have hyes : Header.hasMagic _ = true := beq_iff_eq.2 hmagic
    have hyes' : Header.hasVersion _ = true := beq_iff_eq.2 hversion
    rw [ofBytes_toBytes_append hs, hyes, hyes', if_pos hsizes]
    rfl
  | count hs hcount => rw [ofBytes_of_supported hs, if_pos hcount]
  | checksum hs hcount hsum =>
    rw [ofBytes_of_supported hs, if_neg (not_not_intro hcount), if_pos hsum]
  | @record header good rest e cause hs hcount hsum hgood hfault =>
    have hlength : (recordBytes (good ++ e :: rest)).length = header.entryCount.toNat * 8 := by
      rw [length_recordBytes, hcount]
    rw [ofBytes_of_supported hs, if_neg (not_not_intro hlength), if_neg (not_not_intro hsum),
      readRecords_of_fault hgood hfault, Nat.zero_add]
    rfl

theorem ofBytes_file {entries : List Entry} (few : entries.length < UInt32.size)
    (valid : ∀ e ∈ entries, e.Valid) {reserved : Bytes} (hreserved : reserved.length = 12) :
    ofBytes (file reserved entries) = .ok ⟨entries⟩ := by
  have hlength : (recordBytes entries).length =
      (headerOf reserved entries).entryCount.toNat * 8 := by
    rw [toNat_entryCount few, length_recordBytes]
  have hsum : TransitionMap.checksum (recordBytes entries) = (headerOf reserved entries).checksum :=
    rfl
  rw [file_eq, ofBytes_of_supported (supported_headerOf hreserved entries),
    if_neg (not_not_intro hlength), if_neg (not_not_intro hsum), readRecords_of_valid valid]
  rfl

/-- An image that is written is read back. -/
theorem ofBytes_toBytes {image : Image} (few : image.entries.length < UInt32.size)
    (valid : ∀ e ∈ image.entries, e.Valid) : ofBytes image.toBytes = .ok image := by
  rw [toBytes_eq_file]
  exact ofBytes_file few valid List.length_replicate

theorem header_eq_headerOf {h : Header} (hs : h.Supported) {entries : List Entry}
    (hcount : entries.length = h.entryCount.toNat)
    (hsum : TransitionMap.checksum (recordBytes entries) = h.checksum) :
    h = headerOf h.reserved entries := by
  have hcount' : h.entryCount = UInt32.ofNat entries.length := by rw [hcount, UInt32.ofNat_toNat]
  obtain ⟨-, hmagic, hversion, hkey, hvalue⟩ := hs
  obtain ⟨magic, version, checksum, entryCount, keySize, valueSize, reserved⟩ := h
  simp only at hmagic hversion hkey hvalue hcount' hsum
  subst hmagic hversion hkey hvalue hcount' hsum
  rfl

/-- Every byte string fails some check or is an image file. -/
theorem exists_rejected_or_file (bytes : Bytes) :
    (∃ e, Rejected bytes e) ∨ ∃ (entries : List Entry) (reserved : Bytes),
      entries.length < UInt32.size ∧ (∀ e ∈ entries, e.Valid) ∧ reserved.length = 12 ∧
        bytes = file reserved entries := by
  by_cases hshort : bytes.length < 32
  · exact .inl ⟨_, .short hshort⟩
  obtain ⟨h, records, hs, rfl⟩ := Header.exists_toBytes (Nat.le_of_not_lt hshort)
  by_cases hmagic : h.magic = Image.magic
  case neg => exact .inl ⟨_, .magic hs hmagic⟩
  by_cases hversion : h.version = 1
  case neg => exact .inl ⟨_, .version hs hmagic hversion⟩
  by_cases hkey : h.keySize = 4
  case neg => exact .inl ⟨_, .sizes hs hmagic hversion (.inl hkey)⟩
  by_cases hvalue : h.valueSize = 4
  case neg => exact .inl ⟨_, .sizes hs hmagic hversion (.inr hvalue)⟩
  have hsupported : h.Supported := ⟨hs, hmagic, hversion, hkey, hvalue⟩
  by_cases hlength : records.length = h.entryCount.toNat * 8
  case neg => exact .inl ⟨_, .count hsupported hlength⟩
  by_cases hsum : TransitionMap.checksum records = h.checksum
  case neg => exact .inl ⟨_, .checksum hsupported hlength hsum⟩
  obtain ⟨entries, hcount, rfl⟩ := exists_recordBytes hlength
  by_cases hvalid : ∀ e ∈ entries, e.Valid
  case neg =>
    obtain ⟨good, e, rest, rfl, hgood, he⟩ := exists_first_not hvalid
    obtain ⟨cause, hfault⟩ := Entry.exists_fault he
    exact .inl ⟨_, .record hsupported hcount hsum hgood hfault⟩
  have few : entries.length < UInt32.size := hcount ▸ h.entryCount.toNat_lt
  refine .inr ⟨entries, h.reserved, few, hvalid, hs.2, ?_⟩
  rw [file_eq, ← header_eq_headerOf hsupported hcount hsum]

/-- Reading accepts image files of valid entries and nothing else. The image has the entries in the
order of the file, and writing it gives the file back but for the reserved bytes, which become zero.
Of a byte string that is no such file the first fault is reported. So entries that are written as an
image are read back in key order. -/
theorem ofBytes_reads_format (bytes : Bytes) :
    (∀ image, ofBytes bytes = .ok image ↔
      ∃ (entries : List Entry) (reserved : Bytes), entries.length < UInt32.size ∧
        (∀ e ∈ entries, e.key.padding = 0 ∧ e.value.finalState ≤ 1) ∧ reserved.length = 12 ∧
        bytes = file reserved entries ∧ image.entries = entries) ∧
    (∀ image, ofBytes bytes = .ok image →
      image.toBytes = bytes.take 20 ++ List.replicate 12 0 ++ bytes.drop 32) ∧
    (∀ e, ofBytes bytes = .error e ↔ Rejected bytes e) ∧
    ∀ entries : List Entry, entries.length < UInt32.size →
      (∀ e ∈ entries, e.key.padding = 0 ∧ e.value.finalState ≤ 1) →
      ∃ sorted, ofBytes (ofEntries entries).toBytes = .ok ⟨sorted⟩ ∧
        StablySorted entries sorted := by
  have haccepts : ∀ image, ofBytes bytes = .ok image ↔
      ∃ (entries : List Entry) (reserved : Bytes), entries.length < UInt32.size ∧
        (∀ e ∈ entries, e.key.padding = 0 ∧ e.value.finalState ≤ 1) ∧ reserved.length = 12 ∧
        bytes = file reserved entries ∧ image.entries = entries := by
    intro image
    constructor
    · intro hok
      rcases exists_rejected_or_file bytes with ⟨e, he⟩ | ⟨entries, reserved, few, valid, hr, rfl⟩
      · rw [he.ofBytes_eq] at hok
        cases hok
      · rw [ofBytes_file few valid hr] at hok
        cases hok
        exact ⟨entries, reserved, few, valid, hr, rfl, rfl⟩
    · rintro ⟨entries, reserved, few, valid, hr, rfl, rfl⟩
      exact ofBytes_file few valid hr
  refine ⟨haccepts, ?_, ?_, ?_⟩
  · intro image hok
    obtain ⟨entries, reserved, -, -, hr, rfl, rfl⟩ := (haccepts image).1 hok
    rw [toBytes_eq_file, take_file, drop_file hr]
    rfl
  · intro e
    refine ⟨fun herror => ?_, Rejected.ofBytes_eq⟩
    rcases exists_rejected_or_file bytes with ⟨e', he'⟩ | ⟨entries, reserved, few, valid, hr, rfl⟩
    · rw [he'.ofBytes_eq] at herror
      exact Except.error.inj herror ▸ he'
    · rw [ofBytes_file few valid hr] at herror
      cases herror
  · intro entries few valid
    have hperm := Entry.perm_sortByKey entries
    have hfew : (Entry.sortByKey entries).length < UInt32.size := hperm.length_eq ▸ few
    have hvalid : ∀ e ∈ Entry.sortByKey entries, e.Valid := fun e he => valid e (hperm.mem_iff.1 he)
    refine ⟨Entry.sortByKey entries, ofBytes_toBytes hfew hvalid, ?_⟩
    exact Entry.stablySorted_sortByKey fun e he => (valid e he).1

/-- Two entries out of order in a file whose reserved bytes are not zero, the first thirty-one bytes
of that file, and the two entries written as an image. -/
theorem ofBytes_reads_unsorted_pair :
    let late : Entry := ⟨⟨2, 0x62, 0⟩, ⟨1, 0⟩⟩
    let early : Entry := ⟨⟨1, 0x61, 0⟩, ⟨0, 2⟩⟩
    let bytes := file (List.replicate 12 7) [late, early]
    ofBytes bytes = .ok ⟨[late, early]⟩ ∧
    (Image.mk [late, early]).toBytes = bytes.take 20 ++ List.replicate 12 0 ++ bytes.drop 32 ∧
    Rejected (bytes.take 31) (.fileTooSmall 31) ∧
    ofBytes (ofEntries [late, early]).toBytes = .ok ⟨[early, late]⟩ ∧
    StablySorted [late, early] [early, late] := by
  intro late early bytes
  have few : [late, early].length < UInt32.size := by decide
  have valid : ∀ e ∈ [late, early], e.key.padding = 0 ∧ e.value.finalState ≤ 1 := by decide
  obtain ⟨haccepts, hrewrites, -, hround⟩ := ofBytes_reads_format bytes
  obtain ⟨-, -, hrejects, -⟩ := ofBytes_reads_format (bytes.take 31)
  have hread : ofBytes bytes = .ok ⟨[late, early]⟩ :=
    (haccepts _).2 ⟨[late, early], List.replicate 12 7, few, valid, rfl, rfl, rfl⟩
  have hsort : ofEntries [late, early] = ⟨[early, late]⟩ := by
    simp [ofEntries, Entry.sortByKey, List.mergeSort, List.MergeSort.Internal.splitInTwo, Key.rank,
      late, early]
  have hwritten : ofBytes (ofEntries [late, early]).toBytes = .ok ⟨[early, late]⟩ := by
    rw [hsort]
    exact ofBytes_toBytes (by decide) (by decide)
  obtain ⟨sorted, hsorted, hstable⟩ := hround [late, early] few valid
  rw [hwritten] at hsorted
  cases hsorted
  exact ⟨hread, hrewrites _ hread, (hrejects _).1 rfl, hwritten, hstable⟩

end TransitionMap.Image
