import TransitionMap.Proofs.Accounting
import TransitionMap.Proofs.Histories
import TransitionMap.Proofs.Image.Collecting

/-!
# A map and a buffer that take the same writes

A map in memory without a limit and the buffer of an image are asked for the same writes. They give
the same answers and hold the same pairs (`Mirrors`), each of four bytes and four bytes, which are
the bytes of entries, valid or not. Both turn their pairs into entries if all of them are valid, and
into the same ones; in which order a map lists its pairs does not matter to that.

* `Mirrors.put`, `Mirrors.answers`: one write, and a run of writes;
* `Store.Answers.get?_eq`: the last write of a key that succeeds counts;
* `Mirrors.exists_entries`: the pairs are those of entries with distinct keys;
* `inKeyOrder_eq_ok_iff`, `ImageBuffer.toImage_eq_ok_iff`: when pairs can be turned into
  entries, and which they are;
* `ImageBuffer.agrees_with_map`: all together.
-/

namespace TransitionMap

/-- What a store for records of the layout, which takes all of them, says about a write. -/
def answerBySize (write : Bytes × Bytes) : Except StoreError Unit :=
  if write.1.length ≠ 4 then .error (.sizeMismatch .key 4 write.1.length)
  else if write.2.length ≠ 4 then .error (.sizeMismatch .value 4 write.2.length)
  else .ok ()

/-- Pairs as entries, in key order, if each of them is one. -/
def inKeyOrder (pairs : List (Bytes × Bytes)) : Except LayoutError (List Entry) :=
  (pairs.mapM fun (key, value) => Entry.ofBytes key value).map Entry.sortByKey

/-- A map without a limit and a buffer that hold the same pairs, all of the declared sizes. -/
structure Mirrors (s : MemoryStore) (b : ImageBuffer) : Prop where
  unlimited : s.Unlimited
  sized : s.Sized
  same : ∀ key, s.get? key = b.get? key

/-! ## Pairs and entries -/

namespace Entry

/-- Four bytes and four bytes are those of an entry, which need not be valid. -/
theorem exists_pair {key value : Bytes} (hkey : key.length = 4) (hvalue : value.length = 4) :
    ∃ e : Entry, e.pair = (key, value) := by
  have hlength : (key ++ value).length = 8 := by rw [List.length_append, hkey, hvalue]
  obtain ⟨e, he⟩ := exists_toBytes hlength
  obtain ⟨rfl, rfl⟩ := List.append_inj he (e.key.length_toBytes.trans hkey.symm)
  exact ⟨e, rfl⟩

end Entry

/-- Pairs are entries in key order when all of them are valid. -/
theorem inKeyOrder_eq_ok_iff {raw entries : List Entry} :
    inKeyOrder (raw.map Entry.pair) = .ok entries ↔
      (∀ e ∈ raw, e.Valid) ∧ Entry.sortByKey raw = entries := by
  have hread : ∀ read, (raw.map Entry.pair).mapM (fun (key, value) => Entry.ofBytes key value) =
      .ok read ↔ (∀ e ∈ raw, e.Valid) ∧ raw = read := fun read => by
    rw [List.mapM_map]
    refine (mapM_eq_ok_iff (g := id) (fun e he => Entry.ofBytes_of_valid he)
      fun e f => Entry.valid_of_ofBytes_eq_ok).trans ?_
    rw [List.map_id]
    rfl
  simp only [inKeyOrder, map_eq_ok_iff, hread, and_assoc, exists_and_left, exists_eq_left']

/-- In which order the pairs are listed does not matter. -/
theorem inKeyOrder_eq_ok_iff_of_perm {raw entries : List Entry} {listed : List (Bytes × Bytes)}
    (distinct : (raw.map Entry.key).Nodup) (h : listed.Perm (raw.map Entry.pair)) :
    inKeyOrder listed = .ok entries ↔ (∀ e ∈ raw, e.Valid) ∧ Entry.sortByKey raw = entries := by
  obtain ⟨raw', rfl, hperm⟩ := Entry.exists_perm_of_perm_pair h
  rw [inKeyOrder_eq_ok_iff, Entry.sortByKey_eq_of_perm hperm.symm distinct]
  simp only [hperm.mem_iff]

/-- Valid entries of distinct keys are sorted by state and byte. -/
theorem Entry.pairwise_lt_of_valid {raw : List Entry} (distinct : (raw.map Entry.key).Nodup)
    (valid : ∀ e ∈ raw, e.Valid) :
    (sortByKey raw).Pairwise fun d e => d.key.state < e.key.state ∨
      (d.key.state = e.key.state ∧ d.key.unit < e.key.unit) := by
  have hmem : ∀ e ∈ sortByKey raw, e.key.padding = 0 := fun e he =>
    (valid e ((perm_sortByKey raw).mem_iff.1 he)).1
  refine (pairwise_lt_sortByKey distinct).imp_of_mem fun {d e} hd he hlt => ?_
  exact Key.state_lt_or_of_rank_lt ((hmem d hd).trans (hmem e he).symm) hlt

/-! ## Writes -/

theorem isOk_answerBySize (write : Bytes × Bytes) :
    (answerBySize write).isOk = decide (write.1.length = 4 ∧ write.2.length = 4) := by
  by_cases hkey : write.1.length = 4
  · by_cases hvalue : write.2.length = 4
    · simp [answerBySize, hkey, hvalue, Except.isOk, Except.toBool]
    · simp [answerBySize, hkey, hvalue, Except.isOk, Except.toBool]
  · simp [answerBySize, hkey, Except.isOk, Except.toBool]

/-- Where the answer to a write depends on the write alone, the last one that succeeds counts. -/
theorem Store.Answers.get?_eq {τ : Type} [Store τ] [LawfulStore τ] {s s' : τ}
    {writes : List (Bytes × Bytes)} {answer : Bytes × Bytes → Except StoreError Unit}
    (h : Answers s writes (writes.map answer) s') (key : Bytes) :
    LawfulStore.get? s' key =
      (MemoryStore.lastValue key (writes.filter fun write => (answer write).isOk)).or
        (LawfulStore.get? s key) := by
  induction writes generalizing s with
  | nil =>
    cases h
    rfl
  | cons write rest ih =>
    cases h with
    | @cons _ store _ _ _ _ _ hput hrest =>
    have hstep := LawfulStore.get?_put s write.1 write.2 key
    rw [hput] at hstep
    rw [ih hrest, hstep, ← List.singleton_append, List.filter_append,
      MemoryStore.lastValue_append, Option.or_assoc]
    congr 1
    by_cases hok : (answer write).isOk = true
    · rw [List.filter_singleton, hok, cond_true, MemoryStore.lastValue_singleton]
      simp only [true_and]
      split <;> rfl
    · simp [MemoryStore.lastValue, hok]

theorem MemoryStore.Unlimited.put_fst {s : MemoryStore} (h : s.Unlimited) (key value : Bytes) :
    (s.put key value).1 = answerBySize (key, value) := by
  by_cases hkey : key.length = 4
  · by_cases hvalue : value.length = 4
    · have hput : (s.put key value).1 = .ok () :=
        (accepting_unlimited s h key value hkey hvalue).1
      simpa [answerBySize, hkey, hvalue] using hput
    · have hrefuses : s.Refuses key value _ :=
        .value h.closed (hkey.trans h.keySize.symm) (h.valueSize ▸ hvalue)
      rw [put_of_refuses hrefuses, h.valueSize]
      simp [answerBySize, hkey, hvalue]
  · have hrefuses : s.Refuses key value _ := .key h.closed (h.keySize ▸ hkey)
    rw [put_of_refuses hrefuses, h.keySize]
    simp [answerBySize, hkey]

theorem ImageBuffer.put_fst (b : ImageBuffer) (key value : Bytes) :
    (b.put key value).1 = answerBySize (key, value) := by
  rw [put, answerBySize]
  split
  · rfl
  · split <;> rfl

theorem mirrors_new : Mirrors .new .new where
  unlimited := ⟨rfl, rfl, rfl, rfl⟩
  sized key value hget := by
    have hnone : MemoryStore.new.get? key = none := MemoryStore.get?_new key
    rw [hnone] at hget
    cases hget
  same key := (MemoryStore.get?_new key).trans (ImageBuffer.get?_new key).symm

namespace Mirrors

variable {s : MemoryStore} {b : ImageBuffer} (h : Mirrors s b)
include h

theorem put (key value : Bytes) : Mirrors (s.put key value).2 (b.put key value).2 where
  unlimited := by
    obtain ⟨maxEntries, closed, keySize, valueSize⟩ := h.unlimited
    rcases s.refuses_or_taken key value with ⟨e, he⟩ | taken
    · rw [MemoryStore.put_of_refuses he]
      exact ⟨maxEntries, closed, keySize, valueSize⟩
    · rw [MemoryStore.put_of_taken taken]
      exact ⟨maxEntries, closed, keySize, valueSize⟩
  sized := h.sized.step (.put key value)
  same k := by
    rw [MemoryStore.get?_put, ImageBuffer.get?_put, h.unlimited.put_fst, b.put_fst, h.same]

theorem answers (writes : List (Bytes × Bytes)) :
    ∃ s' b', Store.Answers s writes (writes.map answerBySize) s' ∧
      Store.Answers b writes (writes.map answerBySize) b' ∧ Mirrors s' b' := by
  induction writes generalizing s b with
  | nil => exact ⟨s, b, .nil s, .nil b, h⟩
  | cons write rest ih =>
    obtain ⟨s', b', hs, hb, hmirrors⟩ := ih (h.put write.1 write.2)
    have hput : Store.put s write.1 write.2 = (answerBySize write, (s.put write.1 write.2).2) :=
      Prod.ext (h.unlimited.put_fst write.1 write.2) rfl
    have hput' : Store.put b write.1 write.2 = (answerBySize write, (b.put write.1 write.2).2) :=
      Prod.ext (b.put_fst write.1 write.2) rfl
    exact ⟨s', b', .cons hput hs, .cons hput' hb, hmirrors⟩

theorem entries_eq : s.entries = b.records.toList := by
  have hequiv : s.records.Equiv b.records := .of_forall_constGet?_eq h.same
  exact hequiv.toList_eq

/-- The pairs are the bytes of entries with distinct keys, which need not be valid. -/
theorem exists_entries :
    ∃ raw : List Entry, s.entries = raw.map Entry.pair ∧ (raw.map Entry.key).Nodup := by
  have hrange : s.entries ∈ Set.range (List.map Entry.pair) := by
    rw [Set.range_list_map]
    intro p hp
    obtain ⟨hkey, hvalue⟩ := h.sized p.1 p.2 ((s.mem_entries_iff p.1 p.2).1 hp)
    exact Entry.exists_pair (hkey.trans h.unlimited.keySize) (hvalue.trans h.unlimited.valueSize)
  obtain ⟨raw, hraw⟩ := hrange
  have hordered := s.pairwise_entries
  rw [← hraw, List.pairwise_map] at hordered
  refine ⟨raw, hraw.symm, List.pairwise_map.2 (hordered.imp fun {d e} hlt hkey => ?_)⟩
  refine List.lt_irrefl d.key.toBytes ?_
  have hlt : d.key.toBytes < e.key.toBytes := hlt
  rwa [← hkey] at hlt

end Mirrors

/-- A fresh map without a limit and a fresh buffer that are asked for the same writes give the same
answers, which tell of wrong sizes only. Afterwards they hold the same pairs, as many as the other:
each key with the value of its last write of the right sizes. The map can be decoded exactly when
the buffer makes an image, namely when all keys have no padding and all values a flag of zero or
one. Then both have the same entries: those of the pairs, each once, by state and then byte. Another
order of the pairs would have given the same ones. -/
theorem ImageBuffer.agrees_with_map (writes : List (Bytes × Bytes)) :
    ∃ (s : MemoryStore) (b : ImageBuffer) (raw : List Entry),
      Store.Answers MemoryStore.new writes (writes.map answerBySize) s ∧
      Store.Answers ImageBuffer.new writes (writes.map answerBySize) b ∧
      (∀ key, s.get? key = b.get? key) ∧ s.size = b.size ∧
      (∀ key, s.get? key = MemoryStore.lastValue key
        (writes.filter fun write => write.1.length = 4 ∧ write.2.length = 4)) ∧
      s.entries = raw.map Entry.pair ∧ b.records.toList = raw.map Entry.pair ∧
      ((∃ entries, s.decoded = .ok entries) ↔ ∀ e ∈ raw, e.Valid) ∧
      ((∃ image, b.toImage = .ok image) ↔ ∀ e ∈ raw, e.Valid) ∧
      (∀ entries, s.decoded = .ok entries →
        b.toImage = .ok ⟨entries⟩ ∧ entries.Perm raw ∧
        entries.Pairwise fun d e => d.key.state < e.key.state ∨
          (d.key.state = e.key.state ∧ d.key.unit < e.key.unit)) ∧
      ∀ listed, listed.Perm s.entries → ∀ entries,
        inKeyOrder listed = .ok entries ↔ s.decoded = .ok entries := by
  obtain ⟨s, b, hs, hb, mirrors⟩ := mirrors_new.answers writes
  obtain ⟨raw, hentries, distinct⟩ := mirrors.exists_entries
  have hrecords : b.records.toList = raw.map Entry.pair := by rw [← mirrors.entries_eq, hentries]
  have hsize : s.size = b.size := by
    rw [MemoryStore.size, size, ← Std.TreeMap.length_toList, ← Std.TreeMap.length_toList]
    exact congrArg List.length mirrors.entries_eq
  have hdecoded : ∀ entries, s.decoded = .ok entries ↔
      (∀ e ∈ raw, e.Valid) ∧ Entry.sortByKey raw = entries := fun entries => by
    rw [← inKeyOrder_eq_ok_iff, ← hentries]
    rfl
  refine ⟨s, b, raw, hs, hb, mirrors.same, hsize, fun key => ?_, hentries, hrecords, ?_, ?_, ?_, ?_⟩
  · have hlast := hs.get?_eq key
    have hnew : LawfulStore.get? MemoryStore.new key = none := MemoryStore.get?_new key
    simp only [hnew, Option.or_none, isOk_answerBySize] at hlast
    exact hlast
  · simp only [hdecoded, exists_and_left, exists_eq', and_true]
  · simp only [toImage_eq_ok_iff hrecords, exists_and_left, exists_eq', and_true]
  · intro entries h
    obtain ⟨valid, rfl⟩ := (hdecoded entries).1 h
    exact ⟨(toImage_eq_ok_iff hrecords).2 ⟨valid, rfl⟩, Entry.perm_sortByKey raw,
      Entry.pairwise_lt_of_valid distinct valid⟩
  · intro listed hlisted entries
    rw [hentries] at hlisted
    rw [inKeyOrder_eq_ok_iff_of_perm distinct hlisted, hdecoded]

end TransitionMap
