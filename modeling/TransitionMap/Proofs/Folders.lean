import TransitionMap.Program.Folder

/-!
# Files that are read after they are written

A write puts its bytes where the path leads: to a file, or to a name that is vacant
(`Place.target?`). No directory on the way there has that name, so the path leads to the file
afterwards (`Folder.follow_set`), and reading it gives back what was written
(`Folder.read_of_write`).
-/

namespace TransitionMap

/-- The file that a write to a place changes or makes. -/
def Place.target? : Place → Option String
  | .file name | .vacant name => some name
  | _ => none

namespace Folder

variable {f g : Folder} {name path : String} {bytes : Bytes}

/-! ## What a change does to names -/

theorem contains_set (f : Folder) (name : String) (bytes : Bytes) (n : String) :
    (f.set name bytes).contains n = (f.contains n || decide (name = n)) := by
  by_cases h : f.contains name = true
  · have hmap : (f.set name bytes).contains n = f.contains n := by
      rw [set, if_pos h, contains, contains, List.any_map]
      congr 1
      funext file
      by_cases hfile : file.1 = name <;> simp [hfile]
    by_cases hn : name = n
    · subst hn
      rw [hmap, h, Bool.true_or]
    · rw [hmap, decide_eq_false hn, Bool.or_false]
  · rw [set, if_neg h, contains, contains, List.any_append, List.any_cons, List.any_nil,
      Bool.or_false]

theorem hasDirectory_set (f : Folder) (name : String) (bytes : Bytes) {n : String}
    (h : f.hasDirectory n = true) : (f.set name bytes).hasDirectory n = true := by
  obtain ⟨file, hfile, hstarts⟩ := List.any_eq_true.1 h
  rw [set]
  split
  · refine List.any_eq_true.2 ⟨_, List.mem_map_of_mem hfile, ?_⟩
    by_cases hname : file.1 = name
    · rw [if_pos hname, ← hname]
      exact hstarts
    · rw [if_neg hname]
      exact hstarts
  · exact List.any_eq_true.2 ⟨file, List.mem_append_left _ hfile, hstarts⟩

theorem lookup_map {files : List (String × Bytes)}
    (h : files.any (fun file => file.1 = name) = true) (bytes : Bytes) :
    (files.map fun file => if file.1 = name then (name, bytes) else file).lookup name =
      some bytes := by
  induction files with
  | nil => cases h
  | cons file rest ih =>
    by_cases hname : file.1 = name
    · rw [List.map_cons, if_pos hname, List.lookup_cons_self]
    · rw [List.any_cons, decide_eq_false hname, Bool.false_or] at h
      have hne : (name == file.1) = false := beq_eq_false_iff_ne.2 (Ne.symm hname)
      rw [List.map_cons, if_neg hname, List.lookup_cons, hne]
      exact ih h

theorem lookup_set (f : Folder) (name : String) (bytes : Bytes) :
    (f.set name bytes).files.lookup name = some bytes := by
  rw [set]
  split
  case isTrue h => exact lookup_map h bytes
  case isFalse h =>
    have hnone : f.files.lookup name = none := by
      rw [List.lookup_eq_none_iff]
      intro file hfile
      rw [bne_iff_ne]
      rintro rfl
      exact h (List.any_eq_true.2 ⟨file, hfile, decide_eq_true rfl⟩)
    rw [List.lookup_append, hnone, Option.none_or, List.lookup_cons_self]

/-! ## What a change does to paths -/

section Follow

variable {above rest : List String} {part : String}

/-- The name of a part of a path, after the directories above it. -/
abbrev nameIn (above : List String) (part : String) : String :=
  "/".intercalate (part :: above).reverse

theorem follow_file (hpart : ¬ (part = "" ∨ part = ".")) (hup : part ≠ "..")
    (hfile : f.contains (nameIn above part) = true) (hlast : rest.isEmpty = true) :
    f.follow above (part :: rest) = .file (nameIn above part) := by
  unfold follow
  rw [if_neg hpart, if_neg hup]
  exact (if_pos hfile).trans (if_pos hlast)

theorem follow_directory (hpart : ¬ (part = "" ∨ part = ".")) (hup : part ≠ "..")
    (hfile : f.contains (nameIn above part) = false)
    (hdirectory : f.hasDirectory (nameIn above part) = true) :
    f.follow above (part :: rest) = f.follow (part :: above) rest := by
  have hno : ¬ f.contains (nameIn above part) = true := Bool.eq_false_iff.1 hfile
  rw [follow.eq_def f above (part :: rest)]
  simp only
  rw [if_neg hpart, if_neg hup]
  exact (if_neg hno).trans (if_pos hdirectory)

end Follow

theorem contains_or_of_target? {above parts : List String}
    (h : (f.follow above parts).target? = some name) :
    f.contains name = true ∨ f.hasDirectory name = false := by
  fun_induction f.follow above parts with
  | case2 above part rest hskip ih => exact ih h
  | case3 rest last above hname ih => exact ih h
  | case6 above part rest hpart hup found hfile hlast =>
    rw [← Option.some.inj h]
    exact .inl hfile
  | case8 above part rest hpart hup found hfile hdirectory ih => exact ih h
  | case9 above part rest hpart hup found hfile hdirectory hlast =>
    rw [← Option.some.inj h]
    exact .inr (Bool.eq_false_iff.2 hdirectory)
  | _ => cases h

/-- On the way to a changed file nothing has changed: a directory there has no file's name. -/
theorem follow_set {above parts : List String} (bytes : Bytes)
    (h : (f.follow above parts).target? = some name) :
    (f.set name bytes).follow above parts = .file name := by
  have habsent := contains_or_of_target? h
  -- Along the walk before the change; each step is one of the changed folder too.
  fun_induction f.follow above parts with
  | case2 above part rest hskip ih =>
    unfold follow
    rw [if_pos hskip]
    exact ih h
  | case3 rest last above hskip ih =>
    unfold follow
    rw [if_neg hskip, if_pos rfl]
    exact ih h
  | case6 above part rest hpart hup found hfile hlast =>
    have hcontains : (f.set name bytes).contains found = true := by
      rw [contains_set, hfile, Bool.true_or]
    rw [follow_file hpart hup hcontains hlast]
    exact congrArg Place.file (Option.some.inj h)
  | case8 above part rest hpart hup found hfile hdirectory ih =>
    have hne : name ≠ found := by
      rintro rfl
      rcases habsent with hcontains | hnone
      · exact hfile hcontains
      · exact Bool.false_ne_true (hnone.symm.trans hdirectory)
    have hcontains : (f.set name bytes).contains found = false := by
      rw [contains_set, Bool.eq_false_iff.2 hfile, decide_eq_false hne, Bool.or_false]
    rw [follow_directory hpart hup hcontains (hasDirectory_set f name bytes hdirectory)]
    exact ih h
  | case9 above part rest hpart hup found hfile hdirectory hlast =>
    have hfound : name = found := (Option.some.inj h).symm
    have hcontains : (f.set name bytes).contains found = true := by
      rw [contains_set, decide_eq_true hfound, Bool.or_true]
    rw [follow_file hpart hup hcontains hlast]
    exact congrArg Place.file hfound.symm
  | _ => cases h

theorem place_set (bytes : Bytes) (h : (f.place path).target? = some name) :
    (f.set name bytes).place path = .file name := by
  unfold place at h ⊢
  split at h
  · cases h
  · split at h
    · split at h <;> cases h
    · rw [if_neg ‹_›, if_neg ‹_›]
      exact follow_set bytes h

/-- What has been written to a path is read from it. -/
theorem read_of_write (h : f.write path bytes = .ok g) : g.read path = .ok bytes := by
  have htarget : ∃ name, (f.place path).target? = some name ∧ g = f.set name bytes := by
    rw [write] at h
    cases hplace : f.place path <;> rw [hplace] at h <;> cases h <;> exact ⟨_, rfl, rfl⟩
  obtain ⟨name, htarget, rfl⟩ := htarget
  rw [read, place_set bytes htarget]
  simp only
  rw [lookup_set, Option.getD_some]

end Folder

end TransitionMap
