import TransitionMap.Machine.Minimal
import TransitionMap.Proofs.Tabling

/-!
# Minimal machines report the same matches

Classes are numbered as their first states come (`Tabled.FirstCome`), and dividing them goes on
until states of one class have equal signatures (`Tabled.Stable`, `Tabled.refine_spec`): each round
that divides a class adds one, and there are no more classes than states. The machine on stable
classes simulates the one it is made from (`Tabled.simulates_minimize`).
-/

namespace TransitionMap

namespace Tabled

variable {t : Tabled}

/-- Every class below that of a state belongs to an earlier state. -/
def FirstCome (t : Tabled) (classOf : Array Nat) : Prop :=
  ∀ s < t.size, ∀ k < classOf.getD s 0, ∃ s' < s, classOf.getD s' 0 = k

/-- States of one class lead to states of one class. -/
def Stable (t : Tabled) (classOf : Array Nat) : Prop :=
  ∀ s < t.size, ∀ s' < t.size, classOf.getD s 0 = classOf.getD s' 0 →
    t.signature classOf s = t.signature classOf s'

/-- The numbers that stand for a class. -/
def classSet (t : Tabled) (classOf : Array Nat) : Finset Nat :=
  (Finset.range t.size).image fun s => classOf.getD s 0

/-! ## Numbering by signature -/

section Classify

variable (g : Nat → List Nat)

theorem getD_classify {s : Nat} (hs : s < t.size) :
    (t.classify g).1.getD s 0 =
      ((OrderedSet.ofList ((List.range t.size).map g)).position? (g s)).getD 0 := by
  simp [classify, hs]

/-- The number of a state is the position of its signature. -/
theorem getElem?_classify {s : Nat} (hs : s < t.size) :
    (OrderedSet.ofList ((List.range t.size).map g)).toList[(t.classify g).1.getD s 0]? =
      some (g s) := by
  have hmem : g s ∈ (OrderedSet.ofList ((List.range t.size).map g)).toList := by
    rw [OrderedSet.mem_ofList]
    exact List.mem_map_of_mem (List.mem_range.2 hs)
  obtain ⟨i, hi⟩ := List.mem_iff_getElem?.1 hmem
  rw [getD_classify g hs, (OrderedSet.position?_eq_some_iff _ _ i).2 hi, Option.getD_some, hi]

theorem classify_eq_iff {s s' : Nat} (hs : s < t.size) (hs' : s' < t.size) :
    (t.classify g).1.getD s 0 = (t.classify g).1.getD s' 0 ↔ g s = g s' := by
  constructor
  · intro heq
    have h := getElem?_classify g hs
    rw [heq, getElem?_classify g hs', Option.some.injEq] at h
    exact h.symm
  · intro heq
    rw [getD_classify g hs, getD_classify g hs', heq]

theorem firstCome_classify : t.FirstCome (t.classify g).1 := by
  intro s hs k hk
  obtain ⟨later, hsplit⟩ :
      ∃ later, (List.range t.size).map g = (List.range s).map g ++ g s :: later := by
    refine ⟨((List.range t.size).drop (s + 1)).map g, ?_⟩
    rw [← List.map_cons, ← List.map_append]
    conv_lhs => rw [← List.take_append_drop s (List.range t.size), List.take_range,
      Nat.min_eq_left (Nat.le_of_lt hs), List.drop_eq_getElem_cons (by simpa using hs),
        List.getElem_range]
  have hs' := getElem?_classify g hs
  obtain ⟨b, hb⟩ : ∃ b, (OrderedSet.ofList ((List.range t.size).map g)).toList[k]? = some b :=
    ⟨_, List.getElem?_eq_getElem (Nat.lt_trans hk (List.getElem?_eq_some_iff.1 hs').1)⟩
  have hmem : b ∈ (List.range s).map g := by
    rw [hsplit] at hs' hb
    exact OrderedSet.mem_of_lt_position hs' hk hb
  obtain ⟨s', hlt, rfl⟩ := List.mem_map.1 hmem
  have hlt := List.mem_range.1 hlt
  refine ⟨s', hlt, ?_⟩
  rw [getD_classify g (Nat.lt_trans hlt hs), (OrderedSet.position?_eq_some_iff _ _ k).2 hb,
    Option.getD_some]

theorem classify_count : (t.classify g).2 = ((Finset.range t.size).image g).card := by
  have hlist : ((List.range t.size).map g).toFinset = (Finset.range t.size).image g := by
    ext a
    simp
  rw [← hlist, ← OrderedSet.length_ofList, ← OrderedSet.size_eq_length]
  rfl

theorem card_classSet_classify : (t.classSet (t.classify g).1).card = (t.classify g).2 := by
  have himage : t.classSet (t.classify g).1 = ((Finset.range t.size).image g).image
      fun v => ((OrderedSet.ofList ((List.range t.size).map g)).position? v).getD 0 := by
    rw [Finset.image_image]
    exact Finset.image_congr fun s hs => getD_classify g (Finset.mem_range.1 hs)
  rw [classify_count, himage]
  refine Finset.card_image_of_injOn fun v hv v' hv' heq => ?_
  obtain ⟨s, hs, rfl⟩ := Finset.mem_image.1 hv
  obtain ⟨s', hs', rfl⟩ := Finset.mem_image.1 hv'
  have hs := Finset.mem_range.1 hs
  have hs' := Finset.mem_range.1 hs'
  refine (classify_eq_iff g hs hs').1 ?_
  rw [getD_classify g hs, getD_classify g hs']
  exact heq

end Classify

/-! ## Dividing classes -/

section Refine

variable {classOf : Array Nat}

theorem card_classSet_le : (t.classSet classOf).card ≤ t.size :=
  Nat.le_trans Finset.card_image_le (Nat.le_of_eq (Finset.card_range t.size))

/-- The classes are what signatures begin with. -/
theorem classSet_eq_image :
    t.classSet classOf = ((Finset.range t.size).image (t.signature classOf)).image (·.headD 0) := by
  rw [Finset.image_image]
  rfl

theorem class_eq_of_signature_eq {s s' : Nat} (h : t.signature classOf s = t.signature classOf s') :
    classOf.getD s 0 = classOf.getD s' 0 := (List.cons.inj h).1

/-- A round leaves no class out. -/
theorem card_classSet_le_count :
    (t.classSet classOf).card ≤ (t.classify (t.signature classOf)).2 := by
  rw [classify_count, classSet_eq_image]
  exact Finset.card_image_le

/-- When a round adds no class, no class has divided. -/
theorem stable_of_count_eq
    (hcount : (t.classify (t.signature classOf)).2 = (t.classSet classOf).card) :
    t.Stable classOf := by
  rw [classify_count, classSet_eq_image, eq_comm, Finset.card_image_iff] at hcount
  intro s hs s' hs' heq
  have hmem : ∀ r < t.size,
      t.signature classOf r ∈ (Finset.range t.size).image (t.signature classOf) :=
    fun r hr => Finset.mem_image_of_mem _ (Finset.mem_range.2 hr)
  exact hcount (hmem s hs) (hmem s' hs') heq

theorem refine_spec {fuel count : Nat} (hfirst : t.FirstCome classOf)
    (hcount : count = (t.classSet classOf).card) (hfuel : t.size < fuel + count) :
    t.FirstCome (t.refine fuel classOf count).1 ∧ t.Stable (t.refine fuel classOf count).1 ∧
      ∀ s < t.size, ∀ s' < t.size,
        (t.refine fuel classOf count).1.getD s 0 = (t.refine fuel classOf count).1.getD s' 0 →
          classOf.getD s 0 = classOf.getD s' 0 := by
  induction fuel generalizing classOf count with
  | zero =>
    have hle : (t.classSet classOf).card ≤ t.size := card_classSet_le
    omega
  | succ fuel ih =>
    simp only [refine]
    split
    case isTrue heq => exact ⟨hfirst, stable_of_count_eq (heq.trans hcount), fun _ _ _ _ h => h⟩
    case isFalse hne =>
      have hle : (t.classSet classOf).card ≤ (t.classify (t.signature classOf)).2 :=
        card_classSet_le_count
      obtain ⟨hfirst', hstable, hrefines⟩ := ih (firstCome_classify (t.signature classOf))
        (card_classSet_classify _).symm (by omega)
      refine ⟨hfirst', hstable, fun s hs s' hs' h => ?_⟩
      exact class_eq_of_signature_eq ((classify_eq_iff _ hs hs').1 (hrefines s hs s' hs' h))

/-- The classes of a table: what they tell apart, and that they are stable. -/
theorem classes_spec :
    t.FirstCome t.classes.1 ∧ t.Stable t.classes.1 ∧
      ∀ s < t.size, ∀ s' < t.size, t.classes.1.getD s 0 = t.classes.1.getD s' 0 →
        t.matchesAt s = t.matchesAt s' := by
  have hpos : 0 < (t.classify fun s => [if t.matchesAt s then 1 else 0]).2 := by
    rw [classify_count, Finset.card_pos]
    exact ⟨_, Finset.mem_image_of_mem _ (Finset.mem_range.2 t.nonempty)⟩
  have hfuel :
      t.size < t.size + (t.classify fun s => [if t.matchesAt s then 1 else 0]).2 := by omega
  obtain ⟨hfirst, hstable, hrefines⟩ :=
    refine_spec (firstCome_classify _) (card_classSet_classify _).symm hfuel
  refine ⟨hfirst, hstable, fun s hs s' hs' h => ?_⟩
  have hsignature := (classify_eq_iff _ hs hs').1 (hrefines s hs s' hs' h)
  cases hmatch : t.matchesAt s <;> cases hmatch' : t.matchesAt s' <;> simp_all

end Refine

/-! ## The machine on classes -/

section Minimize

variable {classOf : Array Nat}

/-- The first states of the classes of the states below a number. -/
structure Represents (classOf : Array Nat) (n : Nat) (reps : Array Nat) : Prop where
  sound : ∀ k s, reps[k]? = some s → s < n ∧ classOf.getD s 0 = k
  complete : ∀ s < n, classOf.getD s 0 < reps.size

/-- One more state: if its class is new, it is the next one. -/
theorem Represents.visit {n : Nat} {reps : Array Nat} (h : Represents classOf n reps)
    (hle : classOf.getD n 0 ≤ reps.size) :
    Represents classOf (n + 1) (if classOf.getD n 0 = reps.size then reps.push n else reps) := by
  split
  case isTrue hnew =>
    refine ⟨fun k s hs => ?_, fun s hs => ?_⟩
    · rw [Array.getElem?_push] at hs
      split at hs
      case isTrue hk =>
        obtain rfl := Option.some.inj hs
        exact ⟨Nat.lt_succ_self n, hnew.trans hk.symm⟩
      case isFalse =>
        exact ⟨Nat.lt_succ_of_lt (h.sound k s hs).1, (h.sound k s hs).2⟩
    · rw [Array.size_push]
      rcases Nat.lt_or_eq_of_le (Nat.le_of_lt_succ hs) with hs | rfl
      · exact Nat.lt_succ_of_lt (h.complete s hs)
      · exact Nat.lt_succ_of_le hle
  case isFalse hold =>
    refine ⟨fun k s hs => ⟨Nat.lt_succ_of_lt (h.sound k s hs).1, (h.sound k s hs).2⟩,
      fun s hs => ?_⟩
    rcases Nat.lt_or_eq_of_le (Nat.le_of_lt_succ hs) with hs | rfl
    · exact h.complete s hs
    · exact Nat.lt_of_le_of_ne hle hold

theorem represents_representatives (hfirst : t.FirstCome classOf) :
    Represents classOf t.size (t.representatives classOf) := by
  have h : ∀ n ≤ t.size, Represents classOf n ((List.range n).foldl
      (fun reps s => if classOf.getD s 0 = reps.size then reps.push s else reps) #[]) := by
    intro n hn
    induction n with
    | zero => exact ⟨fun k s hs => by simp at hs, fun s hs => absurd hs (Nat.not_lt_zero s)⟩
    | succ n ih =>
      have ih := ih (Nat.le_of_succ_le hn)
      rw [List.range_succ, List.foldl_append, List.foldl_cons, List.foldl_nil]
      refine ih.visit ?_
      -- a class that is new at `n` comes right behind those of the earlier states
      by_contra hgt
      obtain ⟨s, hs, hclass⟩ := hfirst n hn _ (Nat.lt_of_not_le hgt)
      exact Nat.lt_irrefl _ (hclass ▸ ih.complete s hs)
  exact h t.size (Nat.le_refl _)

theorem minimize_eq : ∃ h, t.minimize = ofRows t.columns
    ((t.representatives t.classes.1).map fun s => (t.row s).map fun u => t.classes.1.getD u 0)
    ((t.representatives t.classes.1).map t.matchesAt) h := by
  have hreps := represents_representatives (t.classes_spec).1
  have hpos : 0 < ((t.representatives t.classes.1).map fun s =>
      (t.row s).map fun u => t.classes.1.getD u 0).size := by
    rw [Array.size_map]
    exact Nat.lt_of_le_of_lt (Nat.zero_le _) (hreps.complete 0 t.nonempty)
  exact ⟨hpos, dif_pos hpos⟩

theorem columns_minimize : t.minimize.columns = t.columns := by
  obtain ⟨_, h⟩ := t.minimize_eq
  rw [h]
  rfl

theorem row_lt {s : Nat} {u : Nat} (hu : u ∈ t.row s) : u < t.size := by
  rw [row, Array.getD_eq_getD_getElem?] at hu
  cases hrow : t.rows[s]? with
  | none => simp [hrow] at hu
  | some r =>
    rw [hrow, Option.getD_some] at hu
    exact t.closed r (Array.mem_of_getElem? hrow) u hu

/-- A number of the minimal machine is the class of a first state, and its row is the row of that
state in classes. -/
theorem minimize_spec {k : Nat} (hk : k < t.minimize.size) :
    ∃ first < t.size, t.classes.1.getD first 0 = k ∧ t.minimize.matchesAt k = t.matchesAt first ∧
      t.minimize.row k = (t.row first).map fun u => t.classes.1.getD u 0 := by
  have hreps := represents_representatives (t.classes_spec).1
  obtain ⟨_, h⟩ := t.minimize_eq
  rw [h] at hk ⊢
  simp only [size, ofRows, Array.size_map] at hk
  obtain ⟨first, hfirst⟩ : ∃ first, (t.representatives t.classes.1)[k]? = some first :=
    ⟨_, Array.getElem?_eq_getElem hk⟩
  obtain ⟨hlt, hclass⟩ := hreps.sound k first hfirst
  refine ⟨first, hlt, hclass, by simp [matchesAt, ofRows, hfirst], ?_⟩
  simp only [row, ofRows, Array.getD_eq_getD_getElem?, Array.getElem?_map, hfirst, Option.map_some,
    Option.getD_some]
  rw [Array.map_map]
  refine Array.map_congr_left fun u hu => ?_
  have hu' : u < t.size := row_lt (by rwa [row, Array.getD_eq_getD_getElem?])
  rw [Function.comp_apply, Array.size_map, if_pos]
  simpa only [Array.getD_eq_getD_getElem?] using hreps.complete u hu'

theorem class_lt_minimize {s : Nat} (hs : s < t.size) : t.classes.1.getD s 0 < t.minimize.size := by
  obtain ⟨_, h⟩ := t.minimize_eq
  rw [h, size, ofRows, Array.size_map, Array.size_map]
  exact (represents_representatives (t.classes_spec).1).complete s hs

/-- The class of the start is the first. -/
theorem class_zero : t.classes.1.getD 0 0 = 0 := by
  by_contra hne
  obtain ⟨s, hs, -⟩ := (t.classes_spec).1 0 t.nonempty 0 (Nat.pos_of_ne_zero hne)
  exact Nat.not_lt_zero s hs

/-- The class that a symbol leads to, read off a row in classes. -/
theorem class_next (s : Nat) (x : Symbol) : t.classes.1.getD (t.next s x) 0 =
    ((t.row s).map fun u => t.classes.1.getD u 0).getD (t.columns.index x) 0 := by
  have hzero := t.class_zero
  simp only [next, Array.getD_eq_getD_getElem?, Array.getElem?_map] at hzero ⊢
  cases (t.row s)[t.columns.index x]? with
  | none => exact hzero
  | some u => rfl

/-- States of one class have one row in classes. -/
theorem map_row_eq {s s' : Nat} (hs : s < t.size) (hs' : s' < t.size)
    (h : t.classes.1.getD s 0 = t.classes.1.getD s' 0) :
    ((t.row s).map fun u => t.classes.1.getD u 0) =
      (t.row s').map fun u => t.classes.1.getD u 0 := by
  have hsignature := (List.cons.inj ((t.classes_spec).2.1 s hs s' hs' h)).2
  rw [← Array.toList_inj, Array.toList_map, Array.toList_map]
  exact hsignature

/-- The minimal machine runs as the machine it is made from. -/
theorem simulates_minimize :
    t.toMachine.Simulates t.minimize.toMachine
      fun s k => s < t.size ∧ t.classes.1.getD s 0 = k where
  start := ⟨t.nonempty, class_zero⟩
  next s k h x := by
    obtain ⟨hs, rfl⟩ := h
    obtain ⟨first, hfirst, hclass, -, hrow⟩ := minimize_spec (class_lt_minimize hs)
    have hnext : t.minimize.next (t.classes.1.getD s 0) x = t.classes.1.getD (t.next s x) 0 := by
      rw [class_next, map_row_eq hs hfirst hclass.symm, next, hrow, columns_minimize]
    exact ⟨t.next_lt s x, hnext.symm⟩
  isMatch s k h := by
    obtain ⟨hs, rfl⟩ := h
    obtain ⟨first, hfirst, hclass, hmatch, -⟩ := minimize_spec (class_lt_minimize hs)
    have hsame : t.matchesAt s = t.minimize.matchesAt (t.classes.1.getD s 0) := by
      rw [hmatch, (t.classes_spec).2.2 s hs first hfirst hclass.symm]
    exact hsame

theorem Covered.minimize (h : t.Covered) : t.minimize.Covered := by
  intro k hk x
  obtain ⟨first, hfirst, -, -, hrow⟩ := minimize_spec hk
  rw [hrow, Array.size_map, columns_minimize]
  exact h first hfirst x

end Minimize

end Tabled

end TransitionMap
