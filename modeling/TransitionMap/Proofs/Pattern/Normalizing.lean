import Mathlib.Algebra.BigOperators.Group.List.Lemmas
import Mathlib.Algebra.BigOperators.Ring.List
import TransitionMap.Proofs.Pattern.Asserting

/-!
# The normal form keeps the language

Sequences become products of languages (`Expr.language_concat`), alternations sums
(`Expr.language_alternate`) and repetitions rounds (`Expr.language_repetition`), however the normal
form joins texts, merges sets, takes out common beginnings or repeats less often. Building in
normal form adds no assertion (`Expr.free_concat`, `Expr.free_alternate`, `Expr.free_repetition`).
-/

namespace TransitionMap

/-! ## Normal sets -/

namespace CharSet

theorem mem_mergeFrom {lo hi c : Nat} {s : CharSet}
    (hsorted : ((lo, hi) :: s).Pairwise fun a b => a.1 ≤ b.1) :
    (mergeFrom lo hi s).mem c = true ↔ (lo ≤ c ∧ c ≤ hi) ∨ s.mem c = true := by
  induction s generalizing lo hi with
  | nil => rw [mergeFrom, mem_cons]
  | cons r s ih =>
    obtain ⟨hlo, hs⟩ := List.pairwise_cons.1 hsorted
    have hr : lo ≤ r.1 := hlo r List.mem_cons_self
    rw [mergeFrom, mem_cons]
    split
    case isTrue hjoin =>
      have hjoined : ((lo, max hi r.2) :: s).Pairwise fun a b => a.1 ≤ b.1 :=
        List.pairwise_cons.2 ⟨fun q hq => hlo q (List.mem_cons_of_mem r hq), hs.of_cons⟩
      rw [ih hjoined, ← or_assoc]
      refine or_congr_left ?_
      omega
    case isFalse =>
      rw [mem_cons, ih hs]

theorem mem_normalize {ranges : List (Nat × Nat)} {c : Nat} :
    (normalize ranges).mem c = true ↔ CharSet.mem ranges c = true := by
  have hperm := List.mergeSort_perm ranges (fun a b => decide (a.1 ≤ b.1))
  have hsorted :
      (ranges.mergeSort fun a b => decide (a.1 ≤ b.1)).Pairwise fun a b => a.1 ≤ b.1 := by
    refine (List.pairwise_mergeSort (fun a b c => ?_) (fun a b => ?_) ranges).imp
      of_decide_eq_true
    · simpa using Nat.le_trans
    · simpa using Nat.le_total a.1 b.1
  have hmem : CharSet.mem ranges c = true ↔
      CharSet.mem (ranges.mergeSort fun a b => decide (a.1 ≤ b.1)) c = true := by
    simp only [mem_eq_true, hperm.mem_iff]
  rw [hmem, normalize]
  cases hlist : ranges.mergeSort fun a b => decide (a.1 ≤ b.1) with
  | nil => rfl
  | cons r s =>
    rw [hlist] at hsorted
    rw [merge, mem_mergeFrom hsorted, mem_cons]

end CharSet

namespace Pattern.Expr

/-! ## Sequences -/

theorem prod_parts (e : Expr) : ((parts e).map language).prod = e.language := by
  induction e with
  | empty => rfl
  | seq a b iha ihb => rw [parts, List.map_append, List.prod_append, iha, ihb, language]
  | _ => exact List.prod_singleton

theorem language_text_append (cs ds : List Char) :
    (text (cs ++ ds)).language = (text cs).language * (text ds).language := by
  ext w
  rw [Language.mem_mul]
  constructor
  · rintro rfl
    exact ⟨_, rfl, _, rfl, List.flatMap_append.symm⟩
  · rintro ⟨_, rfl, _, rfl, rfl⟩
    exact List.flatMap_append.symm

theorem prod_joinTexts (es : List Expr) :
    ((joinTexts es).map language).prod = (es.map language).prod := by
  induction es with
  | nil => rfl
  | cons e es ih =>
    rw [List.map_cons, List.prod_cons, ← ih]
    cases e with
    | text cs =>
      rw [joinTexts]
      split
      case h_1 ds rest hjoin =>
        rw [hjoin, List.map_cons, List.prod_cons, List.map_cons, List.prod_cons,
          language_text_append, mul_assoc]
      case h_2 => rw [List.map_cons, List.prod_cons]
    | _ =>
      rw [joinTexts, List.map_cons, List.prod_cons]
      exact nofun

theorem language_ofParts (es : List Expr) : (ofParts es).language = (es.map language).prod := by
  induction es with
  | nil => rfl
  | cons e es ih =>
    cases es with
    | nil => exact List.prod_singleton.symm
    | cons e' es =>
      have hparts : ofParts (e :: e' :: es) = seq e (ofParts (e' :: es)) := rfl
      rw [hparts, language, ih, ← List.prod_cons, ← List.map_cons]

/-- A sequence matches the words of its parts, one after the other. -/
theorem language_concat (es : List Expr) : (concat es).language = (es.map language).prod := by
  rw [concat, language_ofParts, prod_joinTexts]
  induction es with
  | nil => rfl
  | cons e es ih =>
    rw [List.flatMap_cons, List.map_append, List.prod_append, prod_parts, ih, List.map_cons,
      List.prod_cons]

/-! ## Alternations -/

theorem sum_branches (e : Expr) : ((branches e).map language).sum = e.language := by
  induction e with
  | either a b iha ihb => rw [branches, List.map_append, List.sum_append, iha, ihb, language]
  | _ => exact List.sum_singleton

theorem sum_flatMap_branches (es : List Expr) :
    ((es.flatMap branches).map language).sum = (es.map language).sum := by
  induction es with
  | nil => rfl
  | cons e es ih =>
    rw [List.flatMap_cons, List.map_append, List.sum_append, sum_branches, ih, List.map_cons,
      List.sum_cons]

theorem language_never : never.language = 0 := by
  ext w
  refine iff_of_false ?_ (Language.notMem_zero w)
  rintro ⟨c, hc, -⟩
  cases hc

theorem language_ofBranches (es : List Expr) :
    (ofBranches es).language = (es.map language).sum := by
  induction es with
  | nil => exact language_never
  | cons e es ih =>
    cases es with
    | nil => exact List.sum_singleton.symm
    | cons e' es =>
      have hbranches : ofBranches (e :: e' :: es) = either e (ofBranches (e' :: es)) := rfl
      rw [hbranches, language, ih, ← List.sum_cons, ← List.map_cons]

theorem language_text_singleton (c : Char) : (text [c]).language = {String.utf8EncodeChar c} := by
  rw [language, List.flatMap_singleton]

theorem language_chars_singleton (c : Char) :
    (chars (CharSet.singleton c)).language = (text [c]).language := by
  rw [language_text_singleton]
  ext w
  constructor
  · rintro ⟨d, hd, rfl⟩
    simp only [CharSet.singleton, CharSet.mem_cons, CharSet.mem_nil, or_false] at hd
    obtain rfl : d = c := Char.toNat_inj.1 (Nat.le_antisymm hd.2 hd.1)
    rfl
  · rintro rfl
    exact ⟨c, CharSet.mem_cons.2 (.inl ⟨Nat.le_refl _, Nat.le_refl _⟩), rfl⟩

/-- A set of one character is matched as a text. -/
theorem language_ofSet (set : CharSet) : (ofSet set).language = (chars set).language := by
  unfold ofSet
  split
  case h_2 => rfl
  case h_1 n hset =>
    split
    case isFalse => rfl
    case isTrue hvalid =>
      have hsingle : set = CharSet.singleton (Char.ofNat n) := by
        have hn : (Char.ofNat n).toNat = n := by
          rw [Char.ofNat, dif_pos hvalid]
          rfl
        unfold CharSet.only? at hset
        split at hset
        case h_1 lo hi =>
          simp only [Option.ite_none_right_eq_some, Option.some.injEq] at hset
          obtain ⟨rfl, rfl⟩ := hset
          rw [CharSet.singleton, hn]
        case h_2 => cases hset
      rw [hsingle, language_chars_singleton]

theorem language_of_single? {e : Expr} {set : CharSet} (h : single? e = some set) :
    e.language = (chars set).language := by
  unfold single? at h
  split at h
  case h_1 c =>
    obtain rfl := Option.some.inj h
    exact (language_chars_singleton c).symm
  case h_2 =>
    obtain rfl := Option.some.inj h
    rfl
  case h_3 => cases h

theorem language_chars_append (s t : CharSet) :
    (chars (s ++ t)).language = (chars s).language + (chars t).language := by
  ext w
  have hmem : ∀ c, CharSet.mem (s ++ t) c = true ↔
      CharSet.mem s c = true ∨ CharSet.mem t c = true := fun c => by
    simp [CharSet.mem]
  constructor
  · rintro ⟨c, hc, hw⟩
    exact ((hmem c.toNat).1 hc).imp (⟨c, ·, hw⟩) (⟨c, ·, hw⟩)
  · rintro (⟨c, hc, hw⟩ | ⟨c, hc, hw⟩)
    · exact ⟨c, (hmem c.toNat).2 (.inl hc), hw⟩
    · exact ⟨c, (hmem c.toNat).2 (.inr hc), hw⟩

theorem sum_of_singles {es : List Expr} {sets : List CharSet} (h : es.mapM single? = some sets) :
    (es.map language).sum = (chars sets.flatten).language := by
  induction es generalizing sets with
  | nil =>
    obtain rfl := Option.some.inj h
    exact language_never.symm
  | cons e es ih =>
    rw [List.mapM_cons] at h
    obtain ⟨set, hset, h⟩ := Option.bind_eq_some_iff.1 h
    obtain ⟨sets, hsets, h⟩ := Option.bind_eq_some_iff.1 h
    obtain rfl := Option.some.inj h
    rw [List.map_cons, List.sum_cons, ih hsets, language_of_single? hset, List.flatten_cons,
      language_chars_append]

/-! ## Common beginnings -/

theorem commonPrefix_begins (as bs : List Expr) :
    commonPrefix as bs <+: as ∧ commonPrefix as bs <+: bs := by
  induction as generalizing bs with
  | nil => exact ⟨List.nil_prefix, List.nil_prefix⟩
  | cons a as ih =>
    cases bs with
    | nil => exact ⟨List.nil_prefix, List.nil_prefix⟩
    | cons b bs =>
      rw [commonPrefix]
      split
      case isTrue heq =>
        subst heq
        exact ⟨List.cons_prefix_cons.2 ⟨rfl, (ih bs).1⟩, List.cons_prefix_cons.2 ⟨rfl, (ih bs).2⟩⟩
      case isFalse => exact ⟨List.nil_prefix, List.nil_prefix⟩

theorem foldl_commonPrefix_begins (shared : List Expr) (es : List Expr) :
    es.foldl (fun acc e => commonPrefix acc (parts e)) shared <+: shared ∧
      ∀ e ∈ es, es.foldl (fun acc e => commonPrefix acc (parts e)) shared <+: parts e := by
  induction es generalizing shared with
  | nil => exact ⟨List.prefix_refl _, fun e he => absurd he List.not_mem_nil⟩
  | cons e es ih =>
    obtain ⟨hshared, hes⟩ := ih (commonPrefix shared (parts e))
    obtain ⟨hleft, hright⟩ := commonPrefix_begins shared (parts e)
    rw [List.foldl_cons]
    exact ⟨hshared.trans hleft, List.forall_mem_cons.2 ⟨hshared.trans hright, hes⟩⟩

/-- Every branch begins with what all of them share. -/
theorem sharedPrefix_begins {es : List Expr} {e : Expr} (he : e ∈ es) :
    sharedPrefix es <+: parts e := by
  cases es with
  | nil => cases he
  | cons e' es =>
    rw [sharedPrefix]
    split
    case isTrue =>
      obtain ⟨hfirst, hes⟩ := foldl_commonPrefix_begins (parts e') es
      rcases List.mem_cons.1 he with rfl | he
      · exact hfirst
      · exact hes e he
    case isFalse => exact List.nil_prefix

/-- A branch is what is shared, followed by the rest of its parts. -/
theorem language_of_shared {shared : List Expr} {e : Expr} (h : shared <+: parts e) :
    e.language = (shared.map language).prod * (concat ((parts e).drop shared.length)).language := by
  obtain ⟨rest, hrest⟩ := h
  rw [← prod_parts e, language_concat, ← hrest, List.drop_left, List.map_append, List.prod_append]

theorem language_alternateWith (fuel : Nat) (es : List Expr) :
    (alternateWith fuel es).language = (es.map language).sum := by
  induction fuel generalizing es with
  | zero => exact language_ofBranches es
  | succ fuel ih =>
    rw [← sum_flatMap_branches es, alternateWith]
    generalize es.flatMap branches = es
    split
    case h_1 => exact language_never
    case h_2 => exact List.sum_singleton.symm
    case h_3 =>
      split
      case h_1 sets hsets =>
        rw [sum_of_singles hsets, language_ofSet]
        ext w
        exact exists_congr fun c => and_congr_left fun _ => CharSet.mem_normalize
      case h_2 =>
        split
        case h_1 => exact language_ofBranches _
        case h_2 =>
          rw [language_concat, List.map_append, List.prod_append, List.map_singleton,
            List.prod_singleton, ih, ← List.sum_map_mul_left, List.map_map]
          refine congrArg List.sum (List.map_congr_left fun e he => ?_)
          exact (language_of_shared (sharedPrefix_begins he)).symm

/-- An alternation matches the words of its branches. -/
theorem language_alternate (es : List Expr) : (alternate es).language = (es.map language).sum :=
  language_alternateWith _ es

/-! ## Repetitions -/

theorem eq_nil_of_mem_pow {L : Language UInt8} (hnil : ∀ w ∈ L, w = []) {n : Nat} {w : Bytes}
    (hw : w ∈ L ^ n) :
    w = [] := by
  obtain ⟨words, rfl, -, hwords⟩ := Language.mem_pow.1 hw
  exact List.flatten_eq_nil_iff.2 fun u hu => hnil u (hwords u hu)

/-- What has no length matches nothing but the empty word. -/
theorem eq_nil_of_maxLength {e : Expr} (h : e.maxLength = some 0) {w : Bytes}
    (hw : w ∈ e.language) : w = [] := by
  induction e generalizing w with
  | empty => exact hw
  | text cs =>
    have hempty : String.ofList cs = String.ofList [] :=
      (String.utf8ByteSize_eq_zero_iff.1 (Option.some.inj h)).trans String.ofList_nil.symm
    obtain rfl := String.ofList_inj.1 hempty
    exact hw
  | chars set =>
    rw [maxLength] at h
    obtain ⟨r, -, hr⟩ := Option.map_eq_some_iff.1 h
    have hpos : 0 < utf8Length r.2 := by
      unfold utf8Length
      split_ifs <;> decide
    exact absurd hr (Nat.ne_of_gt hpos)
  | assert a => exact hw
  | seq a b iha ihb =>
    simp only [maxLength, Option.bind_eq_bind, Option.bind_eq_some_iff, Option.pure_def,
      Option.some.injEq] at h
    obtain ⟨m, hm, n, hn, hsum⟩ := h
    obtain ⟨rfl, rfl⟩ := Nat.add_eq_zero_iff.1 hsum
    obtain ⟨u, hu, v, hv, rfl⟩ := Language.mem_mul.1 hw
    rw [iha hm hu, ihb hn hv, List.append_nil]
  | either a b iha ihb =>
    simp only [maxLength, Option.bind_eq_bind, Option.bind_eq_some_iff, Option.pure_def,
      Option.some.injEq] at h
    obtain ⟨m, hm, n, hn, hmax⟩ := h
    rcases hw with hw | hw
    · obtain rfl : m = 0 := by omega
      exact iha hm hw
    · obtain rfl : n = 0 := by omega
      exact ihb hn hw
  | repeated least most greedy sub ih =>
    simp only [maxLength, Option.bind_eq_bind, Option.bind_eq_some_iff, Option.pure_def,
      Option.some.injEq] at h
    obtain ⟨m, hm, n, rfl, hproduct⟩ := h
    obtain ⟨k, hk, hw⟩ := Fragment.mem_rounds.1 hw
    have hk := hk n rfl
    rcases Nat.mul_eq_zero.1 hproduct with rfl | hmax
    · exact eq_nil_of_mem_pow (fun w hw => ih hm hw) hw
    · obtain ⟨rfl, rfl⟩ : least = 0 ∧ k = 0 := by omega
      exact hw
  | capture index sub ih => exact ih h hw

/-- Rounds of what is at most the empty word are one round or none. -/
theorem rounds_of_nil {L : Language UInt8} (hnil : ∀ w ∈ L, w = []) (least : Nat)
    (most : Option Nat) :
    Fragment.rounds L least most = if least = 0 then 1 else L := by
  have hrounds : ∀ w ∈ Fragment.rounds L least most, w = [] := fun w hw => by
    obtain ⟨k, -, hk⟩ := Fragment.mem_rounds.1 hw
    exact eq_nil_of_mem_pow hnil hk
  ext w
  split
  case isTrue hzero =>
    subst hzero
    refine ⟨fun hw => hrounds w hw, ?_⟩
    rintro rfl
    exact ⟨0, fun _ _ => Nat.zero_le _, Language.nil_mem_one⟩
  case isFalse hpos =>
    obtain ⟨m, rfl⟩ := Nat.exists_eq_succ_of_ne_zero hpos
    constructor
    · intro hw
      obtain rfl := hrounds w hw
      obtain ⟨k, -, hk⟩ := Fragment.mem_rounds.1 hw
      rw [Nat.succ_add, pow_succ, Language.mem_mul] at hk
      obtain ⟨u, -, v, hv, huv⟩ := hk
      rwa [(List.append_eq_nil_iff.1 huv).2] at hv
    · intro hw
      obtain rfl := hnil w hw
      refine ⟨0, fun _ _ => Nat.zero_le _,
        Language.mem_pow.2 ⟨List.replicate (m + 1) [], ?_, ?_, ?_⟩⟩
      · exact (List.flatten_eq_nil_iff.2 fun u hu => List.eq_of_mem_replicate hu).symm
      · exact List.length_replicate
      · exact fun u hu => List.eq_of_mem_replicate hu ▸ hw

theorem language_rounds (least : Nat) (most : Option Nat) (greedy : Bool) (sub : Expr) :
    (if least = 0 ∧ most = some 0 then empty else if least = 1 ∧ most = some 1 then sub
      else repeated least most greedy sub).language = Fragment.rounds sub.language least most := by
  split
  case isTrue h =>
    obtain ⟨rfl, rfl⟩ := h
    rw [Fragment.rounds_some, pow_zero, one_mul, Nat.sub_self, Fragment.upTo_zero, language]
  case isFalse =>
    split
    case isTrue h =>
      obtain ⟨rfl, rfl⟩ := h
      rw [Fragment.rounds_some, pow_one, Nat.sub_self, Fragment.upTo_zero, mul_one]
    case isFalse => rfl

/-- A repetition matches rounds of what is repeated. -/
theorem language_repetition (least : Nat) (most : Option Nat) (greedy : Bool) (sub : Expr) :
    (repetition least most greedy sub).language = Fragment.rounds sub.language least most := by
  rw [repetition]
  simp only [language_rounds]
  split
  case isTrue hnone =>
    have hnil : ∀ w ∈ sub.language, w = [] := fun w hw => eq_nil_of_maxLength hnone hw
    rw [rounds_of_nil hnil, rounds_of_nil hnil]
    have hleast : Nat.min least 1 = min least 1 := rfl
    refine if_congr ?_ rfl rfl
    omega
  case isFalse => rfl

/-! ## Assertions -/

theorem free_ofParts {es : List Expr} (h : ∀ e ∈ es, e.assertions = []) :
    (ofParts es).assertions = [] := by
  induction es with
  | nil => rfl
  | cons e es ih =>
    obtain ⟨he, hes⟩ := List.forall_mem_cons.1 h
    cases es with
    | nil => exact he
    | cons e' es => exact List.append_eq_nil_iff.2 ⟨he, ih hes⟩

theorem free_parts {e : Expr} (h : e.assertions = []) : ∀ part ∈ parts e, part.assertions = [] := by
  induction e with
  | empty => exact fun part hpart => absurd hpart List.not_mem_nil
  | seq a b iha ihb =>
    obtain ⟨ha, hb⟩ := List.append_eq_nil_iff.1 h
    exact fun part hpart => (List.mem_append.1 hpart).elim (iha ha part) (ihb hb part)
  | _ => exact fun part hpart => List.mem_singleton.1 hpart ▸ h

theorem free_joinTexts {es : List Expr} (h : ∀ e ∈ es, e.assertions = []) :
    ∀ e ∈ joinTexts es, e.assertions = [] := by
  induction es with
  | nil => exact h
  | cons e es ih =>
    obtain ⟨he, hes⟩ := List.forall_mem_cons.1 h
    have ih := ih hes
    cases e with
    | text cs =>
      rw [joinTexts]
      split
      case h_1 ds rest hjoin =>
        rw [hjoin] at ih
        exact List.forall_mem_cons.2 ⟨rfl, (List.forall_mem_cons.1 ih).2⟩
      case h_2 => exact List.forall_mem_cons.2 ⟨rfl, ih⟩
    | _ =>
      rw [joinTexts]
      · exact List.forall_mem_cons.2 ⟨he, ih⟩
      · exact nofun

theorem free_concat {es : List Expr} (h : ∀ e ∈ es, e.assertions = []) :
    (concat es).assertions = [] := by
  refine free_ofParts (free_joinTexts fun part hpart => ?_)
  obtain ⟨e, he, hpart⟩ := List.mem_flatMap.1 hpart
  exact free_parts (h e he) part hpart

theorem free_branches {e : Expr} (h : e.assertions = []) :
    ∀ branch ∈ branches e, branch.assertions = [] := by
  induction e with
  | either a b iha ihb =>
    obtain ⟨ha, hb⟩ := List.append_eq_nil_iff.1 h
    exact fun branch hbranch => (List.mem_append.1 hbranch).elim (iha ha branch) (ihb hb branch)
  | _ => exact fun branch hbranch => List.mem_singleton.1 hbranch ▸ h

theorem free_ofBranches {es : List Expr} (h : ∀ e ∈ es, e.assertions = []) :
    (ofBranches es).assertions = [] := by
  induction es with
  | nil => rfl
  | cons e es ih =>
    obtain ⟨he, hes⟩ := List.forall_mem_cons.1 h
    cases es with
    | nil => exact he
    | cons e' es => exact List.append_eq_nil_iff.2 ⟨he, ih hes⟩

theorem free_ofSet (set : CharSet) : (ofSet set).assertions = [] := by
  unfold ofSet
  split
  · split <;> rfl
  · rfl

theorem free_alternateWith {fuel : Nat} {es : List Expr} (h : ∀ e ∈ es, e.assertions = []) :
    (alternateWith fuel es).assertions = [] := by
  induction fuel generalizing es with
  | zero => exact free_ofBranches h
  | succ fuel ih =>
    have hbranches : ∀ e ∈ es.flatMap branches, e.assertions = [] := fun branch hbranch => by
      obtain ⟨e, he, hbranch⟩ := List.mem_flatMap.1 hbranch
      exact free_branches (h e he) branch hbranch
    rw [alternateWith]
    generalize es.flatMap branches = es at hbranches
    split
    case h_1 => rfl
    case h_2 e => exact hbranches e (List.mem_singleton_self e)
    case h_3 =>
      split
      case h_1 => exact free_ofSet _
      case h_2 =>
        split
        case h_1 => exact free_ofBranches hbranches
        case h_2 =>
          refine free_concat fun part hpart => ?_
          rcases List.mem_append.1 hpart with hshared | hrest
          · cases es with
            | nil => cases hshared
            | cons e es =>
              have hmem := (sharedPrefix_begins List.mem_cons_self).subset hshared
              exact free_parts (hbranches e List.mem_cons_self) part hmem
          · obtain rfl := List.mem_singleton.1 hrest
            refine ih fun branch hbranch => ?_
            obtain ⟨e, he, rfl⟩ := List.mem_map.1 hbranch
            exact free_concat fun part hpart => free_parts (hbranches e he) part
              (List.mem_of_mem_drop hpart)

theorem free_alternate {es : List Expr} (h : ∀ e ∈ es, e.assertions = []) :
    (alternate es).assertions = [] :=
  free_alternateWith h

theorem free_repetition {sub : Expr} (h : sub.assertions = []) (least : Nat) (most : Option Nat)
    (greedy : Bool) : (repetition least most greedy sub).assertions = [] := by
  unfold repetition
  dsimp only
  split_ifs <;> first | rfl | exact h

end Pattern.Expr

end TransitionMap
