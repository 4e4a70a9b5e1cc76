import Mathlib.Data.List.Nodup
import TransitionMap.Toml.Document

/-!
# No key of a document comes twice

`Members.Distinct` says that neither a table nor any table inside it has a key twice. Every change
that a statement can make keeps that (`Members.Distinct.add`, `openTable`, `openElement`, and
`within` for all of them inside another table), hence so do all readers that build values, whatever
they are called with: `Reader.gives_value` for values by induction on the depth, then
`Reader.gives_statements` for the statements of a document. So the table of a document has at most
one value for a key, the one that is looked up (`distinct_of_parse`, `Members.Distinct.mem_iff`).
-/

namespace TransitionMap.Toml

/-- No table in a value has a key twice. -/
inductive Value.Distinct : Value → Prop
  | string (s : String) : Distinct (.string s)
  | integer (i : Int) : Distinct (.integer i)
  | decimal (d : Decimal) : Distinct (.decimal d)
  | boolean (b : Bool) : Distinct (.boolean b)
  | moment : Distinct .moment
  | array {ofTables : Bool} {items : List Value} (all : ∀ v ∈ items, Distinct v) :
      Distinct (.array ofTables items)
  | table {origin : Origin} {members : Members} (nodup : (members.map Prod.fst).Nodup)
      (all : ∀ m ∈ members, Distinct m.2) : Distinct (.table origin members)

theorem Value.Distinct.items {ofTables : Bool} {items : List Value}
    (h : (Value.array ofTables items).Distinct) : ∀ v ∈ items, v.Distinct := by
  cases h with
  | array all => exact all

namespace Members

/-- No key comes twice, here and in the tables inside. -/
structure Distinct (members : Members) : Prop where
  nodup : (members.map Prod.fst).Nodup
  all : ∀ m ∈ members, m.2.Distinct

theorem Distinct.table {members : Members} (h : Distinct members) (origin : Origin) :
    (Value.table origin members).Distinct := .table h.nodup h.all

theorem Distinct.of_table {members : Members} {origin : Origin}
    (h : (Value.table origin members).Distinct) : Distinct members := by
  cases h with
  | table nodup all => exact ⟨nodup, all⟩

theorem distinct_nil : Distinct [] := ⟨List.nodup_nil, fun _ h => absurd h List.not_mem_nil⟩

theorem lookup_eq_none_iff {members : Members} {key : String} :
    members.lookup key = none ↔ key ∉ members.map Prod.fst := by
  rw [List.lookup_eq_none_iff, List.mem_map]
  constructor
  · rintro h ⟨m, hm, rfl⟩
    exact absurd rfl (bne_iff_ne.1 (h m hm))
  · rintro h m hm
    rw [bne_iff_ne]
    rintro rfl
    exact h ⟨m, hm, rfl⟩

theorem mem_of_lookup {members : Members} {key : String} {v : Value}
    (h : members.lookup key = some v) : (key, v) ∈ members := by
  obtain ⟨before, after, rfl, -⟩ := List.lookup_eq_some_iff.1 h
  exact List.mem_append_right before List.mem_cons_self

variable {members : Members} {key : String} {v : Value}

theorem Distinct.of_lookup (h : Distinct members) (hlookup : members.lookup key = some v) :
    v.Distinct := h.all _ (mem_of_lookup hlookup)

/-- The value of a key is the one that is looked up. -/
theorem Distinct.mem_iff (h : Distinct members) :
    (key, v) ∈ members ↔ members.lookup key = some v := by
  refine ⟨fun hmem => ?_, mem_of_lookup⟩
  cases hlookup : members.lookup key with
  | none => exact absurd (List.mem_map_of_mem hmem) (lookup_eq_none_iff.1 hlookup)
  | some w =>
    have heq := List.inj_on_of_nodup_map h.nodup hmem (mem_of_lookup hlookup) rfl
    exact congrArg some (congrArg Prod.snd heq).symm

/-! ## Changes -/

theorem Distinct.append (h : Distinct members) (fresh : members.lookup key = none)
    (hv : v.Distinct) : Distinct (members ++ [(key, v)]) where
  nodup := by
    rw [List.map_append, List.map_singleton]
    refine List.nodup_append.2 ⟨h.nodup, List.nodup_singleton _, ?_⟩
    rintro a ha b hb rfl
    obtain rfl := List.mem_singleton.1 hb
    exact lookup_eq_none_iff.1 fresh ha
  all m hm := by
    rcases List.mem_append.1 hm with hm | hm
    · exact h.all m hm
    · rw [List.mem_singleton.1 hm]
      exact hv

theorem Distinct.set (h : Distinct members) (key : String) (hv : v.Distinct) :
    Distinct (Members.set key v members) where
  nodup := by
    have hkeys : (Members.set key v members).map Prod.fst = members.map Prod.fst := by
      rw [Members.set, List.map_map]
      refine List.map_congr_left fun m _ => ?_
      simp only [Function.comp_apply]
      split <;> simp_all
    rw [hkeys]
    exact h.nodup
  all m hm := by
    obtain ⟨m', hm', rfl⟩ := List.mem_map.1 hm
    split
    · exact hv
    · exact h.all m' hm'

/-- A change that leaves no key twice where there has been none. -/
def KeepsDistinct (change : Members → Option Members) : Prop :=
  ∀ members members', Distinct members → change members = some members' → Distinct members'

/-- The last of several tables, changed. -/
theorem Distinct.setLast {ofTables : Bool} {items : List Value} {origin : Origin} {inner : Members}
    (h : Distinct members) (hlookup : members.lookup key = some (.array ofTables items))
    (hinner : Distinct inner) :
    Distinct (Members.set key (.array ofTables (items.dropLast ++ [.table origin inner]))
      members) := by
  refine h.set key (.array fun v hv => ?_)
  rcases List.mem_append.1 hv with hv | hv
  · exact (h.of_lookup hlookup).items v (List.dropLast_subset items hv)
  · rw [List.mem_singleton.1 hv]
    exact hinner.table origin

theorem Distinct.last {ofTables : Bool} {items : List Value} {origin : Origin} {inner : Members}
    (h : Distinct members) (hlookup : members.lookup key = some (.array ofTables items))
    (hlast : items.getLast? = some (.table origin inner)) : Distinct inner :=
  .of_table ((h.of_lookup hlookup).items _ (List.mem_of_getLast? hlast))

theorem keepsDistinct_within {change : Members → Option Members} (h : KeepsDistinct change)
    (path : List String) : KeepsDistinct (within path change) := by
  induction path with
  | nil => exact h
  | cons name path ih =>
    intro members members' hmembers hwithin
    rw [within] at hwithin
    split at hwithin
    case h_1 hnone =>
      obtain ⟨inner, hinner, rfl⟩ := Option.map_eq_some_iff.1 hwithin
      exact hmembers.append hnone ((ih _ _ distinct_nil hinner).table _)
    case h_2 => cases hwithin
    case h_3 origin inner _ hlookup =>
      obtain ⟨inner', hinner, rfl⟩ := Option.map_eq_some_iff.1 hwithin
      have hbefore := Distinct.of_table (hmembers.of_lookup hlookup)
      exact hmembers.set name ((ih _ _ hbefore hinner).table _)
    case h_4 items hlookup =>
      split at hwithin
      case h_1 origin inner hlast =>
        obtain ⟨inner', hinner, rfl⟩ := Option.map_eq_some_iff.1 hwithin
        exact hmembers.setLast hlookup (ih _ _ (hmembers.last hlookup hlast) hinner)
      case h_2 => cases hwithin
    case h_5 => cases hwithin

theorem keepsDistinct_add (hv : v.Distinct) (key : String) (path : List String) :
    KeepsDistinct (add key v path) := by
  induction path with
  | nil =>
    intro members members' hmembers hadd
    rw [add] at hadd
    obtain ⟨hfresh, hadd⟩ := Option.ite_none_left_eq_some.1 hadd
    obtain rfl := Option.some.inj hadd
    exact hmembers.append (Option.not_isSome_iff_eq_none.1 hfresh) hv
  | cons name path ih =>
    intro members members' hmembers hadd
    rw [add] at hadd
    split at hadd
    case h_1 hnone =>
      obtain ⟨inner, hinner, rfl⟩ := Option.map_eq_some_iff.1 hadd
      exact hmembers.append hnone ((ih _ _ distinct_nil hinner).table _)
    case h_2 origin inner hlookup =>
      split at hadd
      case isTrue =>
        obtain ⟨inner', hinner, rfl⟩ := Option.map_eq_some_iff.1 hadd
        have hbefore := Distinct.of_table (hmembers.of_lookup hlookup)
        exact hmembers.set name ((ih _ _ hbefore hinner).table _)
      case isFalse => cases hadd
    case h_3 items hlookup =>
      split at hadd
      case h_1 origin inner _ _ hlast =>
        obtain ⟨inner', hinner, rfl⟩ := Option.map_eq_some_iff.1 hadd
        exact hmembers.setLast hlookup (ih _ _ (hmembers.last hlookup hlast) hinner)
      case h_2 => cases hadd
    case h_4 => cases hadd

theorem keepsDistinct_openTable (name : String) : KeepsDistinct (openTable name) := by
  intro members members' hmembers hopen
  rw [openTable] at hopen
  split at hopen
  case h_1 hnone =>
    obtain rfl := Option.some.inj hopen
    exact hmembers.append hnone (distinct_nil.table _)
  case h_2 inner hlookup =>
    obtain rfl := Option.some.inj hopen
    exact hmembers.set name ((Distinct.of_table (hmembers.of_lookup hlookup)).table _)
  case h_3 => cases hopen

theorem keepsDistinct_openElement (name : String) : KeepsDistinct (openElement name) := by
  intro members members' hmembers hopen
  rw [openElement] at hopen
  split at hopen
  case h_1 hnone =>
    obtain rfl := Option.some.inj hopen
    refine hmembers.append hnone (.array fun v hv => ?_)
    rw [List.mem_singleton.1 hv]
    exact distinct_nil.table _
  case h_2 items hlookup =>
    obtain rfl := Option.some.inj hopen
    refine hmembers.set name (.array fun v hv => ?_)
    rcases List.mem_append.1 hv with hv | hv
    · exact (hmembers.of_lookup hlookup).items v hv
    · rw [List.mem_singleton.1 hv]
      exact distinct_nil.table _
  case h_3 => cases hopen

end Members

/-! ## Readers -/

namespace Reader

variable {α β : Type}

/-- Whatever a reader reads has a property. -/
def Gives (r : Reader α) (p : α → Prop) : Prop := ∀ cs a rest, r cs = some (a, rest) → p a

theorem gives_true (r : Reader α) : Gives r fun _ => True := fun _ _ _ _ => trivial

theorem gives_pure {p : α → Prop} {a : α} (h : p a) : Gives (pure a) p := by
  rintro cs b rest hb
  obtain ⟨rfl, -⟩ := Prod.mk.inj (Option.some.inj hb)
  exact h

theorem gives_refuse {p : α → Prop} : Gives refuse p := by
  rintro cs a rest ⟨⟩

theorem Gives.bind {p : α → Prop} {q : β → Prop} {r : Reader α} {f : α → Reader β}
    (hr : Gives r p) (hf : ∀ a, p a → Gives (f a) q) : Gives (r >>= f) q := by
  rintro cs b rest hb
  obtain ⟨⟨a, middle⟩, ha, hb⟩ := Option.bind_eq_some_iff.1 hb
  exact hf a (hr cs a middle ha) middle b rest hb

/-- What is read first does not matter. -/
theorem Gives.after {q : β → Prop} (r : Reader α) {f : α → Reader β} (hf : ∀ a, Gives (f a) q) :
    Gives (r >>= f) q := (gives_true r).bind fun a _ => hf a

theorem gives_lift {p : α → Prop} {result : Option α} (h : ∀ a, result = some a → p a) :
    Gives (lift result) p := by
  rintro cs a rest ha
  obtain ⟨b, hb, hpair⟩ := Option.map_eq_some_iff.1 ha
  obtain ⟨rfl, -⟩ := Prod.mk.inj hpair
  exact h b hb

theorem distinct_of_scalar? {cs : List Char} {v : Value} (h : scalar? cs = some v) :
    v.Distinct := by
  rw [scalar?] at h
  split at h
  · exact Option.some.inj h ▸ .boolean true
  split at h
  · exact Option.some.inj h ▸ .boolean false
  cases hinteger : integer? cs with
  | some i =>
    rw [hinteger] at h
    exact Option.some.inj h ▸ .integer i
  | none =>
    cases hdecimal : decimal? cs with
    | some d =>
      rw [hinteger, hdecimal] at h
      exact Option.some.inj h ▸ .decimal d
    | none =>
      rw [hinteger, hdecimal] at h
      obtain ⟨-, h⟩ := Option.ite_none_right_eq_some.1 h
      exact Option.some.inj h ▸ .moment

theorem gives_scalar : Gives scalar Value.Distinct := by
  refine .after _ fun word => .after _ fun startsTime => ?_
  split
  · refine .after _ fun _ => .after _ fun time => ?_
    exact gives_lift fun v => distinct_of_scalar?
  · exact gives_lift fun v => distinct_of_scalar?

theorem gives_plainValue : Gives plainValue Value.Distinct := by
  refine .after _ fun first => ?_
  cases first with
  | some s => exact gives_pure (.string s)
  | none =>
    refine .after _ fun second => ?_
    cases second with
    | some s => exact gives_pure (.string s)
    | none => exact gives_scalar

theorem gives_items {value : Reader Value} (hvalue : Gives value Value.Distinct) (fuel : Nat)
    {done : List Value} (hdone : ∀ v ∈ done, v.Distinct) :
    Gives (items value fuel done) fun vs => ∀ v ∈ vs, v.Distinct := by
  induction fuel generalizing done with
  | zero => exact gives_refuse
  | succ fuel ih =>
    have hread : ∀ {vs : List Value}, (∀ v ∈ vs, v.Distinct) → ∀ v ∈ vs.reverse, v.Distinct :=
      fun h v hv => h v (List.mem_reverse.1 hv)
    refine .after _ fun _ => .after _ fun ends => ?_
    cases ends with
    | true => exact gives_pure (hread hdone)
    | false =>
      refine hvalue.bind fun v hv => ?_
      have hnext : ∀ w ∈ v :: done, w.Distinct := List.forall_mem_cons.2 ⟨hv, hdone⟩
      refine .after _ fun _ => .after _ fun more => ?_
      cases more with
      | true => exact ih hnext
      | false => exact .after _ fun _ => gives_pure (hread hnext)

theorem gives_pair {value : Reader Value} (hvalue : Gives value Value.Distinct) :
    Gives (pair value) Members.KeepsDistinct := by
  refine .after _ fun key => ?_
  refine .after _ fun _ => .after _ fun _ => .after _ fun _ => hvalue.bind fun v hv => ?_
  exact gives_pure (Members.keepsDistinct_add hv _ _)

theorem gives_pairs {value : Reader Value} (hvalue : Gives value Value.Distinct) (fuel : Nat)
    {members : Members} (hmembers : members.Distinct) :
    Gives (pairs value fuel members) Members.Distinct := by
  induction fuel generalizing members with
  | zero => exact gives_refuse
  | succ fuel ih =>
    refine .after _ fun _ => .after _ fun ends => ?_
    cases ends with
    | true => exact gives_pure hmembers
    | false =>
      refine (gives_pair hvalue).bind fun change hchange => ?_
      refine (gives_lift fun _ => hchange _ _ hmembers).bind fun next hnext => ?_
      refine .after _ fun _ => .after _ fun more => ?_
      cases more with
      | true => exact ih hnext
      | false => exact .after _ fun _ => gives_pure hnext

theorem gives_value (depth : Nat) : Gives (value depth) Value.Distinct := by
  induction depth with
  | zero => exact gives_plainValue
  | succ depth ih =>
    refine .after _ fun bracket => ?_
    cases bracket with
    | true =>
      refine .after _ fun count => ?_
      refine (gives_items ih _ fun _ h => absurd h List.not_mem_nil).bind fun vs hvs => ?_
      exact gives_pure (.array hvs)
    | false =>
      refine .after _ fun brace => ?_
      cases brace with
      | true =>
        refine .after _ fun count => (gives_pairs ih _ Members.distinct_nil).bind fun ms hms => ?_
        exact gives_pure (hms.table _)
      | false => exact gives_plainValue

theorem gives_statements (fuel : Nat) (opened : List String) {members : Members}
    (hmembers : members.Distinct) : Gives (statements fuel opened members) Members.Distinct := by
  induction fuel generalizing opened members with
  | zero => exact gives_refuse
  | succ fuel ih =>
    refine .after _ fun _ => .after _ fun first => ?_
    split
    · exact gives_pure hmembers
    refine .after _ fun double => ?_
    cases double with
    | true =>
      refine .after _ fun name => .after _ fun _ => ?_
      have hchange := Members.keepsDistinct_within (Members.keepsDistinct_openElement name.2) name.1
      exact (gives_lift fun _ => hchange _ _ hmembers).bind fun next hnext => ih _ hnext
    | false =>
      refine .after _ fun single => ?_
      cases single with
      | true =>
        refine .after _ fun name => .after _ fun _ => ?_
        have hchange := Members.keepsDistinct_within (Members.keepsDistinct_openTable name.2) name.1
        exact (gives_lift fun _ => hchange _ _ hmembers).bind fun next hnext => ih _ hnext
      | false =>
        refine (gives_pair (gives_value maxDepth)).bind fun change hchange => .after _ fun _ => ?_
        have hwithin := Members.keepsDistinct_within hchange opened
        exact (gives_lift fun _ => hwithin _ _ hmembers).bind fun next hnext => ih _ hnext

end Reader

theorem distinct_of_parse {text : String} {members : Members} (h : parse? text = some members) :
    members.Distinct := by
  obtain ⟨⟨read, rest⟩, hread, rfl⟩ := Option.map_eq_some_iff.1 h
  exact Reader.gives_statements _ _ Members.distinct_nil _ _ _ hread

end TransitionMap.Toml
