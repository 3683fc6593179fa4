import Mathlib.Data.List.FinRange
import ConstructorPlanning.Proofs.FirstOfEachName
import ConstructorPlanning.Proofs.NameSet
/-!
Selections as tables. The members of a list are entered one after the other, each under its name,
and a name that is taken keeps the member it has. The table that comes out is the selection: its
keys are the selected names, and its members stand in the list at the first places of their names.
-/
namespace ConstructorPlanning

/-- Members under keys, in the order in which the keys were taken. -/
structure MemberTable where
  entries : List (String × Member)
  nodup_keys : (entries.map (·.1)).Nodup

namespace MemberTable

def keys (t : MemberTable) : List String :=
  t.entries.map (·.1)

def values (t : MemberTable) : List Member :=
  t.entries.map (·.2)

def empty : MemberTable :=
  ⟨[], List.nodup_nil⟩

theorem nodup_keys_append {t : MemberTable} {key : String} (free : key ∉ t.keys) (m : Member) :
    ((t.entries ++ [(key, m)]).map (·.1)).Nodup := by
  rw [List.map_append]
  refine t.nodup_keys.append (List.nodup_singleton key) ?_
  exact List.disjoint_singleton.2 free

/-- A free key is taken, behind the others; a taken one keeps its member. -/
def enter (t : MemberTable) (key : String) (m : Member) : MemberTable :=
  if free : key ∉ t.keys then ⟨t.entries ++ [(key, m)], nodup_keys_append free m⟩ else t

/-- Each member is entered under its own name. -/
def enterAll (t : MemberTable) (members : List Member) : MemberTable :=
  members.foldl (fun t m => t.enter m.name m) t

def ofMembers (members : List Member) : MemberTable :=
  empty.enterAll members

variable {t : MemberTable} {key : String}

theorem enter_of_taken (taken : key ∈ t.keys) (m : Member) : t.enter key m = t :=
  dif_neg (not_not_intro taken)

theorem entries_enter_of_free (free : key ∉ t.keys) (m : Member) :
    (t.enter key m).entries = t.entries ++ [(key, m)] := by
  rw [enter, dif_pos free]

theorem mem_keys_enter {m : Member} {name : String} :
    name ∈ (t.enter key m).keys ↔ name ∈ t.keys ∨ name = key := by
  by_cases taken : key ∈ t.keys
  · rw [enter_of_taken taken]
    constructor
    · exact .inl
    · rintro (h | rfl)
      · exact h
      · exact taken
  · rw [keys, entries_enter_of_free taken, List.map_append, List.mem_append]
    exact or_congr Iff.rfl List.mem_singleton

/-- A list adds to a table the first member of each of its names that is free there. -/
theorem entries_enterAll (t : MemberTable) (members : List Member) :
    (t.enterAll members).entries =
      t.entries ++
        ((firstOfEachName members).filter (·.name ∉ t.keys)).map fun m => (m.name, m) := by
  induction members generalizing t with
  | nil => exact (List.append_nil _).symm
  | cons m rest ih =>
    -- taken or not before, the name of the head is taken for the rest
    have hrest : (firstOfEachName rest).filter (·.name ∉ (t.enter m.name m).keys) =
        ((firstOfEachName rest).filter (·.name != m.name)).filter (·.name ∉ t.keys) := by
      rw [List.filter_filter]
      apply List.filter_congr
      intro k _
      rw [Bool.eq_iff_iff]
      simp [mem_keys_enter]
    have hstep : t.enterAll (m :: rest) = (t.enter m.name m).enterAll rest := rfl
    rw [hstep, ih, hrest, firstOfEachName]
    by_cases taken : m.name ∈ t.keys
    · rw [enter_of_taken taken, List.filter_cons_of_neg (by simpa using taken)]
    · rw [entries_enter_of_free taken, List.filter_cons_of_pos (by simpa using taken),
        List.append_assoc, List.map_cons, List.singleton_append]

theorem entries_ofMembers (members : List Member) :
    (ofMembers members).entries = (firstOfEachName members).map fun m => (m.name, m) := by
  have hfree : (firstOfEachName members).filter (·.name ∉ empty.keys) = firstOfEachName members :=
    List.filter_eq_self.2 fun _ _ => by simp [empty, keys]
  rw [ofMembers, entries_enterAll, hfree]
  rfl

theorem keys_ofMembers (members : List Member) :
    (ofMembers members).keys = (Selection.ofMembers members).names := by
  rw [keys, entries_ofMembers, List.map_map]
  rfl

theorem values_ofMembers (members : List Member) :
    (ofMembers members).values = (Selection.ofMembers members).members := by
  rw [values, entries_ofMembers, List.map_map]
  exact List.map_id _

theorem key_eq_name {members : List Member} {e : String × Member}
    (he : e ∈ (ofMembers members).entries) : e.1 = e.2.name := by
  rw [entries_ofMembers] at he
  obtain ⟨m, _, rfl⟩ := List.mem_map.1 he
  rfl

end MemberTable

/-- No member before the one at place `i` has its name. -/
def FirstAt (members : List Member) (i : Fin members.length) : Prop :=
  ∀ j < i, (members.get j).name ≠ (members.get i).name

instance (members : List Member) : DecidablePred (FirstAt members) :=
  fun i => inferInstanceAs (Decidable (∀ j < i, _))

/-- The places of a list at which a name stands for the first time. -/
def firstPlaces (members : List Member) : List (Fin members.length) :=
  (List.finRange members.length).filter (FirstAt members)

theorem firstAt_succ_iff {m : Member} {rest : List Member} {i : Fin rest.length} :
    FirstAt (m :: rest) i.succ ↔ (rest.get i).name ≠ m.name ∧ FirstAt rest i := by
  constructor
  · intro h
    exact ⟨(h 0 i.succ_pos).symm, fun j hj => h j.succ (Fin.succ_lt_succ_iff.2 hj)⟩
  · rintro ⟨hhead, hrest⟩ j hj
    cases j using Fin.cases with
    | zero => exact hhead.symm
    | succ j => exact hrest j (Fin.succ_lt_succ_iff.1 hj)

/-- Behind a member, the first places are those of the rest, without those of its name. -/
theorem firstPlaces_cons (m : Member) (rest : List Member) :
    firstPlaces (m :: rest) =
      ⟨0, Nat.succ_pos _⟩ ::
        ((firstPlaces rest).filter fun i => (rest.get i).name != m.name).map Fin.succ := by
  have hplaces : List.finRange (m :: rest).length =
      ⟨0, Nat.succ_pos _⟩ :: (List.finRange rest.length).map Fin.succ := List.finRange_succ
  have hhead : FirstAt (m :: rest) ⟨0, Nat.succ_pos _⟩ := fun j hj => absurd hj j.not_lt_zero
  rw [firstPlaces, hplaces, List.filter_cons_of_pos (by exact decide_eq_true hhead),
    List.filter_map, firstPlaces, List.filter_filter]
  congr 2
  apply List.filter_congr
  intro i _
  rw [Bool.eq_iff_iff]
  simp only [Function.comp_apply, Bool.and_eq_true, bne_iff_ne, decide_eq_true_eq]
  exact firstAt_succ_iff

theorem firstOfEachName_eq_map_get (members : List Member) :
    firstOfEachName members = (firstPlaces members).map members.get := by
  induction members with
  | nil => rfl
  | cons m rest ih =>
    rw [firstOfEachName, ih, firstPlaces_cons, List.map_cons, List.map_map, List.filter_map]
    rfl

namespace Selection

theorem nameSet_ofMembers (members : List Member) :
    (ofMembers members).nameSet = (members.map (·.name)).toFinset := by
  ext name
  rw [mem_nameSet, List.mem_toFinset]
  exact mem_names_firstOfEachName members name

/-- What a selection has to hold of a list of members. -/
structure Represents (s : Selection) (members : List Member) : Prop where
  distinct : s.names.Nodup
  firsts : s.members = (firstPlaces members).map members.get
  keys : (MemberTable.ofMembers members).keys = s.names
  values : (MemberTable.ofMembers members).values = s.members
  keyed : ∀ e ∈ (MemberTable.ofMembers members).entries, e.1 = e.2.name
  contains : ∀ name, s.contains name ↔ ∃ m ∈ members, m.name = name
  size : s.size = (members.map (·.name)).toFinset.card
  rebuilt : ofMembers s.members = s

theorem represents_ofMembers (members : List Member) : (ofMembers members).Represents members where
  distinct := (ofMembers members).nodup_names
  firsts := firstOfEachName_eq_map_get members
  keys := MemberTable.keys_ofMembers members
  values := MemberTable.values_ofMembers members
  keyed _ := MemberTable.key_eq_name
  contains name := by
    rw [contains_iff, ← mem_nameSet, nameSet_ofMembers, List.mem_toFinset, List.mem_map]
  size := by rw [size_eq_card, nameSet_ofMembers]
  rebuilt := ofMembers_members _

/-- The selection made of a list holds the first member of each name, under that name and in the
order of the list. It contains the names that are listed, is as large as there are such names, and
comes out again when its own members are listed. No other selection is like that. -/
theorem first_of_each_name_selected (members : List Member) (s : Selection) :
    s.Represents members ↔ s = ofMembers members := by
  constructor
  · intro h
    have hmembers : s.members = (ofMembers members).members :=
      h.firsts.trans (firstOfEachName_eq_map_get members).symm
    rw [← ofMembers_members s, hmembers, ofMembers_members]
  · rintro rfl
    exact represents_ofMembers members

example :
    let id : Member := { name := "Id", type := "int", kind := .field, declarationOrder := 0 }
    let total : Member :=
      { name := "Total", type := "decimal", kind := .field, declarationOrder := 1 }
    (ofMembers [id, total, { id with type := "string" }, total]).members = [id, total] := by
  decide

end Selection

end ConstructorPlanning
