import ConstructorPlanning.Snapshot.Member
/-!
Selections: the members that a new constructor takes, in the caller's order and each name once.
-/
namespace ConstructorPlanning

def firstOfEachName : List Member → List Member
  | [] => []
  | m :: rest => m :: (firstOfEachName rest).filter (·.name != m.name)

theorem nodup_names_firstOfEachName (members : List Member) :
    ((firstOfEachName members).map (·.name)).Nodup := by
  induction members with
  | nil => simp [firstOfEachName]
  | cons m rest ih =>
    simp only [firstOfEachName, List.map_cons, List.nodup_cons]
    constructor
    · simp
    · exact List.Pairwise.sublist (List.filter_sublist.map _) ih

theorem mem_names_firstOfEachName (members : List Member) (name : String) :
    name ∈ (firstOfEachName members).map (·.name) ↔ name ∈ members.map (·.name) := by
  induction members with
  | nil => exact Iff.rfl
  | cons m rest ih =>
    simp only [firstOfEachName, List.map_cons, List.mem_cons]
    by_cases h : name = m.name
    · simp [h]
    · rw [← ih]
      simp only [h, false_or, List.mem_map, List.mem_filter]
      constructor
      · rintro ⟨k, ⟨hk, _⟩, rfl⟩
        exact ⟨k, hk, rfl⟩
      · rintro ⟨k, hk, rfl⟩
        exact ⟨k, ⟨hk, by simpa using h⟩, rfl⟩

theorem firstOfEachName_sublist (members : List Member) :
    (firstOfEachName members).Sublist members := by
  induction members with
  | nil => exact .slnil
  | cons m rest ih => exact (List.filter_sublist.trans ih).cons_cons m

theorem firstOfEachName_eq_self {members : List Member} (h : (members.map (·.name)).Nodup) :
    firstOfEachName members = members := by
  induction members with
  | nil => rfl
  | cons m rest ih =>
    obtain ⟨hm, hrest⟩ := List.nodup_cons.1 h
    rw [firstOfEachName, ih hrest, List.filter_eq_self.2]
    intro k hk
    apply bne_iff_ne.2
    intro he
    exact hm (List.mem_map.2 ⟨k, hk, he⟩)

/-- Members in a meaningful order, no two of one name. -/
structure Selection where
  members : List Member
  nodup_names : (members.map (·.name)).Nodup
  deriving DecidableEq

namespace Selection

/-- A repeated name keeps its first place. -/
def ofMembers (members : List Member) : Selection :=
  ⟨firstOfEachName members, nodup_names_firstOfEachName members⟩

def empty : Selection :=
  ⟨[], by simp⟩

def names (s : Selection) : List String :=
  s.members.map (·.name)

def size (s : Selection) : Nat :=
  s.members.length

def isEmpty (s : Selection) : Bool :=
  s.members.isEmpty

def contains (s : Selection) (name : String) : Bool :=
  s.names.contains name

theorem contains_iff (s : Selection) (name : String) : s.contains name ↔ name ∈ s.names :=
  List.contains_iff_mem

theorem ofMembers_members (s : Selection) : ofMembers s.members = s := by
  cases s with
  | mk members h => simp only [ofMembers, firstOfEachName_eq_self h]

end Selection

end ConstructorPlanning
