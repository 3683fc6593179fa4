import Mathlib.Data.Finset.Card
import ConstructorPlanning.Planning.Match
/-!
Assigned members and selected members as finite sets of names. Comparing a constructor with a
selection goes by lists without repetition and their lengths; here those comparisons are the
relations between the sets.
-/
namespace ConstructorPlanning

theorem nodup_eraseDups (names : List String) : names.eraseDups.Nodup := by
  match names with
  | [] => exact List.nodup_nil
  | name :: rest =>
    rw [List.eraseDups_cons, List.nodup_cons]
    refine ⟨?_, nodup_eraseDups _⟩
    intro h
    have hmem := List.mem_eraseDups.1 h
    simp at hmem
termination_by names.length
decreasing_by exact Nat.lt_succ_of_le (List.length_filter_le _ _)

namespace Constructor

def assigned (c : Constructor) : Finset String :=
  c.assignedMembers.toFinset

@[simp] theorem mem_assigned {c : Constructor} {name : String} :
    name ∈ c.assigned ↔ name ∈ c.assignedMembers :=
  List.mem_toFinset

theorem length_assignedSet (c : Constructor) : c.assignedSet.length = c.assigned.card := by
  have hcard : c.assignedSet.toFinset.card = c.assignedSet.length :=
    List.toFinset_card_of_nodup (nodup_eraseDups c.assignedMembers)
  rw [← hcard]
  congr 1
  ext name
  simp only [mem_assigned, List.mem_toFinset, mem_assignedSet]

theorem assignedSet_isEmpty (c : Constructor) : c.assignedSet.isEmpty ↔ c.assigned = ∅ := by
  rw [← Finset.card_eq_zero, ← length_assignedSet, List.isEmpty_iff, List.length_eq_zero_iff]

theorem sortedAssignedSet_perm (c : Constructor) : c.sortedAssignedSet.Perm c.assignedSet :=
  List.mergeSort_perm ..

theorem sortedAssignedSet_pairwise (c : Constructor) : c.sortedAssignedSet.Pairwise (· ≤ ·) := by
  have htrans : ∀ a b x : String, decide (a ≤ b) → decide (b ≤ x) → decide (a ≤ x) := by
    simp only [decide_eq_true_eq]
    exact fun _ _ _ => String.le_trans
  have htotal : ∀ a b : String, decide (a ≤ b) || decide (b ≤ a) := by
    simpa only [Bool.or_eq_true, decide_eq_true_eq] using String.le_total
  simpa only [sortedAssignedSet, decide_eq_true_eq] using
    List.pairwise_mergeSort htrans htotal c.assignedSet

/-- Constructors that assign the same members show the same sorted list, and only those. -/
theorem sortedAssignedSet_inj {c d : Constructor} :
    c.sortedAssignedSet = d.sortedAssignedSet ↔ c.assigned = d.assigned := by
  constructor
  · intro h
    have hperm : c.assignedSet.Perm d.assignedSet :=
      c.sortedAssignedSet_perm.symm.trans (h ▸ d.sortedAssignedSet_perm)
    ext name
    rw [mem_assigned, mem_assigned, ← mem_assignedSet, ← mem_assignedSet, hperm.mem_iff]
  · intro h
    have hperm : c.assignedSet.Perm d.assignedSet := by
      refine (List.perm_ext_iff_of_nodup (nodup_eraseDups _) (nodup_eraseDups _)).2 fun name => ?_
      rw [List.mem_eraseDups, List.mem_eraseDups, ← mem_assigned, ← mem_assigned, h]
    exact List.Perm.eq_of_pairwise (fun _ _ _ _ => String.le_antisymm)
      c.sortedAssignedSet_pairwise d.sortedAssignedSet_pairwise
      ((c.sortedAssignedSet_perm.trans hperm).trans d.sortedAssignedSet_perm.symm)

end Constructor

namespace Selection

def nameSet (s : Selection) : Finset String :=
  s.names.toFinset

@[simp] theorem mem_nameSet {s : Selection} {name : String} :
    name ∈ s.nameSet ↔ name ∈ s.names :=
  List.mem_toFinset

/-- No name is selected twice, so a selection is as large as its set of names. -/
theorem size_eq_card (s : Selection) : s.size = s.nameSet.card := by
  have hnodup : s.names.Nodup := s.nodup_names
  rw [nameSet, List.toFinset_card_of_nodup hnodup, names, List.length_map, size]

theorem isEmpty_iff_nameSet (s : Selection) : s.isEmpty ↔ s.nameSet = ∅ := by
  rw [← Finset.card_eq_zero, ← size_eq_card, isEmpty, size, List.isEmpty_iff,
    List.length_eq_zero_iff]

theorem covers_iff (s : Selection) (c : Constructor) : s.covers c ↔ c.assigned ⊆ s.nameSet := by
  simp only [covers, List.all_eq_true, contains_iff, Constructor.mem_assignedSet,
    Finset.subset_iff, Constructor.mem_assigned, mem_nameSet]

/-- A constructor that covers selected members only assigns all of them exactly if it assigns as
many. -/
theorem length_eq_size_iff {s : Selection} {c : Constructor} (h : s.covers c) :
    c.assignedSet.length = s.size ↔ c.assigned = s.nameSet := by
  rw [Constructor.length_assignedSet, size_eq_card]
  constructor
  · intro hcard
    exact Finset.eq_of_subset_of_card_le ((covers_iff s c).1 h) hcard.ge
  · intro heq
    rw [heq]

/-- What a covering constructor assigns and what it leaves over make up the selection. -/
theorem length_assignedSet_add_residual {s : Selection} {c : Constructor} (h : s.covers c) :
    c.assignedSet.length + (s.residual c).length = s.size := by
  let assigns (m : Member) : Bool := c.assignedMembers.contains m.name
  have hassigned : c.assignedSet.Perm ((s.members.filter assigns).map (·.name)) := by
    have hnodup : ((s.members.filter assigns).map (·.name)).Nodup :=
      List.Pairwise.sublist (List.filter_sublist.map _) s.nodup_names
    have hset : c.assignedSet.Nodup := nodup_eraseDups c.assignedMembers
    rw [List.perm_ext_iff_of_nodup hset hnodup]
    intro name
    simp only [List.mem_map, List.mem_filter, assigns, List.contains_iff_mem,
      Constructor.mem_assignedSet]
    constructor
    · intro hname
      have hselected := (covers_iff s c).1 h (Constructor.mem_assigned.2 hname)
      obtain ⟨m, hm, rfl⟩ := List.mem_map.1 (mem_nameSet.1 hselected)
      exact ⟨m, ⟨hm, hname⟩, rfl⟩
    · rintro ⟨m, ⟨_, hm⟩, rfl⟩
      exact hm
  rw [hassigned.length_eq, List.length_map]
  exact (List.length_eq_length_filter_add assigns).symm

/-- The constructor assigns some of the selected members, not all, and nothing else. -/
def IsTarget (s : Selection) (c : Constructor) : Prop :=
  c.assigned.Nonempty ∧ c.assigned ⊂ s.nameSet

theorem IsTarget.covers {s : Selection} {c : Constructor} (h : s.IsTarget c) : s.covers c :=
  (covers_iff s c).2 h.2.subset

/-- What is left of the covered constructors when exact matches and empty ones are put aside. -/
theorem isTarget_of_covers {s : Selection} {c : Constructor} (h : s.covers c)
    (hne : c.assigned ≠ s.nameSet) (hsome : ¬ c.assignedSet.isEmpty) : s.IsTarget c := by
  refine ⟨?_, ((covers_iff s c).1 h).ssubset_of_ne hne⟩
  rw [Finset.nonempty_iff_ne_empty]
  intro hempty
  exact hsome (c.assignedSet_isEmpty.2 hempty)

end Selection

end ConstructorPlanning
