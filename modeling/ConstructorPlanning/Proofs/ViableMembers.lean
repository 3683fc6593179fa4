import ConstructorPlanning.Planning.Resolution
import ConstructorPlanning.Proofs.DeclarationOrder
/-!
The list of viable members. It is the stable sort of those members of the snapshot that a
constructor can initialize: none is lost or doubled, and the snapshot decides between members of
equal order.
-/
namespace ConstructorPlanning

/-- The member is a writable instance field or property that is written in the source. -/
def Member.IsInitializable (m : Member) : Prop :=
  m.isStatic = false ∧ m.writable = true ∧ m.implicitlyDeclared = false ∧
    (m.kind = .field ∨ m.kind = .property)

instance (m : Member) : Decidable m.IsInitializable :=
  inferInstanceAs (Decidable (_ ∧ _))

theorem Member.isViable_iff (m : Member) : m.isViable ↔ m.IsInitializable := by
  obtain ⟨name, type, kind, isStatic, writable, implicitlyDeclared, order⟩ := m
  cases kind <;>
    simp [isViable, IsInitializable, MemberKind.isInitializable, and_comm, and_left_comm]

namespace TypeSnapshot

variable {t : TypeSnapshot}

/-- What a list of the type's viable members has to be. -/
structure ListsViable (t : TypeSnapshot) (listed : List Member) : Prop where
  count : ∀ m, listed.count m = if m.IsInitializable then t.members.count m else 0
  ordered : listed.Pairwise fun a b => a.declarationOrder ≤ b.declarationOrder
  stable : ∀ order, listed.filter (fun m => m.declarationOrder = order) =
    t.members.filter fun m => m.IsInitializable ∧ m.declarationOrder = order

theorem count_viableMembers (m : Member) :
    t.viableMembers.count m = if m.IsInitializable then t.members.count m else 0 := by
  have hperm : t.viableMembers.Perm (t.members.filter Member.isViable) := List.mergeSort_perm ..
  rw [hperm.count_eq]
  split
  · rename_i h
    exact List.count_filter (m.isViable_iff.2 h)
  · rename_i h
    rw [List.count_eq_zero]
    intro hm
    exact h (m.isViable_iff.1 (List.of_mem_filter hm))

theorem filter_viableMembers (order : UInt32) :
    t.viableMembers.filter (fun m => m.declarationOrder = order) =
      t.members.filter fun m => m.IsInitializable ∧ m.declarationOrder = order := by
  rw [viableMembers, sorted_filter_key Member.declarationOrder, List.filter_filter]
  congr 1
  funext m
  simp [← m.isViable_iff, and_comm]

theorem listsViable_viableMembers : t.ListsViable t.viableMembers :=
  ⟨count_viableMembers, t.ordered_viableMembers, filter_viableMembers⟩

theorem ListsViable.eq {listed other : List Member} (h : t.ListsViable listed)
    (h' : t.ListsViable other) : listed = other := by
  apply eq_of_filter_key Member.declarationOrder h.ordered h'.ordered
  intro order
  rw [h.stable, h'.stable]

/-- To collect the viable members of a type always gives a list of them. It holds each entry that a
constructor can initialize as often as the type does, and nothing else; it goes by declaration
order; and entries of one order stand in it as they do in the type. No other list is like that. -/
theorem viable_members_sorted_stably (t : TypeSnapshot) :
    ∃ listed, (∀ signal picker,
        ((Selection.collectViable t).run signal picker).result = .ok listed) ∧
      ∀ other, t.ListsViable other ↔ other = listed := by
  refine ⟨t.viableMembers, fun _ _ => rfl, ?_⟩
  intro other
  constructor
  · intro h
    exact h.eq listsViable_viableMembers
  · rintro rfl
    exact listsViable_viableMembers

end TypeSnapshot

end ConstructorPlanning
