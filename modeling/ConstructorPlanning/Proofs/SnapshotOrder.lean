import ConstructorPlanning.Proofs.PlanningOutcome
/-!
Snapshots that list the same members and the same constructors in different orders. Planning goes by
declaration order, so that it does the same for all of them.
-/
namespace ConstructorPlanning

/-- The snapshots agree up to the order of their lists. -/
structure Rearranges (t u : TypeSnapshot) : Prop where
  name : t.name = u.name
  kind : t.kind = u.kind
  isStatic : t.isStatic = u.isStatic
  members : t.members.Perm u.members
  constructors : t.constructors.Perm u.constructors

/-- No two viable members were declared at one place, and no two constructors. -/
structure TypeSnapshot.IsOrdered (t : TypeSnapshot) : Prop where
  members : ((t.members.filter Member.isViable).map (·.declarationOrder)).Nodup
  constructors : (t.constructors.map (·.declarationOrder)).Nodup

theorem isSome_find_of_perm {α : Type} {l m : List α} (h : l.Perm m) (p : α → Bool) :
    (l.find? p).isSome = (m.find? p).isSome := by
  rw [Bool.eq_iff_iff, List.find?_isSome, List.find?_isSome]
  simp only [h.mem_iff]

namespace Rearranges

variable {t u : TypeSnapshot}

section Lookups

theorem checkTarget_eq (h : Rearranges t u) : t.checkTarget = u.checkTarget := by
  rw [TypeSnapshot.checkTarget, TypeSnapshot.checkTarget, h.name, h.kind, h.isStatic]

theorem viableMembers_eq (h : Rearranges t u) (ht : t.IsOrdered) :
    t.viableMembers = u.viableMembers :=
  sorted_eq_of_perm _ (h.members.filter _) ht.members

theorem inOrder_eq (h : Rearranges t u) (ht : t.IsOrdered) :
    Constructor.inOrder t.constructors = Constructor.inOrder u.constructors :=
  sorted_eq_of_perm _ h.constructors ht.constructors

/-- Which member of a name comes first may differ, but not whether there is one. -/
theorem isSome_member (h : Rearranges t u) (name : String) :
    (t.member? name).isSome = (u.member? name).isSome :=
  isSome_find_of_perm h.members _

theorem isSome_explicitParameterless (h : Rearranges t u) :
    t.explicitParameterless?.isSome = u.explicitParameterless?.isSome :=
  isSome_find_of_perm h.constructors _

theorem firstIssue_eq (h : Rearranges t u) (viable : List Member) (seen : List String)
    (chosen : List Member) :
    t.firstIssue? viable seen chosen = u.firstIssue? viable seen chosen :=
  TypeSnapshot.firstIssue_congr h.isSome_member viable seen chosen

end Lookups

section Stages

theorem collectViable_eq (h : Rearranges t u) (ht : t.IsOrdered) :
    Selection.collectViable t = Selection.collectViable u := by
  rw [Selection.collectViable, Selection.collectViable, h.viableMembers_eq ht, h.name,
    h.members.length_eq]

theorem ofNothing_eq (h : Rearranges t u) : Selection.ofNothing t = Selection.ofNothing u := by
  rw [Selection.ofNothing, Selection.ofNothing, h.isSome_explicitParameterless, h.name]

theorem ofChoice_eq (h : Rearranges t u) (ht : t.IsOrdered) (o : Options) (chosen : List Member) :
    Selection.ofChoice o t chosen = Selection.ofChoice o u chosen := by
  simp only [Selection.ofChoice, Selection.checkChoice, h.collectViable_eq ht, h.firstIssue_eq]

theorem ofExplicit_eq (h : Rearranges t u) (ht : t.IsOrdered) (o : Options)
    (explicit : List Member) :
    Selection.ofExplicit o t explicit = Selection.ofExplicit o u explicit := by
  simp only [Selection.ofExplicit, h.checkTarget_eq, h.collectViable_eq ht, h.ofNothing_eq,
    h.ofChoice_eq ht]

theorem planSelection_eq (h : Rearranges t u) (ht : t.IsOrdered) (o : Options) (s : Selection) :
    planSelection o t s = planSelection o u s := by
  simp only [planSelection, Selection.matchConstructors, h.inOrder_eq ht, h.name]

theorem planExplicit_eq (h : Rearranges t u) (ht : t.IsOrdered) (o : Options)
    (explicit : List Member) :
    planExplicit o t explicit = planExplicit o u explicit := by
  have hplan := funext (h.planSelection_eq ht o)
  rw [planExplicit, planExplicit, h.ofExplicit_eq ht, hplan]

/-- A picker is shown the snapshot as it is listed. If it answers alike for both, the rest of the
run is the same. -/
theorem run_ofPicker (h : Rearranges t u) (ht : t.IsOrdered) (o : Options) (signal : Signal)
    (picker : Picker) (hpicker : ∀ candidates, picker t candidates = picker u candidates)
    {α : Type} (f : Selection → Procedure α) :
    (Selection.ofPicker o t >>= f).run signal picker =
      (Selection.ofPicker o u >>= f).run signal picker := by
  simp only [Selection.ofPicker, h.checkTarget_eq, h.collectViable_eq ht, h.ofNothing_eq,
    h.ofChoice_eq ht, h.name]
  cases u.checkTarget with
  | error r => rfl
  | ok _ =>
    apply congrArg (Run.noting _)
    -- the two procedures differ in the snapshot that they show, so only their runs can be compared
    change ((if u.viableMembers.isEmpty then _ else Procedure.pick t _ _) >>= f).run _ _ =
      ((if u.viableMembers.isEmpty then _ else Procedure.pick u _ _) >>= f).run _ _
    split
    · rfl
    · change (Procedure.pick t _ _).run _ _ = (Procedure.pick u _ _).run _ _
      rw [Procedure.run, Procedure.run, hpicker]

theorem run_planPicked (h : Rearranges t u) (ht : t.IsOrdered) (o : Options) (signal : Signal)
    (picker : Picker) (hpicker : ∀ candidates, picker t candidates = picker u candidates) :
    (planPicked o t).run signal picker = (planPicked o u).run signal picker := by
  have hplan := funext (h.planSelection_eq ht o)
  rw [planPicked, planPicked, Procedure.run, Procedure.run, hplan]
  cases signal.polled? with
  | none => rfl
  | some later => exact h.run_ofPicker ht o later picker hpicker _

end Stages

end Rearranges

/-- Planning does not depend on the order in which a snapshot lists members and constructors, as
long as their declaration orders tell them apart: not for an explicit list, the empty one included,
and not for the picker that accepts all members. The whole run is the same, whatever its result. -/
theorem listing_order_irrelevant {t u : TypeSnapshot} (h : Rearranges t u) (ht : t.IsOrdered)
    (o : Options) (signal : Signal) :
    (∀ explicit : List Member, tryPlan o t explicit signal = tryPlan o u explicit signal) ∧
      tryPlanWithPicker o t .all signal = tryPlanWithPicker o u .all signal := by
  constructor
  · intro explicit
    rw [tryPlan, tryPlan, h.planExplicit_eq ht, h.name]
  · rw [tryPlanWithPicker, tryPlanWithPicker, h.name,
      h.run_planPicked ht o signal .all fun _ => rfl]

/-- An invoice whose members and constructors are listed from the last to the first. -/
def reversedInvoice : TypeSnapshot :=
  { invoice with members := invoice.members.reverse, constructors := invoice.constructors.reverse }

theorem listing_order_irrelevant_invoice :
    Rearranges invoice reversedInvoice ∧ invoice.IsOrdered ∧
      (∀ explicit : List Member,
        tryPlan {} invoice explicit .never = tryPlan {} reversedInvoice explicit .never) ∧
      tryPlanWithPicker {} invoice .all .never =
        tryPlanWithPicker {} reversedInvoice .all .never := by
  have hlists : Rearranges invoice reversedInvoice :=
    ⟨rfl, rfl, rfl, (List.reverse_perm _).symm, (List.reverse_perm _).symm⟩
  have hordered : invoice.IsOrdered := ⟨by decide, by decide⟩
  exact ⟨hlists, hordered, listing_order_irrelevant hlists hordered {} .never⟩

end ConstructorPlanning
