import ConstructorPlanning.Proofs.PlanningOutcome
/-!
Carrying a plan out takes it off the table. A constructor that initializes what a plan does makes
the next call for the same list refuse: the parameterless one when the list is resolved, every
other one as an exact match.
-/
namespace ConstructorPlanning

/-- A constructor that assigns exactly the selected members leaves nothing to generate. -/
theorem Planned.eq_of_same {o : Options} {t : TypeSnapshot} {s : Selection}
    {answer : Except Refusal (List Plan)} (h : Planned o t s answer) (hs : ¬ s.isEmpty)
    {c : Constructor} (hc : c ∈ t.constructors) (hsame : c.assigned = s.nameSet) :
    answer = .error (.nothingToGenerate t.name .sameConstructorExists) := by
  cases h with
  | parameterless empty => exact absurd empty hs
  | present => rfl
  | assigning _ none_same => exact absurd hsame (none_same c hc)
  | delegating _ none_same => exact absurd hsame (none_same c hc)

/-- The plans for a selection that is not empty have its parameters, each of them. -/
theorem Planned.parameters_eq {o : Options} {t : TypeSnapshot} {s : Selection} {plans : List Plan}
    (h : Planned o t s (.ok plans)) (hs : ¬ s.isEmpty) {plan : Plan} (hplan : plan ∈ plans) :
    plan.parameters = s.parameters := by
  cases h with
  | parameterless empty => exact absurd empty hs
  | assigning =>
    obtain rfl := List.mem_singleton.1 hplan
    rfl
  | delegating =>
    rcases List.mem_cons.1 hplan with rfl | hin
    · rfl
    · obtain rfl := List.mem_singleton.1 hin
      rfl

theorem Planned.eq_noParam {o : Options} {t : TypeSnapshot} {s : Selection} {plans : List Plan}
    (h : Planned o t s (.ok plans)) (hs : s.isEmpty) : plans = [.noParam] := by
  cases h with
  | parameterless => rfl
  | assigning some => exact absurd hs some
  | delegating some => exact absurd hs some

/-- The constructor initializes what the plan does: it is written in the source, its parameters
have the plan's names and types, and it assigns the plan's members in any order. Annotations are
left open. -/
structure CarriesOut (c : Constructor) (plan : Plan) : Prop where
  explicit : c.implicitlyDeclared = false
  parameters : (c.parameters.map fun q => (q.name, q.type)) =
    plan.parameters.map fun p => (p.name, p.type)
  assigned : c.assignedMembers.Perm (plan.parameters.map (·.member))

theorem carriesOut_accepted (plan : Plan) (declarationOrder : UInt32) (annotated : Bool) :
    CarriesOut (plan.accepted declarationOrder annotated) plan where
  explicit := rfl
  parameters := by
    rw [Plan.accepted, List.map_map]
    rfl
  assigned := List.Perm.refl _

theorem CarriesOut.assigned_eq {c : Constructor} {plan : Plan} {s : Selection}
    (h : CarriesOut c plan) (hplan : plan.parameters = s.parameters) : c.assigned = s.nameSet := by
  ext name
  rw [Constructor.mem_assigned, Selection.mem_nameSet, h.assigned.mem_iff, hplan,
    s.map_member_parameters]

theorem CarriesOut.isExplicitParameterless {c : Constructor} (h : CarriesOut c .noParam) :
    c.isExplicitParameterless := by
  have hnone : c.parameters = [] := List.map_eq_nil_iff.1 h.parameters
  rw [Constructor.isExplicitParameterless, Constructor.isParameterless, hnone, h.explicit]
  rfl

/-- A parameterless constructor of its own is what keeps a type without viable members from getting
another one. -/
theorem resolution_parameterless {o : Options} {t : TypeSnapshot} {s : Selection}
    {explicit : List Member} (h : Selection.resolution o t explicit = .ok s) (hs : s.isEmpty)
    {cs : List Constructor} {c : Constructor} (hmem : c ∈ cs) (hc : c.isExplicitParameterless) :
    Selection.resolution o (t.withConstructors cs) explicit =
      .error (.nothingToGenerate t.name .parameterlessExists) := by
  obtain ⟨rfl, hviable, _⟩ := (Selection.isEmpty_resolution_iff h).1 hs
  have htarget : t.checkTarget = .ok () := Selection.checkTarget_of_resolution h
  have htarget' : (t.withConstructors cs).checkTarget = .ok () := htarget
  have hnone : (t.withConstructors cs).viableMembers.isEmpty := List.isEmpty_iff.2 hviable
  have hfound : ((t.withConstructors cs).explicitParameterless?).isSome :=
    List.find?_isSome.2 ⟨c, hmem, hc⟩
  rw [Selection.resolution_target htarget', if_pos List.isEmpty_nil, if_pos hnone,
    Selection.quiet_ofNothing, if_pos hfound]
  rfl

/-- Why an accepted plan is not offered again. -/
def Plan.blockedBy : Plan → IdleCause
  | .noParam => .parameterlessExists
  | _ => .sameConstructorExists

/-- Wherever among the type's constructors, and with whatever declaration order, a plan is carried
out, the same call has nothing to generate any more. -/
theorem accepted_plan_disappears {o : Options} {t : TypeSnapshot} {explicit : List Member}
    {plans : List Plan} (h : (tryPlan o t explicit .never).result = .ok plans) {plan : Plan}
    (hplan : plan ∈ plans) {c : Constructor} (hc : CarriesOut c plan) {place : Nat}
    (hplace : place ≤ t.constructors.length) :
    (tryPlan o (t.withConstructors (t.constructors.insertIdx place c)) explicit .never).result =
      .error (.nothingToGenerate t.name plan.blockedBy) := by
  have hmem : c ∈ t.constructors.insertIdx place c := by
    rw [List.mem_insertIdx hplace]
    exact .inl rfl
  obtain ⟨s, hs, hplanned⟩ := planned_of_tryPlan_ok h
  by_cases hempty : s.isEmpty
  · rw [hplanned.eq_noParam hempty] at hplan
    obtain rfl := List.mem_singleton.1 hplan
    rw [tryPlan_never_result]
    exact quiet_planExplicit_error
      (resolution_parameterless hs hempty hmem hc.isExplicitParameterless)
  · have hparameters := hplanned.parameters_eq hempty hplan
    have hagain := tryPlan_planned (Selection.resolution_withConstructors hs hempty
      (t.constructors.insertIdx place c))
    rw [hagain.eq_of_same hempty hmem (hc.assigned_eq hparameters)]
    cases plan with
    | noParam =>
      have hsize := s.length_parameters
      rw [← hparameters] at hsize
      exact absurd (List.isEmpty_iff_length_eq_zero.2 hsize.symm) hempty
    | fieldAssign ps => rfl
    | delegateThenAssign d ps args rest => rfl

theorem accepted_plan_disappears_invoice :
    (tryPlan {} invoice [] .never).result =
        .ok [.fieldAssign invoiceParameters, invoiceDelegation] ∧
      CarriesOut (invoiceDelegation.accepted 7 true) invoiceDelegation ∧
      1 ≤ invoice.constructors.length ∧
      (tryPlan {} (invoice.withConstructors
        (invoice.constructors.insertIdx 1 (invoiceDelegation.accepted 7 true))) [] .never).result =
          .error (.nothingToGenerate "Invoice" .sameConstructorExists) := by
  have hcarries := carriesOut_accepted invoiceDelegation 7 true
  have hplace : 1 ≤ invoice.constructors.length := by decide
  have hplan : invoiceDelegation ∈ [.fieldAssign invoiceParameters, invoiceDelegation] := by simp
  exact ⟨tryPlan_invoice, hcarries, hplace,
    accepted_plan_disappears tryPlan_invoice hplan hcarries hplace⟩

end ConstructorPlanning
