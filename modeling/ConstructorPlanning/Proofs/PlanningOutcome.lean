import Mathlib
import ConstructorPlanning.Proofs.Matching
import ConstructorPlanning.Proofs.Parameters
import ConstructorPlanning.Proofs.Resolution
/-!
What a planning call comes to, from the selection and the type's constructors alone: whether one of
them assigns exactly the selected members, and which is the best to delegate to.
-/
namespace ConstructorPlanning

namespace Selection

variable (o : Options) (s : Selection) (picker : Picker)

@[simp] theorem quiet_generateParameters :
    s.generateParameters.quiet picker = .ok s.parameters := by
  rw [generateParameters, Procedure.quiet_bind_ok (Procedure.quiet_notes _ _)]
  rfl

theorem quiet_synthesize_empty (found : Match) (h : s.isEmpty) :
    (s.synthesize o found).quiet picker = .ok [.noParam] := by
  rw [synthesize, if_pos h]
  rfl

theorem quiet_synthesize_nothing (h : ¬ s.isEmpty) :
    (s.synthesize o .nothing).quiet picker = .ok [.fieldAssign s.parameters] := by
  rw [synthesize, if_neg h, Procedure.quiet_bind_ok (s.quiet_generateParameters picker)]
  rfl

/-- The plan that calls a constructor for the members it assigns, and assigns the others. -/
def delegation (c : Constructor) : Plan :=
  .delegateThenAssign c s.parameters (Delegation.arguments c s.parameters)
    (s.parameters.filter fun p => !c.assignedMembers.contains p.member)

theorem quiet_delegating (c : Constructor) :
    (Plan.delegating c s.parameters (s.residual c)).quiet picker = .ok (s.delegation c) := by
  rw [Plan.delegating, Delegation.bindArguments, bind_assoc,
    Procedure.quiet_bind_ok (Procedure.quiet_notes _ _), pure_bind, parametersOf_residual]
  rfl

theorem quiet_synthesize_delegatable (c : Constructor) (h : ¬ s.isEmpty) :
    (s.synthesize o (.delegatable c (s.residual c))).quiet picker =
      .ok (.fieldAssign s.parameters :: if o.offerDelegation then [s.delegation c] else []) := by
  rw [synthesize, if_neg h, Procedure.quiet_bind_ok (s.quiet_generateParameters picker)]
  cases o.offerDelegation with
  | false => rfl
  | true =>
    change Procedure.quiet (Plan.delegating c s.parameters (s.residual c) >>= _) picker = _
    rw [Procedure.quiet_bind_ok (s.quiet_delegating picker c)]
    rfl

end Selection

/-- What planning for a selection of a type's members comes to. -/
inductive Planned (o : Options) (t : TypeSnapshot) (s : Selection) :
    Except Refusal (List Plan) → Prop where
  | parameterless (empty : s.isEmpty) : Planned o t s (.ok [.noParam])
  | present {c : Constructor} (some : ¬ s.isEmpty) (mem : c ∈ t.constructors)
      (same : c.assigned = s.nameSet) :
      Planned o t s (.error (.nothingToGenerate t.name .sameConstructorExists))
  | assigning (some : ¬ s.isEmpty) (none_same : ∀ c ∈ t.constructors, c.assigned ≠ s.nameSet)
      (no_delegate : o.offerDelegation → ∀ c ∈ t.constructors, ¬ s.IsTarget c) :
      Planned o t s (.ok [.fieldAssign s.parameters])
  | delegating {i : Fin t.constructors.length} (some : ¬ s.isEmpty)
      (none_same : ∀ c ∈ t.constructors, c.assigned ≠ s.nameSet)
      (offered : o.offerDelegation) (best : s.IsBestDelegate t.constructors i) :
      Planned o t s (.ok [.fieldAssign s.parameters, s.delegation t.constructors[i]])

/-- Planning goes through for every selection, and these are all its outcomes. -/
theorem quiet_planSelection (o : Options) (t : TypeSnapshot) (s : Selection) (picker : Picker) :
    Planned o t s ((planSelection o t s).quiet picker) := by
  have hmem (c : Constructor) : c ∈ Constructor.inOrder t.constructors ↔ c ∈ t.constructors :=
    (Constructor.inOrder_perm t.constructors).mem_iff
  rw [planSelection, Procedure.quiet]
  by_cases hs : s.isEmpty
  · rw [if_pos hs, Procedure.quiet, s.quiet_synthesize_empty o picker _ hs]
    exact .parameterless hs
  · rw [if_neg hs]
    obtain ⟨found, hfound, hcompares⟩ := s.quiet_matchConstructors t.constructors picker
    rw [Procedure.quiet_bind_ok hfound]
    cases hcompares with
    | exact split same first =>
      refine .present hs ((hmem _).1 ?_) same
      rw [split]
      simp
    | delegatable none_same leads =>
      rename_i d
      change Planned o t s (Procedure.quiet (s.synthesize o _ >>= _) picker)
      rw [Procedure.quiet_bind_ok (s.quiet_synthesize_delegatable o picker d hs)]
      have hne : ∀ c ∈ t.constructors, c.assigned ≠ s.nameSet :=
        fun c hc => none_same c ((hmem c).2 hc)
      change Planned o t s (.ok (.fieldAssign s.parameters :: _))
      by_cases hoffer : o.offerDelegation
      · obtain ⟨i, rfl, hbest⟩ := leads.isBestDelegate
        rw [if_pos hoffer]
        exact .delegating hs hne hoffer hbest
      · rw [if_neg hoffer]
        exact .assigning hs hne fun h => absurd h hoffer
    | nothing none_same no_target =>
      change Planned o t s (Procedure.quiet (s.synthesize o _ >>= _) picker)
      rw [Procedure.quiet_bind_ok (s.quiet_synthesize_nothing o picker hs)]
      exact .assigning hs (fun c hc => none_same c ((hmem c).2 hc))
        fun _ c hc => no_target c ((hmem c).2 hc)

/-- A planning call refuses what resolving the list refuses, and else plans for the selection. -/
theorem quiet_planExplicit_error {o : Options} {t : TypeSnapshot} {explicit : List Member}
    {r : Refusal} (h : Selection.resolution o t explicit = .error r) :
    (planExplicit o t explicit).quiet .all = .error r := by
  rw [Selection.resolution_eq_quiet] at h
  rw [planExplicit, Procedure.quiet, Procedure.quiet_bind_error h]

theorem quiet_planExplicit_eq {o : Options} {t : TypeSnapshot} {explicit : List Member}
    {s : Selection} (h : Selection.resolution o t explicit = .ok s) :
    (planExplicit o t explicit).quiet .all = (planSelection o t s).quiet .all := by
  rw [Selection.resolution_eq_quiet] at h
  rw [planExplicit, Procedure.quiet, Procedure.quiet_bind_ok h]

theorem quiet_planExplicit_ok {o : Options} {t : TypeSnapshot} {explicit : List Member}
    {s : Selection} (h : Selection.resolution o t explicit = .ok s) :
    Planned o t s ((planExplicit o t explicit).quiet .all) := by
  rw [quiet_planExplicit_eq h]
  exact quiet_planSelection o t s .all

theorem tryPlan_planned {o : Options} {t : TypeSnapshot} {explicit : List Member} {s : Selection}
    (h : Selection.resolution o t explicit = .ok s) :
    Planned o t s (tryPlan o t explicit .never).result := by
  rw [tryPlan_never_result]
  exact quiet_planExplicit_ok h

/-- With a picker, a planning call refuses what resolving the choice refuses, and else plans for the
selection. -/
theorem quiet_planPicked_error {o : Options} {t : TypeSnapshot} {picker : Picker} {r : Refusal}
    (h : Selection.pickedResolution o t picker = .error r) :
    (planPicked o t).quiet picker = .error r := by
  rw [Selection.pickedResolution_eq_quiet] at h
  rw [planPicked, Procedure.quiet, Procedure.quiet_bind_error h]

theorem quiet_planPicked_ok {o : Options} {t : TypeSnapshot} {picker : Picker} {s : Selection}
    (h : Selection.pickedResolution o t picker = .ok s) :
    Planned o t s ((planPicked o t).quiet picker) := by
  rw [Selection.pickedResolution_eq_quiet] at h
  rw [planPicked, Procedure.quiet, Procedure.quiet_bind_ok h]
  exact quiet_planSelection o t s picker

/-- Plans come from a selection, whatever signal the call was made under. -/
theorem planned_of_tryPlan_ok {o : Options} {t : TypeSnapshot} {explicit : List Member}
    {signal : Signal} {plans : List Plan} (h : (tryPlan o t explicit signal).result = .ok plans) :
    ∃ s, Selection.resolution o t explicit = .ok s ∧ Planned o t s (.ok plans) := by
  have hquiet := tryPlan_ok_quiet h
  cases hs : Selection.resolution o t explicit with
  | error r =>
    rw [quiet_planExplicit_error hs] at hquiet
    cases hquiet
  | ok s =>
    refine ⟨s, rfl, ?_⟩
    rw [← hquiet]
    exact quiet_planExplicit_ok hs

theorem planned_of_tryPlanWithPicker_ok {o : Options} {t : TypeSnapshot} {picker : Picker}
    {signal : Signal} {plans : List Plan}
    (h : (tryPlanWithPicker o t picker signal).result = .ok plans) :
    ∃ s, Selection.pickedResolution o t picker = .ok s ∧ Planned o t s (.ok plans) := by
  have hquiet : (planPicked o t).quiet picker = .ok plans := Procedure.quiet_of_run_ok h
  cases hs : Selection.pickedResolution o t picker with
  | error r =>
    rw [quiet_planPicked_error hs] at hquiet
    cases hquiet
  | ok s =>
    refine ⟨s, rfl, ?_⟩
    rw [← hquiet]
    exact quiet_planPicked_ok hs

/-- The plans offered after the one that assigns all parameters `ps`. -/
structure FollowUp (o : Options) (t : TypeSnapshot) (s : Selection)
    (ps : List GeneratedParameter) (plans : List Plan) : Prop where
  delegating : o.offerDelegation → (∃ c ∈ t.constructors, s.IsTarget c) →
    ∃ i, s.IsBestDelegate t.constructors i ∧
      plans = [.delegateThenAssign t.constructors[i] ps (Delegation.arguments t.constructors[i] ps)
        (ps.filter (·.member ∉ t.constructors[i].assigned))]
  assigning_only : ¬ (o.offerDelegation ∧ ∃ c ∈ t.constructors, s.IsTarget c) → plans = []

/-- What a call for an explicit list that stands for the selection `s` has to answer. -/
structure Answers (o : Options) (t : TypeSnapshot) (explicit : List Member) (s : Selection)
    (answer : Except Refusal (List Plan)) : Prop where
  parameterless : s.isEmpty → explicit = [] ∧ t.viableMembers = [] ∧
    t.explicitParameterless? = none ∧ answer = .ok [.noParam]
  present : ¬ s.isEmpty → (∃ c ∈ t.constructors, c.assigned = s.nameSet) →
    answer = .error (.nothingToGenerate t.name .sameConstructorExists)
  planned : ¬ s.isEmpty → (∀ c ∈ t.constructors, c.assigned ≠ s.nameSet) →
    ∃ ps plans, answer = .ok (.fieldAssign ps :: plans) ∧
      (ps.map fun p => (p.member, p.type)) = (s.members.map fun m => (m.name, m.type)) ∧
      (ps.map (·.name)).Nodup ∧ FollowUp o t s ps plans

theorem Planned.ne_nil {o : Options} {t : TypeSnapshot} {s : Selection} {plans : List Plan}
    (h : Planned o t s (.ok plans)) : plans ≠ [] := by
  cases h <;> exact List.cons_ne_nil _ _

theorem Planned.answers {o : Options} {t : TypeSnapshot} {explicit : List Member} {s : Selection}
    {answer : Except Refusal (List Plan)} (hs : Selection.resolution o t explicit = .ok s)
    (h : Planned o t s answer) : Answers o t explicit s answer := by
  have hempty := Selection.isEmpty_resolution_iff hs
  cases h with
  | parameterless empty =>
    obtain ⟨hexplicit, hviable, hnone⟩ := hempty.1 empty
    exact ⟨fun _ => ⟨hexplicit, hviable, hnone, rfl⟩, fun some => absurd empty some,
      fun some => absurd empty some⟩
  | present some mem same =>
    exact ⟨fun empty => absurd empty some, fun _ _ => rfl,
      fun _ none_same => absurd same (none_same _ mem)⟩
  | assigning some none_same no_delegate =>
    refine ⟨fun empty => absurd empty some, ?_, ?_⟩
    · rintro _ ⟨c, hc, same⟩
      exact absurd same (none_same c hc)
    · intro _ _
      refine ⟨s.parameters, [], rfl, s.map_parameters, s.nodup_name_parameters, ?_, fun _ => rfl⟩
      rintro offered ⟨c, hc, target⟩
      exact absurd target (no_delegate offered c hc)
  | @delegating i some none_same offered best =>
    refine ⟨fun empty => absurd empty some, ?_, ?_⟩
    · rintro _ ⟨c, hc, same⟩
      exact absurd same (none_same c hc)
    · intro _ _
      refine ⟨s.parameters, _, rfl, s.map_parameters, s.nodup_name_parameters, ?_, ?_⟩
      · intro _ _
        refine ⟨i, best, ?_⟩
        simp only [Selection.delegation, Constructor.mem_assigned, List.contains_eq_mem,
          decide_not]
      · intro hno
        exact absurd ⟨offered, _, List.getElem_mem i.isLt, best.1⟩ hno

/-- A planning call that nobody cancels fails or offers plans, never an empty list; it fails as
resolving the list does; and where the list stands for a selection, the answer is determined by
that selection and the sets of names that the type's constructors assign. -/
theorem tryPlan_exact (o : Options) (t : TypeSnapshot) (explicit : List Member) :
    (∀ plans, (tryPlan o t explicit .never).result = .ok plans → plans ≠ []) ∧
    (∀ r, Selection.resolution o t explicit = .error r →
      (tryPlan o t explicit .never).result = .error r) ∧
    ∀ s, Selection.resolution o t explicit = .ok s →
      Answers o t explicit s (tryPlan o t explicit .never).result := by
  refine ⟨?_, ?_, ?_⟩
  · intro plans hplans
    obtain ⟨s, _, hplanned⟩ := planned_of_tryPlan_ok hplans
    exact hplanned.ne_nil
  · intro r hr
    rw [tryPlan_never_result]
    exact quiet_planExplicit_error hr
  · intro s hs
    exact (tryPlan_planned hs).answers hs

/-- A type two of whose members get the same parameter name. Of its constructors the first mentions
a member twice, the second assigns two members and has one parameter for them, and the third assigns
a foreign name. -/
def invoice : TypeSnapshot where
  name := "Invoice"
  kind := .classType
  members := [
    { name := "Id", type := "int", kind := .field, declarationOrder := 0 },
    { name := "id", type := "string", kind := .property, declarationOrder := 1 },
    { name := "Total", type := "decimal", kind := .field, declarationOrder := 2 },
    { name := "Tax", type := "decimal", kind := .field, declarationOrder := 3 }]
  constructors := [
    { declarationOrder := 1, parameters := [⟨"id", "int", none⟩], assignedMembers := ["Id", "Id"] },
    { declarationOrder := 0, parameters := [⟨"amount", "decimal", none⟩],
      assignedMembers := ["Total", "Tax"] },
    { declarationOrder := 2, assignedMembers := ["Id", "id", "Currency"] }]

def invoiceParameters : List GeneratedParameter :=
  [⟨"id", "int", "Id"⟩, ⟨"id2", "string", "id"⟩, ⟨"total", "decimal", "Total"⟩,
    ⟨"tax", "decimal", "Tax"⟩]

/-- The plan that leaves the total and the tax of an invoice to another constructor. -/
def invoiceDelegation : Plan :=
  .delegateThenAssign ⟨0, [⟨"amount", "decimal", none⟩], ["Total", "Tax"], false⟩ invoiceParameters
    [⟨0, "amount", some "Total", some "total"⟩] [⟨"id", "int", "Id"⟩, ⟨"id2", "string", "id"⟩]

theorem tryPlan_invoice : (tryPlan {} invoice [] .never).result =
    .ok [.fieldAssign invoiceParameters, invoiceDelegation] := by
  cbv

theorem tryPlan_exact_invoice :
    Selection.resolution {} invoice [] = .ok (.ofMembers invoice.members) ∧
      Answers {} invoice [] (.ofMembers invoice.members) (tryPlan {} invoice [] .never).result := by
  have hselection : Selection.resolution {} invoice [] = .ok (.ofMembers invoice.members) := by cbv
  exact ⟨hselection, (tryPlan_exact {} invoice []).2.2 _ hselection⟩

end ConstructorPlanning
