import ConstructorPlanning.Proofs.PlanningOutcome
/-!
Where the parameters of a plan come from. Choices are checked by the names of the members alone, and
what is chosen is taken as it was handed in. So a parameter always stands for a viable member of the
type, and it has the type under which that member was handed in.
-/
namespace ConstructorPlanning

/-- The members that an explicit list hands in: those of the list, or all viable ones if it is
empty. -/
def TypeSnapshot.listed (t : TypeSnapshot) (explicit : List Member) : List Member :=
  if explicit.isEmpty then t.viableMembers else explicit

/-- The members that a picker hands in. -/
def TypeSnapshot.picked (t : TypeSnapshot) (picker : Picker) : List Member :=
  (picker t t.viableMembers).choice.getD []

/-- The member is the only one of its name that was handed in, and is called as a viable member of
the type. -/
structure HandedIn (t : TypeSnapshot) (given : List Member) (c : Member) : Prop where
  mem : c ∈ given
  only : ∀ d ∈ given, d.name = c.name → d = c
  viable : ∃ m ∈ t.viableMembers, m.name = c.name

namespace Selection

variable {o : Options} {t : TypeSnapshot} {s : Selection} {c : Member}

theorem handedIn_ofMembers {given : List Member} (distinct : (given.map (·.name)).Nodup)
    (viable : ∀ d ∈ given, ∃ m ∈ t.viableMembers, m.name = d.name)
    (hc : c ∈ (ofMembers given).members) : HandedIn t given c := by
  have hmem : c ∈ given := (firstOfEachName_sublist given).subset hc
  refine ⟨hmem, ?_, viable c hmem⟩
  intro d hd hname
  exact List.inj_on_of_nodup_map distinct hd hmem hname

theorem handedIn_ofNothing {picker : Picker} {given : List Member}
    (h : (ofNothing t).quiet picker = .ok s) (hc : c ∈ s.members) : HandedIn t given c := by
  rw [quiet_ofNothing] at h
  split at h
  · cases h
  · cases h
    cases hc

theorem handedIn_ofChoice (validated : o.validateSelection) {chosen : List Member} {picker : Picker}
    (h : (ofChoice o t chosen).quiet picker = .ok s) (hc : c ∈ s.members) :
    HandedIn t chosen c := by
  rw [quiet_ofChoice, validated] at h
  cases hissue : t.firstIssue? t.viableMembers [] chosen with
  | some issue =>
    rw [hissue] at h
    cases h
  | none =>
    rw [hissue] at h
    cases h
    obtain ⟨hdistinct, _, hviable⟩ := TypeSnapshot.firstIssue_eq_none_iff.1 hissue
    exact handedIn_ofMembers hdistinct hviable hc

theorem handedIn_resolution (validated : o.validateSelection)
    (distinct : (t.members.map (·.name)).Nodup) {explicit : List Member}
    (h : resolution o t explicit = .ok s) (hc : c ∈ s.members) :
    HandedIn t (t.listed explicit) c := by
  rw [resolution_target (checkTarget_of_resolution h)] at h
  unfold TypeSnapshot.listed
  split at h
  · rename_i hempty
    rw [if_pos hempty]
    split at h
    · exact handedIn_ofNothing h hc
    · cases h
      exact handedIn_ofMembers (TypeSnapshot.nodup_names_viableMembers distinct)
        (fun d hd => ⟨d, hd, rfl⟩) hc
  · rename_i hsome
    rw [if_neg hsome]
    exact handedIn_ofChoice validated h hc

theorem handedIn_pickedResolution (validated : o.validateSelection) {picker : Picker}
    (h : pickedResolution o t picker = .ok s) (hc : c ∈ s.members) :
    HandedIn t (t.picked picker) c := by
  cases htarget : t.checkTarget with
  | error r =>
    rw [pickedResolution_invalid htarget] at h
    cases h
  | ok _ =>
    rw [pickedResolution_target htarget] at h
    unfold TypeSnapshot.picked
    split at h
    · exact handedIn_ofNothing h hc
    · split at h
      · cases h
      · cases h
      · rename_i chosen _ hchoice
        rw [hchoice]
        exact handedIn_ofChoice validated h hc

end Selection

/-- All parameters that a plan mentions, those left to assign among them. -/
def Plan.mentioned : Plan → List GeneratedParameter
  | .fieldAssign parameters => parameters
  | .delegateThenAssign _ parameters _ residual => parameters ++ residual
  | .noParam => []

theorem Planned.mentioned_subset {o : Options} {t : TypeSnapshot} {s : Selection}
    {plans : List Plan} (h : Planned o t s (.ok plans)) {plan : Plan} (hplan : plan ∈ plans) :
    plan.mentioned ⊆ s.parameters := by
  cases h with
  | parameterless empty =>
    obtain rfl := List.mem_singleton.1 hplan
    exact List.nil_subset _
  | assigning =>
    obtain rfl := List.mem_singleton.1 hplan
    exact List.Subset.refl _
  | delegating =>
    rcases List.mem_cons.1 hplan with rfl | hin
    · exact List.Subset.refl _
    · obtain rfl := List.mem_singleton.1 hin
      exact List.append_subset.2 ⟨List.Subset.refl _, List.filter_subset_self _⟩

theorem Selection.exists_member_of_parameter {s : Selection} {p : GeneratedParameter}
    (hp : p ∈ s.parameters) : ∃ c ∈ s.members, c.name = p.member ∧ c.type = p.type := by
  have hpair : (p.member, p.type) ∈ s.parameters.map fun p => (p.member, p.type) :=
    List.mem_map_of_mem hp
  rw [s.map_parameters] at hpair
  obtain ⟨c, hc, heq⟩ := List.mem_map.1 hpair
  exact ⟨c, hc, congrArg Prod.fst heq, congrArg Prod.snd heq⟩

/-- The parameter stands for a viable member of the type, and has the type under which that member,
and none but it, was handed in by this name. What is handed in as the type declares it is the
declared member itself. -/
def TypeSnapshot.Declares (t : TypeSnapshot) (given : List Member) (p : GeneratedParameter) :
    Prop :=
  ∃ m ∈ t.members, m.isViable ∧ m.name = p.member ∧
    ∃ c ∈ given, c.name = p.member ∧ c.type = p.type ∧
      (∀ d ∈ given, d.name = p.member → d = c) ∧ (c ∈ t.members → c = m)

theorem Planned.declares {o : Options} {t : TypeSnapshot} {s : Selection} {plans : List Plan}
    {given : List Member} (h : Planned o t s (.ok plans)) (hs : ∀ c ∈ s.members, HandedIn t given c)
    (distinct : (t.members.map (·.name)).Nodup) {plan : Plan} (hplan : plan ∈ plans)
    {p : GeneratedParameter} (hp : p ∈ plan.mentioned) : t.Declares given p := by
  obtain ⟨c, hc, hname, htype⟩ :=
    Selection.exists_member_of_parameter (h.mentioned_subset hplan hp)
  obtain ⟨hgiven, honly, m, hm, hsame⟩ := hs c hc
  obtain ⟨hmem, hviable⟩ := TypeSnapshot.mem_viableMembers.1 hm
  refine ⟨m, hmem, hviable, hsame.trans hname, c, hgiven, hname, htype, ?_, ?_⟩
  · intro d hd hd'
    exact honly d hd (hd'.trans hname.symm)
  -- among the declared members the name decides which one it is
  · intro hdeclared
    exact List.inj_on_of_nodup_map distinct hdeclared hmem hsame.symm

/-- With checked choices, for a type whose members have different names: every parameter of every
plan that is offered stands for a viable member of the type, under the type with which the caller or
the picker handed that member in. -/
theorem parameters_declared {o : Options} {t : TypeSnapshot} (validated : o.validateSelection)
    (distinct : (t.members.map (·.name)).Nodup) (signal : Signal) :
    (∀ explicit plans, (tryPlan o t explicit signal).result = .ok plans →
      ∀ plan ∈ plans, ∀ p ∈ plan.mentioned, t.Declares (t.listed explicit) p) ∧
    ∀ picker plans, (tryPlanWithPicker o t picker signal).result = .ok plans →
      ∀ plan ∈ plans, ∀ p ∈ plan.mentioned, t.Declares (t.picked picker) p := by
  constructor
  · intro explicit plans hplans plan hplan p hp
    obtain ⟨s, hs, hplanned⟩ := planned_of_tryPlan_ok hplans
    exact hplanned.declares (fun _ hc => Selection.handedIn_resolution validated distinct hs hc)
      distinct hplan hp
  · intro picker plans hplans plan hplan p hp
    obtain ⟨s, hs, hplanned⟩ := planned_of_tryPlanWithPicker_ok hplans
    exact hplanned.declares (fun _ hc => Selection.handedIn_pickedResolution validated hs hc)
      distinct hplan hp

/-- Two members of an invoice. The second is handed in as a text, where the invoice declares an
amount. -/
def retypedMembers : List Member := [
  { name := "Id", type := "int", kind := .field, declarationOrder := 0 },
  { name := "Total", type := "string", kind := .field, declarationOrder := 2 }]

def retypedPlans : List Plan :=
  let parameters := [⟨"id", "int", "Id"⟩, ⟨"total", "string", "Total"⟩]
  [.fieldAssign parameters,
    .delegateThenAssign ⟨1, [⟨"id", "int", none⟩], ["Id", "Id"], false⟩ parameters
      [⟨0, "id", some "Id", some "id"⟩] [⟨"total", "string", "Total"⟩]]

def retypingPicker : Picker := fun _ _ => { choice := some retypedMembers }

theorem parameters_declared_invoice :
    ({} : Options).validateSelection ∧ (invoice.members.map (·.name)).Nodup ∧
      (tryPlan {} invoice retypedMembers .never).result = .ok retypedPlans ∧
      (tryPlanWithPicker {} invoice retypingPicker .never).result = .ok retypedPlans ∧
      ∀ plan ∈ retypedPlans, ∀ p ∈ plan.mentioned,
        invoice.Declares (invoice.listed retypedMembers) p ∧
          invoice.Declares (invoice.picked retypingPicker) p := by
  have hvalidated : ({} : Options).validateSelection := rfl
  have hdistinct : (invoice.members.map (·.name)).Nodup := by decide
  have hlisted : (tryPlan {} invoice retypedMembers .never).result = .ok retypedPlans := by cbv
  have hpicked : (tryPlanWithPicker {} invoice retypingPicker .never).result =
      .ok retypedPlans := by cbv
  have hdeclared := parameters_declared hvalidated hdistinct .never
  refine ⟨hvalidated, hdistinct, hlisted, hpicked, ?_⟩
  intro plan hplan p hp
  exact ⟨hdeclared.1 _ _ hlisted plan hplan p hp, hdeclared.2 _ _ hpicked plan hplan p hp⟩

/-- A checked choice does not bring back the declared types: the parameter for the total of an
invoice is a text if the total is handed in as one. -/
theorem declared_types_not_restored :
    ¬ ∀ (o : Options) (t : TypeSnapshot), o.validateSelection → (t.members.map (·.name)).Nodup →
      ∀ explicit plans, (tryPlan o t explicit .never).result = .ok plans →
        ∀ plan ∈ plans, ∀ p ∈ plan.mentioned,
          ∃ m ∈ t.members, m.isViable ∧ m.name = p.member ∧ m.type = p.type := by
  intro h
  have hplans : (tryPlan {} invoice retypedMembers .never).result = .ok retypedPlans := by cbv
  obtain ⟨m, hm, _, hname, htype⟩ := h {} invoice rfl (by decide) retypedMembers retypedPlans hplans
    (.fieldAssign [⟨"id", "int", "Id"⟩, ⟨"total", "string", "Total"⟩]) List.mem_cons_self
    ⟨"total", "string", "Total"⟩ (List.mem_cons_of_mem _ List.mem_cons_self)
  have hdecimal : ∀ m ∈ invoice.members, m.name = "Total" → m.type = "decimal" := by decide
  rw [hdecimal m hm hname] at htype
  exact absurd htype (by decide)

end ConstructorPlanning
