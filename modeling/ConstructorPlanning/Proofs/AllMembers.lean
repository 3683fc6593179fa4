import ConstructorPlanning.Proofs.FirstOfEachName
import ConstructorPlanning.Proofs.PickedCall
/-!
Three ways to ask for all members: to list none, to accept all that a picker is shown, and to look
all of them up by name. They are one where members have different names. Where a name is repeated,
the first keeps the member that comes first, and the second is refused if choices are checked.
-/
namespace ConstructorPlanning

namespace TypeSnapshot

variable {t : TypeSnapshot}

/-- A member is found again by its name where names are different. -/
theorem member_eq_some (distinct : (t.members.map (·.name)).Nodup) {m : Member}
    (hm : m ∈ t.members) : t.member? m.name = some m := by
  have hself : m ∈ firstOfEachName t.members := by rwa [firstOfEachName_eq_self distinct]
  exact mem_firstOfEachName.1 hself

theorem selectMembers_names (distinct : (t.members.map (·.name)).Nodup) {members : List Member}
    (hsub : members ⊆ t.members) : t.selectMembers (members.map (·.name)) = .ok members := by
  unfold selectMembers
  induction members with
  | nil => rfl
  | cons m rest ih =>
    obtain ⟨hm, hrest⟩ := List.cons_subset.1 hsub
    rw [List.map_cons, List.mapM_cons, member_eq_some distinct hm, ih hrest]
    rfl

end TypeSnapshot

namespace Selection

variable {o : Options} {t : TypeSnapshot}

/-- The viable members raise no issue as a choice, unless they repeat a name. -/
theorem firstIssue_viableMembers :
    t.firstIssue? t.viableMembers [] t.viableMembers = none ↔
      (t.viableMembers.map (·.name)).Nodup := by
  rw [TypeSnapshot.firstIssue_eq_none_iff]
  constructor
  · exact fun h => h.1
  · intro hdistinct
    exact ⟨hdistinct, nofun, fun m hm => ⟨m, hm, rfl⟩⟩

theorem resolution_nil (htarget : t.checkTarget = .ok ()) (hviable : t.viableMembers ≠ []) :
    resolution o t [] = .ok (ofMembers t.viableMembers) := by
  refine (resolution_target htarget []).trans ((if_pos rfl).trans ?_)
  exact if_neg (mt List.isEmpty_iff.1 hviable)

/-- Accepting all candidates is listing them. -/
theorem pickedResolution_all (hviable : t.viableMembers ≠ []) :
    pickedResolution o t .all = resolution o t t.viableMembers := by
  by_cases htarget : t.IsInstantiable
  · exact pickedResolution_of_chosen (TypeSnapshot.offersChoice_iff.2 ⟨htarget, hviable⟩) rfl
      hviable
  · rw [← TypeSnapshot.checkTarget_eq_ok_iff] at htarget
    cases hcheck : t.checkTarget with
    | ok _ => exact absurd hcheck htarget
    | error r => rw [pickedResolution_invalid hcheck, resolution_invalid hcheck]

/-- To list none is to list all viable members, unless one of them is refused. -/
theorem resolution_viableMembers (hviable : t.viableMembers ≠ [])
    (hchecked : o.validateSelection = false ∨ (t.viableMembers.map (·.name)).Nodup) :
    resolution o t t.viableMembers = resolution o t [] := by
  cases htarget : t.checkTarget with
  | error r => rw [resolution_invalid htarget, resolution_invalid htarget]
  | ok _ =>
    rw [resolution_nil htarget hviable, resolution_choice htarget hviable, quiet_ofChoice]
    rcases hchecked with hoff | hdistinct
    · rw [hoff]
    · rw [firstIssue_viableMembers.2 hdistinct]
      cases o.validateSelection <;> rfl

/-- With checked choices and a repeated name, to list none keeps the first member of each name, and
to accept all is refused for the first name that comes again. -/
structure Disagrees (o : Options) (t : TypeSnapshot) : Prop where
  listed : ∃ s, resolution o t [] = .ok s ∧ s.members.Sublist t.viableMembers ∧
    ∀ m, m ∈ s.members ↔ t.viableMembers.find? (·.name = m.name) = some m
  picked : ∃ front m rest, t.viableMembers = front ++ m :: rest ∧
    (front.map (·.name)).Nodup ∧ m.name ∈ front.map (·.name) ∧
    pickedResolution o t .all = .error (.invalidSelection m.name .duplicate)

theorem disagrees (htarget : t.IsInstantiable) (hchecked : o.validateSelection = true)
    (hrepeated : ¬ (t.viableMembers.map (·.name)).Nodup) : Disagrees o t := by
  have hviable : t.viableMembers ≠ [] := by
    intro hnone
    rw [hnone] at hrepeated
    exact hrepeated List.nodup_nil
  have hcheck := TypeSnapshot.checkTarget_eq_ok_iff.2 htarget
  constructor
  · exact ⟨ofMembers t.viableMembers, resolution_nil hcheck hviable, firstOfEachName_sublist _,
      fun m => mem_firstOfEachName⟩
  · cases hissue : t.firstIssue? t.viableMembers [] t.viableMembers with
    | none => exact absurd (firstIssue_viableMembers.1 hissue) hrepeated
    | some found =>
      obtain ⟨name, issue⟩ := found
      obtain ⟨front, m, rest, hsplit, rfl, hfront, hcause⟩ :=
        TypeSnapshot.firstIssue_split hissue
      have hm : m ∈ t.viableMembers := by
        rw [hsplit]
        exact List.mem_append_cons_self
      rcases hcause with ⟨hseen, rfl⟩ | ⟨hforeign, _⟩
      · refine ⟨front, m, rest, hsplit, (TypeSnapshot.firstIssue_eq_none_iff.1 hfront).1,
          hseen.resolve_left List.not_mem_nil, ?_⟩
        rw [pickedResolution_all hviable, resolution_choice hcheck hviable, quiet_ofChoice,
          hchecked, hissue]
      · exact absurd rfl (hforeign m hm)

end Selection

/-- To list no members and to accept all that the picker is shown are resolved alike exactly if the
type cannot be a target, or choices are not checked, or no two viable members have one name. Where
all members of the type have different names and some are viable, to look the viable ones up by name
and to list them makes a third call that comes to the same as the other two. -/
theorem all_members_calls_agree (o : Options) (t : TypeSnapshot) :
    (Selection.resolution o t [] = Selection.pickedResolution o t .all ↔
      ¬ t.IsInstantiable ∨ o.validateSelection = false ∨
        (t.viableMembers.map (·.name)).Nodup) ∧
    (t.IsInstantiable → o.validateSelection = true →
      ¬ (t.viableMembers.map (·.name)).Nodup → Selection.Disagrees o t) ∧
    ((t.members.map (·.name)).Nodup → (∃ m ∈ t.members, m.isViable) →
      ∃ members, t.selectMembers (t.viableMembers.map (·.name)) = .ok members ∧
        (tryPlan o t members .never).result = (tryPlan o t [] .never).result ∧
        (tryPlan o t members .never).result = (tryPlanWithPicker o t .all .never).result) := by
  refine ⟨⟨?_, ?_⟩, Selection.disagrees, ?_⟩
  · intro hsame
    by_contra hnot
    simp only [not_or, not_not, Bool.not_eq_false] at hnot
    obtain ⟨htarget, hchecked, hrepeated⟩ := hnot
    obtain ⟨⟨s, hlisted, _⟩, _, m, _, _, _, _, hpicked⟩ :=
      Selection.disagrees htarget hchecked hrepeated
    rw [hlisted, hpicked] at hsame
    cases hsame
  · intro hagree
    by_cases hviable : t.viableMembers = []
    · exact (Selection.pickedResolution_of_nothing_viable hviable).symm
    · rw [Selection.pickedResolution_all hviable]
      rcases hagree with hinvalid | hchecked
      · rw [← TypeSnapshot.checkTarget_eq_ok_iff] at hinvalid
        cases hcheck : t.checkTarget with
        | ok _ => exact absurd hcheck hinvalid
        | error r => rw [Selection.resolution_invalid hcheck, Selection.resolution_invalid hcheck]
      · exact (Selection.resolution_viableMembers hviable hchecked).symm
  · intro hdistinct hsome
    have hviable : t.viableMembers ≠ [] := by
      rw [ne_eq, TypeSnapshot.viableMembers_eq_nil_iff]
      simpa using hsome
    have hnames := TypeSnapshot.nodup_names_viableMembers hdistinct
    have hsub : t.viableMembers ⊆ t.members :=
      fun m hm => (TypeSnapshot.mem_viableMembers.1 hm).1
    refine ⟨t.viableMembers, TypeSnapshot.selectMembers_names hdistinct hsub, ?_, ?_⟩
    · rw [tryPlan_conclusion, tryPlan_conclusion,
        Selection.resolution_viableMembers hviable (.inr hnames)]
    · rw [tryPlan_conclusion, tryPlanWithPicker_conclusion rfl,
        Selection.pickedResolution_all hviable]

/-- A type with a field and a property of one name, the property declared first. -/
def ledger : TypeSnapshot where
  name := "Ledger"
  kind := .structType
  members := [
    { name := "Entry", type := "int", kind := .field, declarationOrder := 2 },
    { name := "Note", type := "string", kind := .field, declarationOrder := 1 },
    { name := "Entry", type := "long", kind := .property, declarationOrder := 0 }]

theorem all_members_calls_agree_invoice :
    (ledger.IsInstantiable ∧ ({} : Options).validateSelection = true ∧
      ¬ (ledger.viableMembers.map (·.name)).Nodup ∧ Selection.Disagrees {} ledger) ∧
    (invoice.members.map (·.name)).Nodup ∧ (∃ m ∈ invoice.members, m.isViable) ∧
      ∃ members, invoice.selectMembers ["Id", "id", "Total", "Tax"] = .ok members ∧
        (tryPlan {} invoice members .never).result = (tryPlan {} invoice [] .never).result ∧
        (tryPlan {} invoice members .never).result =
          (tryPlanWithPicker {} invoice .all .never).result := by
  have hledger : ledger.viableMembers.map (·.name) = ["Entry", "Note", "Entry"] := by cbv
  have hinvoice : invoice.viableMembers.map (·.name) = ["Id", "id", "Total", "Tax"] := by cbv
  have htarget : ledger.IsInstantiable := by decide
  have hrepeated : ¬ (ledger.viableMembers.map (·.name)).Nodup := by
    rw [hledger]
    decide
  have hdistinct : (invoice.members.map (·.name)).Nodup := by decide
  have hviable : ∃ m ∈ invoice.members, m.isViable := by decide
  refine ⟨⟨htarget, rfl, hrepeated, ?_⟩, hdistinct, hviable, ?_⟩
  · exact (all_members_calls_agree {} ledger).2.1 htarget rfl hrepeated
  · rw [← hinvoice]
    exact (all_members_calls_agree {} invoice).2.2 hdistinct hviable

end ConstructorPlanning
