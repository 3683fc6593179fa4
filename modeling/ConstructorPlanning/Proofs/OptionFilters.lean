import ConstructorPlanning.Proofs.FirstOfEachName
import ConstructorPlanning.Proofs.PickedCall
/-!
What the options of a call change. Checking can only refuse a chosen list; unchecked, the list is
taken up to repeated names. Offering a delegation can only add one plan behind the first.
-/
namespace ConstructorPlanning

variable {t : TypeSnapshot} {explicit : List Member}

namespace Selection

theorem resolution_offer (v : Bool) (t : TypeSnapshot) (explicit : List Member) :
    resolution ⟨v, false⟩ t explicit = resolution ⟨v, true⟩ t explicit := rfl

/-- A list that is not refused for what it holds stands for the same selection without checks. -/
theorem resolution_unchecked {d : Bool}
    (h : ∀ name issue, resolution ⟨true, d⟩ t explicit ≠ .error (.invalidSelection name issue)) :
    resolution ⟨false, d⟩ t explicit = resolution ⟨true, d⟩ t explicit := by
  cases htarget : t.checkTarget with
  | error r => rw [resolution_invalid htarget, resolution_invalid htarget]
  | ok _ =>
    rw [resolution_target htarget] at h ⊢
    rw [resolution_target htarget]
    split
    · rfl
    · rename_i hsome
      rw [if_neg hsome, quiet_ofChoice] at h
      rw [quiet_ofChoice, quiet_ofChoice]
      cases hissue : t.firstIssue? t.viableMembers [] explicit with
      | none => rfl
      | some issue =>
        rw [hissue] at h
        exact absurd rfl (h _ _)

end Selection

/-- Whether choices are checked matters to nothing but the resolution of the list. -/
theorem conclusion_unchecked (d : Bool) (t : TypeSnapshot) (signal : Signal)
    (resolved : Except Refusal Selection) :
    conclusion ⟨false, d⟩ t signal resolved = conclusion ⟨true, d⟩ t signal resolved := rfl

/-- Without the offer, planning for a selection stops behind the first plan. -/
theorem quiet_planSelection_unoffered (v : Bool) (t : TypeSnapshot) (s : Selection)
    (picker : Picker) :
    (planSelection ⟨v, false⟩ t s).quiet picker =
      ((planSelection ⟨v, true⟩ t s).quiet picker).map (List.take 1) := by
  simp only [planSelection, Procedure.quiet]
  by_cases hs : s.isEmpty
  · simp only [if_pos hs, Procedure.quiet, s.quiet_synthesize_empty _ _ _ hs]
    rfl
  · simp only [if_neg hs]
    obtain ⟨found, hfound, hcompares⟩ := s.quiet_matchConstructors t.constructors picker
    rw [Procedure.quiet_bind_ok hfound, Procedure.quiet_bind_ok hfound]
    cases hcompares with
    | exact => rfl
    | @delegatable c =>
      change Procedure.quiet (s.synthesize _ _ >>= _) picker =
        (Procedure.quiet (s.synthesize _ _ >>= _) picker).map _
      rw [Procedure.quiet_bind_ok (s.quiet_synthesize_delegatable _ picker c hs),
        Procedure.quiet_bind_ok (s.quiet_synthesize_delegatable _ picker c hs)]
      rfl
    | nothing =>
      change Procedure.quiet (s.synthesize _ _ >>= _) picker =
        (Procedure.quiet (s.synthesize _ _ >>= _) picker).map _
      rw [Procedure.quiet_bind_ok (s.quiet_synthesize_nothing _ picker hs),
        Procedure.quiet_bind_ok (s.quiet_synthesize_nothing _ picker hs)]
      rfl

namespace Selection

/-- Where all names are those of viable members, checks can refuse a list only for its repeats. -/
theorem resolution_without_repeats {d : Bool}
    (h : ∀ c ∈ explicit, ∃ m ∈ t.members, m.isViable ∧ m.name = c.name) :
    resolution ⟨true, d⟩ t (firstOfEachName explicit) = resolution ⟨false, d⟩ t explicit := by
  cases htarget : t.checkTarget with
  | error r => rw [resolution_invalid htarget, resolution_invalid htarget]
  | ok _ =>
    have hempty : (firstOfEachName explicit).isEmpty = explicit.isEmpty :=
      isEmpty_ofMembers explicit
    have hissue : t.firstIssue? t.viableMembers [] (firstOfEachName explicit) = none := by
      rw [TypeSnapshot.firstIssue_eq_none_iff]
      refine ⟨nodup_names_firstOfEachName explicit, nofun, ?_⟩
      intro c hc
      obtain ⟨m, hm, hviable, hname⟩ := h c ((firstOfEachName_sublist explicit).subset hc)
      exact ⟨m, TypeSnapshot.mem_viableMembers.2 ⟨hm, hviable⟩, hname⟩
    rw [resolution_target htarget, resolution_target htarget, hempty, quiet_ofChoice,
      quiet_ofChoice, hissue]
    split
    · rfl
    · exact congrArg Except.ok (ofMembers_members (ofMembers explicit))

end Selection

/-- Checking choices only refuses: a call that is not refused for what its list holds comes to the
same unchecked, and an unchecked call for names of viable members comes to what the checked call for
the list without its repeats comes to. Offering delegations only adds: without the offer the plans
are cut off behind the first. -/
theorem options_filter (t : TypeSnapshot) (explicit : List Member) :
    (∀ d, (∀ name issue, (tryPlan ⟨true, d⟩ t explicit .never).result ≠
        .error (.invalidSelection name issue)) →
      (tryPlan ⟨false, d⟩ t explicit .never).result =
        (tryPlan ⟨true, d⟩ t explicit .never).result) ∧
    (∀ d, (∀ c ∈ explicit, ∃ m ∈ t.members, m.isViable ∧ m.name = c.name) →
      (tryPlan ⟨false, d⟩ t explicit .never).result =
        (tryPlan ⟨true, d⟩ t (explicit.eraseDupsBy fun a b => a.name == b.name) .never).result) ∧
    ∀ v, (tryPlan ⟨v, false⟩ t explicit .never).result =
      ((tryPlan ⟨v, true⟩ t explicit .never).result).map (List.take 1) := by
  refine ⟨?_, ?_, ?_⟩
  · intro d hunrefused
    have hresolved : ∀ name issue, Selection.resolution ⟨true, d⟩ t explicit ≠
        .error (.invalidSelection name issue) := by
      intro name issue hrefused
      apply hunrefused name issue
      rw [tryPlan_conclusion, hrefused, conclusion_error rfl]
    rw [tryPlan_conclusion, tryPlan_conclusion, conclusion_unchecked,
      Selection.resolution_unchecked hresolved]
  · intro d hviable
    rw [← firstOfEachName_eq_eraseDupsBy, tryPlan_conclusion, tryPlan_conclusion,
      conclusion_unchecked, Selection.resolution_without_repeats hviable]
  · intro v
    rw [tryPlan_conclusion, tryPlan_conclusion, Selection.resolution_offer]
    cases Selection.resolution ⟨v, true⟩ t explicit with
    | error r =>
      rw [conclusion_error rfl, conclusion_error rfl]
      rfl
    | ok s => exact quiet_planSelection_unoffered v t s .all

/-- Two members of an invoice, one of them listed again as if it had another type. -/
def repeatedTotal : List Member :=
  [{ name := "Total", type := "decimal", kind := .field, declarationOrder := 2 },
    { name := "Tax", type := "decimal", kind := .field, declarationOrder := 3 },
    { name := "Total", type := "string", kind := .property, declarationOrder := 0 }]

theorem options_filter_invoice :
    ((∀ name issue, (tryPlan ⟨true, true⟩ invoice (repeatedTotal.take 2) .never).result ≠
        .error (.invalidSelection name issue)) ∧
      (tryPlan ⟨false, true⟩ invoice (repeatedTotal.take 2) .never).result =
        (tryPlan ⟨true, true⟩ invoice (repeatedTotal.take 2) .never).result) ∧
    (∀ c ∈ repeatedTotal, ∃ m ∈ invoice.members, m.isViable ∧ m.name = c.name) ∧
      (tryPlan ⟨false, true⟩ invoice repeatedTotal .never).result =
        (tryPlan ⟨true, true⟩ invoice
          (repeatedTotal.eraseDupsBy fun a b => a.name == b.name) .never).result := by
  have hpresent : (tryPlan ⟨true, true⟩ invoice (repeatedTotal.take 2) .never).result =
      .error (.nothingToGenerate "Invoice" .sameConstructorExists) := by cbv
  have hunrefused : ∀ name issue,
      (tryPlan ⟨true, true⟩ invoice (repeatedTotal.take 2) .never).result ≠
        .error (.invalidSelection name issue) := by
    intro name issue hrefused
    rw [hpresent] at hrefused
    cases hrefused
  have hviable : ∀ c ∈ repeatedTotal, ∃ m ∈ invoice.members, m.isViable ∧ m.name = c.name := by
    decide
  exact ⟨⟨hunrefused, (options_filter invoice (repeatedTotal.take 2)).1 true hunrefused⟩, hviable,
    (options_filter invoice repeatedTotal).2.1 true hviable⟩

end ConstructorPlanning
