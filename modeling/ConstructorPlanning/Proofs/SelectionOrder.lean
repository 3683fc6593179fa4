import ConstructorPlanning.Proofs.ExplicitSelection
/-!
What the order of an explicit list decides: the order of parameters and assignments, and with it the
numbers in parameter names, but not whether there is something to generate, nor which constructor is
delegated to.
-/
namespace ConstructorPlanning

/-- The refusals are the same, or both refuse a list for what it holds. -/
inductive Refusal.SameKind : Refusal → Refusal → Prop where
  | same (r : Refusal) : SameKind r r
  | invalidSelection (name name' : String) (issue issue' : SelectionIssue) :
    SameKind (.invalidSelection name issue) (.invalidSelection name' issue')

/-- The parameters initialize the same members with the same types, `ps` in the order of the members
`l` and `ps'` in the order of `l'`. -/
structure RelaidOut (l l' : List Member) (ps ps' : List GeneratedParameter) : Prop where
  same : (ps.map fun p => (p.member, p.type)).Perm (ps'.map fun p => (p.member, p.type))
  order : (ps.map fun p => (p.member, p.type)) = l.map fun m => (m.name, m.type)
  order' : (ps'.map fun p => (p.member, p.type)) = l'.map fun m => (m.name, m.type)

/-- The plans are of one kind and differ in nothing but the order of members, the names of their
parameters, and what is passed on where. -/
inductive SameDecision (l l' : List Member) : Plan → Plan → Prop where
  | fieldAssign {ps ps' : List GeneratedParameter} (parameters : RelaidOut l l' ps ps') :
    SameDecision l l' (.fieldAssign ps) (.fieldAssign ps')
  | delegateThenAssign {d : Constructor} {ps ps' rest rest' : List GeneratedParameter}
    {args args' : List DelegateArgument} (parameters : RelaidOut l l' ps ps')
    (residual : RelaidOut (l.filter (·.name ∉ d.assigned)) (l'.filter (·.name ∉ d.assigned))
      rest rest') :
    SameDecision l l' (.delegateThenAssign d ps args rest) (.delegateThenAssign d ps' args' rest')
  | noParam : SameDecision l l' .noParam .noParam

/-- Both answers are refusals of one kind, or both are plans that decide alike, one by one. -/
inductive SameOutcome (l l' : List Member) :
    Except Refusal (List Plan) → Except Refusal (List Plan) → Prop where
  | refused {r r' : Refusal} (same : r.SameKind r') : SameOutcome l l' (.error r) (.error r')
  | offered {plans plans' : List Plan} (same : List.Forall₂ (SameDecision l l') plans plans') :
    SameOutcome l l' (.ok plans) (.ok plans')

/-- The members that a list without repeated names asks for. The empty list asks for all viable
ones, each name once. -/
def TypeSnapshot.asked (t : TypeSnapshot) (explicit : List Member) : List Member :=
  if explicit.isEmpty then firstOfEachName t.viableMembers else explicit

/-- The comparison with the residual laid out as another selection has it. -/
def Match.relaid (s : Selection) : Match → Match
  | .exact c => .exact c
  | .delegatable d _ => .delegatable d (s.residual d)
  | .nothing => .nothing

namespace Selection

variable {o : Options} {t : TypeSnapshot} {s s' : Selection}

section Resolved

variable {explicit explicit' : List Member}

theorem members_of_resolution (distinct : (explicit.map (·.name)).Nodup)
    (h : resolution o t explicit = .ok s) : s.members = t.asked explicit := by
  rw [resolution_target (checkTarget_of_resolution h)] at h
  unfold TypeSnapshot.asked
  split at h
  · rename_i hempty
    rw [if_pos hempty]
    split at h
    · rename_i hnone
      rw [List.isEmpty_iff.1 hnone]
      rw [quiet_ofNothing] at h
      split at h
      · cases h
      · cases h
        rfl
    · cases h
      rfl
  · rename_i hsome
    rw [if_neg hsome]
    rw [quiet_ofChoice] at h
    split at h
    · cases h
    · cases h
      exact firstOfEachName_eq_self distinct

theorem firstIssue_eq_none_of_perm (perm : explicit.Perm explicit') :
    t.firstIssue? t.viableMembers [] explicit = none ↔
      t.firstIssue? t.viableMembers [] explicit' = none := by
  rw [TypeSnapshot.firstIssue_eq_none_iff_viable, TypeSnapshot.firstIssue_eq_none_iff_viable,
    (perm.map _).nodup_iff]
  simp only [perm.mem_iff]

/-- Lists that hold the same members both stand for selections or are both refused. -/
theorem resolution_perm (perm : explicit.Perm explicit') :
    (∃ s s', resolution o t explicit = .ok s ∧ resolution o t explicit' = .ok s') ∨
      ∃ r r', resolution o t explicit = .error r ∧ resolution o t explicit' = .error r' ∧
        r.SameKind r' := by
  by_cases hempty : explicit = []
  · -- There is one empty list.
    obtain rfl : explicit' = [] := List.nil_perm.1 (hempty ▸ perm)
    rw [hempty]
    cases hresolved : resolution o t [] with
    | error r => exact .inr ⟨r, r, rfl, rfl, .same r⟩
    | ok s => exact .inl ⟨s, s, rfl, rfl⟩
  · have hempty' : explicit' ≠ [] := fun hnone => hempty (List.perm_nil.1 (hnone ▸ perm))
    by_cases htarget : t.IsInstantiable
    · have hcheck := TypeSnapshot.checkTarget_eq_ok_iff.2 htarget
      rw [resolution_choice hcheck hempty, resolution_choice hcheck hempty', quiet_ofChoice,
        quiet_ofChoice]
      have hissues := firstIssue_eq_none_of_perm (t := t) perm
      cases o.validateSelection with
      | false => exact .inl ⟨_, _, rfl, rfl⟩
      | true =>
        cases hissue : t.firstIssue? t.viableMembers [] explicit with
        | none =>
          rw [hissues.1 hissue]
          exact .inl ⟨_, _, rfl, rfl⟩
        | some found =>
          cases hissue' : t.firstIssue? t.viableMembers [] explicit' with
          | none =>
            rw [hissues.2 hissue'] at hissue
            cases hissue
          | some found' =>
            exact .inr ⟨_, _, rfl, rfl,
              .invalidSelection found.1 found'.1 found.2 found'.2⟩
    · rw [resolution_untargeted htarget, resolution_untargeted htarget]
      exact .inr ⟨_, _, rfl, rfl, .same _⟩

theorem asked_perm (perm : explicit.Perm explicit') :
    (t.asked explicit).Perm (t.asked explicit') := by
  unfold TypeSnapshot.asked
  rw [perm.isEmpty_eq]
  split
  · exact List.Perm.refl _
  · exact perm

end Resolved

section Planned

theorem nameSet_eq_of_perm (perm : s.members.Perm s'.members) : s.nameSet = s'.nameSet :=
  List.toFinset_eq_of_perm _ _ (perm.map _)

/-- The scan goes by the set of selected names; the selection itself only lays the residual out. -/
theorem quiet_matchFrom_relaid (h : s.nameSet = s'.nameSet) (best : Option Constructor)
    (cs : List Constructor) (picker : Picker) :
    (s'.matchFrom best cs).quiet picker =
      ((s.matchFrom best cs).quiet picker).map (Match.relaid s') := by
  have hcovers (c : Constructor) : s'.covers c = s.covers c := by
    rw [Bool.eq_iff_iff, covers_iff, covers_iff, h]
  have hsize : s'.size = s.size := by rw [size_eq_card, size_eq_card, h]
  induction cs generalizing best with
  | nil => cases best <;> rfl
  | cons c rest ih =>
    simp only [matchFrom, Procedure.quiet, hcovers, hsize]
    split
    · exact ih best
    · split
      · rfl
      · exact ih _

theorem relaidOut_of_perm {l l' : List Member} {ps ps' : List GeneratedParameter}
    (perm : l.Perm l')
    (order : (ps.map fun p => (p.member, p.type)) = l.map fun m => (m.name, m.type))
    (order' : (ps'.map fun p => (p.member, p.type)) = l'.map fun m => (m.name, m.type)) :
    RelaidOut l l' ps ps' where
  same := by
    rw [order, order']
    exact perm.map _
  order := order
  order' := order'

theorem map_unassigned (s : Selection) (c : Constructor) :
    ((s.parameters.filter fun p => !c.assignedMembers.contains p.member).map
        fun p => (p.member, p.type)) =
      (s.members.filter (·.name ∉ c.assigned)).map fun m => (m.name, m.type) := by
  rw [s.map_filter_parameters fun name => !c.assignedMembers.contains name]
  simp

theorem relaidOut_parameters (perm : s.members.Perm s'.members) :
    RelaidOut s.members s'.members s.parameters s'.parameters :=
  relaidOut_of_perm perm s.map_parameters s'.map_parameters

theorem sameDecision_delegation (perm : s.members.Perm s'.members) (c : Constructor) :
    SameDecision s.members s'.members (s.delegation c) (s'.delegation c) :=
  .delegateThenAssign (relaidOut_parameters perm)
    (relaidOut_of_perm (perm.filter _) (s.map_unassigned c) (s'.map_unassigned c))

/-- Selections of the same members lead to plans that decide alike. -/
theorem sameOutcome_planSelection (perm : s.members.Perm s'.members) (picker : Picker) :
    SameOutcome s.members s'.members ((planSelection o t s).quiet picker)
      ((planSelection o t s').quiet picker) := by
  have hempty : s'.isEmpty = s.isEmpty := perm.isEmpty_eq.symm
  simp only [planSelection, Procedure.quiet, hempty]
  by_cases hs : s.isEmpty
  · simp only [if_pos hs, Procedure.quiet]
    rw [s.quiet_synthesize_empty o picker _ hs,
      s'.quiet_synthesize_empty o picker _ (hempty.trans hs)]
    exact .offered (.cons .noParam .nil)
  · have hs' : ¬ s'.isEmpty := by rwa [hempty]
    simp only [if_neg hs]
    obtain ⟨found, hfound, hcompares⟩ := s.quiet_matchConstructors t.constructors picker
    have hfound' : (s'.matchConstructors t.constructors).quiet picker =
        .ok (found.relaid s') := by
      rw [matchConstructors] at hfound ⊢
      rw [quiet_matchFrom_relaid (nameSet_eq_of_perm perm), hfound]
      rfl
    rw [Procedure.quiet_bind_ok hfound, Procedure.quiet_bind_ok hfound']
    have hassigning := SameDecision.fieldAssign (relaidOut_parameters perm)
    cases hcompares with
    | exact => exact .refused (.same _)
    | @delegatable c =>
      change SameOutcome _ _ (Procedure.quiet (s.synthesize o _ >>= _) picker)
        (Procedure.quiet (s'.synthesize o (.delegatable c (s'.residual c)) >>= _) picker)
      rw [Procedure.quiet_bind_ok (s.quiet_synthesize_delegatable o picker c hs),
        Procedure.quiet_bind_ok (s'.quiet_synthesize_delegatable o picker c hs')]
      refine .offered (.cons hassigning ?_)
      split
      · exact .cons (sameDecision_delegation perm c) .nil
      · exact .nil
    | nothing =>
      change SameOutcome _ _ (Procedure.quiet (s.synthesize o _ >>= _) picker)
        (Procedure.quiet (s'.synthesize o .nothing >>= _) picker)
      rw [Procedure.quiet_bind_ok (s.quiet_synthesize_nothing o picker hs),
        Procedure.quiet_bind_ok (s'.quiet_synthesize_nothing o picker hs')]
      exact .offered (.cons hassigning .nil)

end Planned

end Selection

/-- Lists of the same members, in whatever orders and without repeated names, are decided alike:
both refused for one kind of reason, or answered with plans of the same kinds for the same members
and with the same delegate. Parameters and residual stand in each list's own order. -/
theorem order_only_lays_out (o : Options) (t : TypeSnapshot) {explicit explicit' : List Member}
    (perm : explicit.Perm explicit') (distinct : (explicit.map (·.name)).Nodup) :
    SameOutcome (t.asked explicit) (t.asked explicit') (tryPlan o t explicit .never).result
      (tryPlan o t explicit' .never).result := by
  have distinct' : (explicit'.map (·.name)).Nodup := (perm.map _).nodup_iff.1 distinct
  rw [tryPlan_never_result, tryPlan_never_result]
  rcases Selection.resolution_perm (o := o) (t := t) perm with
    ⟨s, s', hs, hs'⟩ | ⟨r, r', hr, hr', hsame⟩
  · have hmembers := Selection.members_of_resolution distinct hs
    have hmembers' := Selection.members_of_resolution distinct' hs'
    have hperm : s.members.Perm s'.members := by
      rw [hmembers, hmembers']
      exact Selection.asked_perm perm
    rw [quiet_planExplicit_eq hs, quiet_planExplicit_eq hs', ← hmembers, ← hmembers']
    exact Selection.sameOutcome_planSelection hperm .all
  · rw [quiet_planExplicit_error hr, quiet_planExplicit_error hr']
    exact .refused hsame

/-- Three members of an invoice, two of which compete for one parameter name. -/
def invoiceChoice : List Member :=
  invoice.members.take 3

theorem order_only_lays_out_invoice :
    invoiceChoice.Perm invoiceChoice.reverse ∧ (invoiceChoice.map (·.name)).Nodup ∧
      SameOutcome (invoice.asked invoiceChoice) (invoice.asked invoiceChoice.reverse)
        (tryPlan {} invoice invoiceChoice .never).result
        (tryPlan {} invoice invoiceChoice.reverse .never).result := by
  have hperm : invoiceChoice.Perm invoiceChoice.reverse := (List.reverse_perm _).symm
  have hdistinct : (invoiceChoice.map (·.name)).Nodup := by decide
  exact ⟨hperm, hdistinct, order_only_lays_out {} invoice hperm hdistinct⟩

example : (tryPlan {} invoice invoiceChoice .never).result.map (·.map Plan.parameterNames) =
      .ok [["id", "id2", "total"], ["id", "id2", "total"]] ∧
    (tryPlan {} invoice invoiceChoice.reverse .never).result.map (·.map Plan.parameterNames) =
      .ok [["total", "id", "id2"], ["total", "id", "id2"]] := by
  constructor <;> cbv

end ConstructorPlanning
