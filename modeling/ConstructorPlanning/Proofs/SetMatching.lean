import ConstructorPlanning.Proofs.PlanningOutcome
/-!
The comparison with existing constructors, said in terms of sets of names and places of the list
alone. Where something is selected, constructors that assign nothing or a member that is not
selected play no part, and neither does how the others list what they assign.
-/
namespace ConstructorPlanning

/-- The constructors differ at most in how they list the members that they assign. -/
structure Constructor.SameAssignment (c c' : Constructor) : Prop where
  declarationOrder : c.declarationOrder = c'.declarationOrder
  parameters : c.parameters = c'.parameters
  assigned : c.assigned = c'.assigned
  implicitlyDeclared : c.implicitlyDeclared = c'.implicitlyDeclared

/-- The answers name constructors that differ at most in how they list what they assign. -/
inductive Match.Alike : Match → Match → Prop where
  | exact {c c' : Constructor} (same : c.SameAssignment c') : Alike (.exact c) (.exact c')
  | delegatable {d d' : Constructor} {residual : List Member} (same : d.SameAssignment d') :
    Alike (.delegatable d residual) (.delegatable d' residual)
  | nothing : Alike .nothing .nothing

namespace Selection

variable {s : Selection}

/-- What a comparison with constructors comes to, under a signal that is never raised. -/
def matching (s : Selection) (cs : List Constructor) : Except Refusal Match :=
  ((s.matchConstructors cs).run .never .all).result

/-- Among the constructors that assign exactly the selected members, the one at place `i` is
declared first, and of those declared first it is listed first. -/
def IsFirstSame (s : Selection) (cs : List Constructor) (i : Fin cs.length) : Prop :=
  (cs.get i).assigned = s.nameSet ∧ ∀ j : Fin cs.length, (cs.get j).assigned = s.nameSet →
    NoLater Constructor.declarationOrder cs i j

/-- The answer of a comparison, by the sets of names that the constructors assign. -/
structure MatchesBySets (s : Selection) (cs : List Constructor) (found : Match) : Prop where
  exact_iff : (∃ c, found = .exact c) ↔ ∃ c ∈ cs, c.assigned = s.nameSet
  exact : ∀ c, found = .exact c → ∃ i, cs.get i = c ∧ s.IsFirstSame cs i
  delegatable_iff : (∃ d residual, found = .delegatable d residual) ↔
    (∀ c ∈ cs, c.assigned ≠ s.nameSet) ∧ ∃ c ∈ cs, s.IsTarget c
  delegatable : ∀ d residual, found = .delegatable d residual →
    (∃ i, cs.get i = d ∧ s.IsBestDelegate cs i) ∧
      residual = s.members.filter (·.name ∉ d.assigned) ∧ residual ≠ []
  nothing_iff : found = .nothing ↔
    (∀ c ∈ cs, c.assigned ≠ s.nameSet) ∧ ∀ c ∈ cs, ¬ s.IsTarget c

theorem IsTarget.residual_ne_nil {c : Constructor} (h : s.IsTarget c) : s.residual c ≠ [] := by
  obtain ⟨name, hname, hfree⟩ := Finset.exists_of_ssubset h.2
  obtain ⟨m, hm, rfl⟩ := List.mem_map.1 (mem_nameSet.1 hname)
  apply List.ne_nil_of_mem (a := m)
  rw [residual, List.mem_filter]
  exact ⟨hm, by simpa using hfree⟩

theorem isFirstSame_of_split {cs before after : List Constructor} {c : Constructor}
    (split : Constructor.inOrder cs = before ++ c :: after) (same : c.assigned = s.nameSet)
    (first : ∀ b ∈ before, b.assigned ≠ s.nameSet) : ∃ i, cs.get i = c ∧ s.IsFirstSame cs i := by
  obtain ⟨i, rfl, hplaces⟩ := sorted_split split
  refine ⟨i, rfl, same, ?_⟩
  intro j hj
  rcases hplaces j with hin | rfl | ⟨_, hlater⟩
  · exact absurd hj (first _ hin)
  · exact .inr ⟨rfl, Fin.le_refl _⟩
  · exact hlater

theorem Compares.matchesBySets {cs : List Constructor} {found : Match}
    (h : s.Compares (Constructor.inOrder cs) found) : s.MatchesBySets cs found := by
  have hmem (c : Constructor) : c ∈ Constructor.inOrder cs ↔ c ∈ cs :=
    (Constructor.inOrder_perm cs).mem_iff
  cases h with
  | @exact before after c split same first =>
    have hc : c ∈ cs := by
      rw [← hmem, split]
      exact List.mem_append_cons_self
    have hsame : ¬ ∀ c ∈ cs, c.assigned ≠ s.nameSet := fun none_same => none_same c hc same
    constructor
    · exact iff_of_true ⟨c, rfl⟩ ⟨c, hc, same⟩
    · rintro _ ⟨⟩
      exact isFirstSame_of_split split same first
    · refine iff_of_false ?_ fun h => hsame h.1
      rintro ⟨_, _, ⟨⟩⟩
    · rintro _ _ ⟨⟩
    · refine iff_of_false ?_ fun h => hsame h.1
      rintro ⟨⟩
  | @delegatable d none_same leads =>
    have hnone : ∀ c ∈ cs, c.assigned ≠ s.nameSet := fun c hc => none_same c ((hmem c).2 hc)
    obtain ⟨i, rfl, hbest⟩ := leads.isBestDelegate
    constructor
    · refine iff_of_false ?_ ?_
      · rintro ⟨_, ⟨⟩⟩
      · rintro ⟨c, hc, same⟩
        exact hnone c hc same
    · rintro _ ⟨⟩
    · exact iff_of_true ⟨_, _, rfl⟩ ⟨hnone, cs.get i, cs.get_mem i, hbest.1⟩
    · rintro _ _ ⟨⟩
      refine ⟨⟨i, rfl, hbest⟩, ?_, hbest.1.residual_ne_nil⟩
      simp [residual]
    · refine iff_of_false ?_ fun h => h.2 _ (cs.get_mem i) hbest.1
      rintro ⟨⟩
  | nothing none_same no_target =>
    have hnone : ∀ c ∈ cs, c.assigned ≠ s.nameSet := fun c hc => none_same c ((hmem c).2 hc)
    have hno : ∀ c ∈ cs, ¬ s.IsTarget c := fun c hc => no_target c ((hmem c).2 hc)
    constructor
    · refine iff_of_false ?_ ?_
      · rintro ⟨_, ⟨⟩⟩
      · rintro ⟨c, hc, same⟩
        exact hnone c hc same
    · rintro _ ⟨⟩
    · refine iff_of_false ?_ ?_
      · rintro ⟨_, _, ⟨⟩⟩
      · rintro ⟨_, c, hc, htarget⟩
        exact hno c hc htarget
    · rintro _ _ ⟨⟩
    · exact iff_of_true rfl ⟨hnone, hno⟩

theorem matching_eq_quiet (s : Selection) (cs : List Constructor) :
    s.matching cs = (s.matchConstructors cs).quiet .all :=
  Procedure.run_never_result _ _ fun _ _ => rfl

section Influence

/-- The constructor assigns something, and selected members only. -/
def IsRelevant (s : Selection) (c : Constructor) : Prop :=
  c.assigned.Nonempty ∧ c.assigned ⊆ s.nameSet

instance (s : Selection) : DecidablePred s.IsRelevant :=
  fun _ => inferInstanceAs (Decidable (_ ∧ _))

/-- Where something is selected, the scan passes over the other constructors. -/
theorem quiet_matchFrom_cons_irrelevant (hs : ¬ s.isEmpty) {c : Constructor}
    (hc : ¬ s.IsRelevant c) (best : Option Constructor) (rest : List Constructor)
    (picker : Picker) :
    (s.matchFrom best (c :: rest)).quiet picker = (s.matchFrom best rest).quiet picker := by
  rw [matchFrom, Procedure.quiet]
  by_cases hcovers : s.covers c
  · have hempty : c.assigned = ∅ := by
      by_contra hsome
      exact hc ⟨Finset.nonempty_iff_ne_empty.2 hsome, (covers_iff s c).1 hcovers⟩
    have hdiffers : c.assigned ≠ s.nameSet := by
      rw [hempty]
      exact fun heq => hs (s.isEmpty_iff_nameSet.2 heq.symm)
    have hnothing : c.assignedSet.isEmpty := c.assignedSet_isEmpty.2 hempty
    simp [hcovers, length_eq_size_iff, hdiffers, betterDelegate, hnothing]
  · simp [hcovers]

theorem quiet_matchFrom_relevant (hs : ¬ s.isEmpty) (best : Option Constructor)
    (cs : List Constructor) (picker : Picker) :
    (s.matchFrom best (cs.filter s.IsRelevant)).quiet picker =
      (s.matchFrom best cs).quiet picker := by
  induction cs generalizing best with
  | nil => rfl
  | cons c rest ih =>
    by_cases hc : s.IsRelevant c
    · rw [List.filter_cons_of_pos (by simpa using hc)]
      simp only [matchFrom, Procedure.quiet]
      split
      · exact ih best
      · split
        · rfl
        · exact ih _
    · rw [List.filter_cons_of_neg (by simpa using hc), ih,
        quiet_matchFrom_cons_irrelevant hs hc]

theorem covers_congr {c c' : Constructor} (h : c.assigned = c'.assigned) :
    s.covers c = s.covers c' := by
  rw [Bool.eq_iff_iff, covers_iff, covers_iff, h]

theorem residual_congr {c c' : Constructor} (h : c.assigned = c'.assigned) :
    s.residual c = s.residual c' := by
  have hmem (name : String) : name ∈ c.assignedMembers ↔ name ∈ c'.assignedMembers := by
    rw [← Constructor.mem_assigned, h, Constructor.mem_assigned]
  simp [residual, hmem]

theorem length_assignedSet_congr {c c' : Constructor} (h : c.assigned = c'.assigned) :
    c.assignedSet.length = c'.assignedSet.length := by
  rw [Constructor.length_assignedSet, Constructor.length_assignedSet, h]

theorem isEmpty_assignedSet_congr {c c' : Constructor} (h : c.assigned = c'.assigned) :
    c.assignedSet.isEmpty = c'.assignedSet.isEmpty := by
  rw [Bool.eq_iff_iff, Constructor.assignedSet_isEmpty, Constructor.assignedSet_isEmpty, h]

theorem betterDelegate_alike {best best' : Option Constructor} {c c' : Constructor}
    (hbest : Option.Rel Constructor.SameAssignment best best') (hc : c.SameAssignment c') :
    Option.Rel Constructor.SameAssignment (betterDelegate best c) (betterDelegate best' c') := by
  unfold betterDelegate
  rw [isEmpty_assignedSet_congr hc.assigned]
  split
  · exact hbest
  · cases hbest with
    | none => exact .some hc
    | some hd =>
      simp only [length_assignedSet_congr hc.assigned, length_assignedSet_congr hd.assigned]
      split
      · exact .some hc
      · exact .some hd

theorem quiet_matchFrom_alike {best best' : Option Constructor} {cs cs' : List Constructor}
    (hbest : Option.Rel Constructor.SameAssignment best best')
    (hcs : List.Forall₂ Constructor.SameAssignment cs cs') (picker : Picker) :
    ∃ found found', (s.matchFrom best cs).quiet picker = .ok found ∧
      (s.matchFrom best' cs').quiet picker = .ok found' ∧ found.Alike found' := by
  induction hcs generalizing best best' with
  | nil =>
    cases hbest with
    | none => exact ⟨.nothing, .nothing, rfl, rfl, .nothing⟩
    | @some d d' hd =>
      refine ⟨.delegatable d (s.residual d), .delegatable d' (s.residual d'), rfl, rfl, ?_⟩
      rw [residual_congr hd.assigned]
      exact .delegatable hd
  | @cons c c' rest rest' hc _ ih =>
    simp only [matchFrom, Procedure.quiet]
    rw [covers_congr hc.assigned, length_assignedSet_congr hc.assigned]
    split
    · exact ih hbest
    · split
      · exact ⟨.exact c, .exact c', rfl, rfl, .exact hc⟩
      · exact ih (betterDelegate_alike hbest hc)

theorem matching_relevant (hs : ¬ s.isEmpty) (cs : List Constructor) :
    s.matching (cs.filter s.IsRelevant) = s.matching cs := by
  rw [matching_eq_quiet, matching_eq_quiet, matchConstructors, matchConstructors,
    Constructor.inOrder, sorted_filter]
  exact quiet_matchFrom_relevant hs none _ .all

theorem matching_alike {cs cs' : List Constructor}
    (h : List.Forall₂ Constructor.SameAssignment cs cs') :
    ∃ found found', s.matching cs = .ok found ∧ s.matching cs' = .ok found' ∧
      found.Alike found' := by
  have hsorted : List.Forall₂ Constructor.SameAssignment (Constructor.inOrder cs)
      (Constructor.inOrder cs') := by
    exact sorted_forall₂ _ (fun c c' hc => hc.declarationOrder) h
  rw [matching_eq_quiet, matching_eq_quiet]
  exact quiet_matchFrom_alike .none hsorted .all

end Influence

/-- A comparison that nobody cancels finds an exact match where a constructor assigns exactly the
selected members, else the best delegate where one assigns some of them and no others, and else
nothing. -/
theorem matches_by_sets (s : Selection) (cs : List Constructor) :
    ∃ found, s.matching cs = .ok found ∧ s.MatchesBySets cs found ∧
      (¬ s.isEmpty → ∀ cs', List.Forall₂ Constructor.SameAssignment
          (cs.filter s.IsRelevant) (cs'.filter s.IsRelevant) →
        ∃ found', s.matching cs' = .ok found' ∧ found.Alike found') := by
  obtain ⟨found, hfound, hcompares⟩ := s.quiet_matchConstructors cs .all
  have hmatching : s.matching cs = .ok found := (matching_eq_quiet s cs).trans hfound
  refine ⟨found, hmatching, hcompares.matchesBySets, ?_⟩
  intro hs cs' hrelevant
  obtain ⟨first, second, hfirst, hsecond, halike⟩ := matching_alike hrelevant
  rw [matching_relevant hs] at hfirst hsecond
  obtain rfl : first = found := Except.ok.inj (hfirst.symm.trans hmatching)
  exact ⟨second, hsecond, halike⟩

/-- The constructors of `invoice` once more: with one that assigns nothing in place of the one that
assigns a foreign name, and with other lists of the same members. -/
def relistedConstructors : List Constructor :=
  [{ declarationOrder := 5 },
    { declarationOrder := 1, parameters := [⟨"id", "int", none⟩], assignedMembers := ["Id"] },
    { declarationOrder := 0, parameters := [⟨"amount", "decimal", none⟩],
      assignedMembers := ["Tax", "Total", "Tax"] }]

theorem matches_by_sets_invoice :
    ¬ (ofMembers invoice.members).isEmpty ∧
      List.Forall₂ Constructor.SameAssignment
        (invoice.constructors.filter (ofMembers invoice.members).IsRelevant)
        (relistedConstructors.filter (ofMembers invoice.members).IsRelevant) ∧
      ∃ found found', (ofMembers invoice.members).matching invoice.constructors = .ok found ∧
        (ofMembers invoice.members).MatchesBySets invoice.constructors found ∧
        (ofMembers invoice.members).matching relistedConstructors = .ok found' ∧
        found.Alike found' := by
  have hsome : ¬ (ofMembers invoice.members).isEmpty := by decide
  have hrelevant : List.Forall₂ Constructor.SameAssignment
      (invoice.constructors.filter (ofMembers invoice.members).IsRelevant)
      (relistedConstructors.filter (ofMembers invoice.members).IsRelevant) := by
    have hfirst : invoice.constructors.filter (ofMembers invoice.members).IsRelevant =
        invoice.constructors.take 2 := by decide +kernel
    have hsecond : relistedConstructors.filter (ofMembers invoice.members).IsRelevant =
        relistedConstructors.drop 1 := by decide +kernel
    rw [hfirst, hsecond]
    exact .cons ⟨rfl, rfl, by decide, rfl⟩ (.cons ⟨rfl, rfl, by decide, rfl⟩ .nil)
  obtain ⟨found, hfound, hsets, halike⟩ :=
    matches_by_sets (ofMembers invoice.members) invoice.constructors
  obtain ⟨found', hfound', hsame⟩ := halike hsome _ hrelevant
  exact ⟨hsome, hrelevant, found, found', hfound, hsets, hfound', hsame⟩

end Selection

end ConstructorPlanning
