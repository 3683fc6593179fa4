import ConstructorPlanning.Proofs.QuietRun
/-!
Which selection a list of members stands for, case by case: the type cannot be a target, the list
is empty and so stands for the viable members, or the list is a choice of its own. The type's
constructors matter only where nothing is viable.
-/
namespace ConstructorPlanning

def TypeSnapshot.withConstructors (t : TypeSnapshot) (cs : List Constructor) : TypeSnapshot :=
  { t with constructors := cs }

/-- Of the type itself the check of a choice sees no more than which names are declared. -/
theorem TypeSnapshot.firstIssue_congr {t u : TypeSnapshot}
    (h : ∀ name, (t.member? name).isSome = (u.member? name).isSome) (viable : List Member)
    (seen : List String) (chosen : List Member) :
    t.firstIssue? viable seen chosen = u.firstIssue? viable seen chosen := by
  induction chosen generalizing seen with
  | nil => rfl
  | cons m rest ih => simp only [firstIssue?, ih, h]

theorem TypeSnapshot.firstIssue_withConstructors (t : TypeSnapshot) (cs : List Constructor)
    (viable : List Member) (seen : List String) (chosen : List Member) :
    (t.withConstructors cs).firstIssue? viable seen chosen = t.firstIssue? viable seen chosen :=
  have hdeclared : ∀ name,
      ((t.withConstructors cs).member? name).isSome = (t.member? name).isSome := fun _ => rfl
  firstIssue_congr hdeclared viable seen chosen

/-- No issue is found exactly where the chosen names are new, different from each other, and names
of viable members. -/
theorem TypeSnapshot.firstIssue_eq_none_iff {t : TypeSnapshot} {viable : List Member}
    {seen : List String} {chosen : List Member} :
    t.firstIssue? viable seen chosen = none ↔
      (chosen.map (·.name)).Nodup ∧ (∀ c ∈ chosen, c.name ∉ seen) ∧
        ∀ c ∈ chosen, ∃ m ∈ viable, m.name = c.name := by
  induction chosen generalizing seen with
  | nil => simp [firstIssue?]
  | cons c rest ih =>
    rw [firstIssue?]
    split
    · rename_i hseen
      have hmem : c.name ∈ seen := List.contains_iff_mem.1 hseen
      exact iff_of_false nofun fun h => h.2.1 c List.mem_cons_self hmem
    · rename_i hnew
      have hnew' : c.name ∉ seen := fun hmem => hnew (List.contains_iff_mem.2 hmem)
      split
      · rename_i hviable
        have hfound : ∃ m ∈ viable, m.name = c.name := by simpa using hviable
        rw [ih, List.map_cons, List.nodup_cons, List.forall_mem_cons, List.forall_mem_cons]
        simp only [List.mem_cons, List.mem_map, not_or]
        constructor
        · rintro ⟨hnodup, hrest, hall⟩
          refine ⟨⟨?_, hnodup⟩, ⟨hnew', fun d hd => (hrest d hd).2⟩, hfound, hall⟩
          rintro ⟨d, hd, hname⟩
          exact (hrest d hd).1 hname
        · rintro ⟨⟨hc, hnodup⟩, ⟨_, hrest⟩, _, hall⟩
          exact ⟨hnodup, fun d hd => ⟨fun hname => hc ⟨d, hd, hname⟩, hrest d hd⟩, hall⟩
      · rename_i hnone
        refine iff_of_false nofun fun h => hnone ?_
        simpa using h.2.2 c List.mem_cons_self

/-- The issue that is found is that of the first member that repeats a name or names no viable
member. -/
theorem TypeSnapshot.firstIssue_split {t : TypeSnapshot} {viable : List Member}
    {seen : List String} {chosen : List Member} {name : String} {issue : SelectionIssue}
    (h : t.firstIssue? viable seen chosen = some (name, issue)) :
    ∃ front m rest, chosen = front ++ m :: rest ∧ m.name = name ∧
      t.firstIssue? viable seen front = none ∧
      ((name ∈ seen ∨ name ∈ front.map (·.name)) ∧ issue = .duplicate ∨
        (∀ v ∈ viable, v.name ≠ name) ∧
          issue = if (t.member? name).isSome then .notViable else .notFound) := by
  induction chosen generalizing seen with
  | nil => cases h
  | cons m rest ih =>
    rw [firstIssue?] at h
    split at h
    · rename_i hseen
      cases h
      exact ⟨[], m, rest, rfl, rfl, rfl, .inl ⟨.inl (List.contains_iff_mem.1 hseen), rfl⟩⟩
    · rename_i hnew
      split at h
      · rename_i hviable
        obtain ⟨front, k, back, rfl, hname, hfront, hcause⟩ := ih h
        refine ⟨m :: front, k, back, rfl, hname, ?_, ?_⟩
        · rw [firstIssue?, if_neg hnew, if_pos hviable, hfront]
        · simpa only [List.map_cons, List.mem_cons, or_assoc, or_left_comm] using hcause
      · rename_i hnone
        cases h
        refine ⟨[], m, rest, rfl, rfl, rfl, .inr ⟨?_, rfl⟩⟩
        intro v hv hname
        exact hnone (List.any_eq_true.2 ⟨v, hv, decide_eq_true hname⟩)

namespace TypeSnapshot

theorem mem_viableMembers {t : TypeSnapshot} {m : Member} :
    m ∈ t.viableMembers ↔ m ∈ t.members ∧ m.isViable := by
  rw [viableMembers, List.mem_mergeSort, List.mem_filter]

theorem nodup_names_viableMembers {t : TypeSnapshot} (distinct : (t.members.map (·.name)).Nodup) :
    (t.viableMembers.map (·.name)).Nodup := by
  have hperm : t.viableMembers.Perm (t.members.filter Member.isViable) := List.mergeSort_perm ..
  rw [(hperm.map _).nodup_iff]
  exact List.Pairwise.sublist (List.filter_sublist.map _) distinct

theorem viableMembers_eq_nil_iff {t : TypeSnapshot} :
    t.viableMembers = [] ↔ ∀ m ∈ t.members, ¬ m.isViable := by
  simp only [List.eq_nil_iff_forall_not_mem, mem_viableMembers, not_and]

/-- The type is a class or a struct, and not static. -/
def IsInstantiable (t : TypeSnapshot) : Prop :=
  (t.kind = .classType ∨ t.kind = .structType) ∧ t.isStatic = false

instance (t : TypeSnapshot) : Decidable t.IsInstantiable :=
  inferInstanceAs (Decidable (_ ∧ _))

theorem checkTarget_eq_ok_iff {t : TypeSnapshot} : t.checkTarget = .ok () ↔ t.IsInstantiable := by
  obtain ⟨name, kind, isStatic, members, constructors⟩ := t
  cases kind <;> cases isStatic <;>
    simp [checkTarget, TypeKind.supportsConstructors, IsInstantiable]

/-- There is something to choose among: the type can be a target and has viable members. -/
def offersChoice (t : TypeSnapshot) : Bool :=
  t.checkTarget.isOk && !t.viableMembers.isEmpty

theorem offersChoice_iff {t : TypeSnapshot} :
    t.offersChoice ↔ t.IsInstantiable ∧ t.viableMembers ≠ [] := by
  rw [offersChoice, ← checkTarget_eq_ok_iff]
  cases t.checkTarget <;> simp [Except.isOk, Except.toBool]

end TypeSnapshot

namespace Selection

/-- The selection that an explicit list stands for, under a signal that is never raised. -/
def resolution (o : Options) (t : TypeSnapshot) (explicit : List Member) :
    Except Refusal Selection :=
  ((ofExplicit o t explicit).run .never .all).result

theorem resolution_eq_quiet (o : Options) (t : TypeSnapshot) (explicit : List Member) :
    resolution o t explicit = (ofExplicit o t explicit).quiet .all :=
  Procedure.run_never_result _ _ fun _ _ => rfl

theorem isEmpty_ofMembers (members : List Member) :
    (ofMembers members).isEmpty = members.isEmpty := by
  cases members <;> rfl

@[simp] theorem quiet_collectViable (t : TypeSnapshot) (picker : Picker) :
    (collectViable t).quiet picker = .ok t.viableMembers := rfl

theorem quiet_checkChoice (t : TypeSnapshot) (chosen : List Member) (picker : Picker) :
    (checkChoice t chosen).quiet picker =
      match t.firstIssue? t.viableMembers [] chosen with
      | some (name, issue) => .error (.invalidSelection name issue)
      | none => .ok () := by
  rw [checkChoice, Procedure.quiet_bind_ok (quiet_collectViable t picker)]
  cases t.firstIssue? t.viableMembers [] chosen <;> rfl

/-- A choice is refused for its first issue if choices are checked, and else taken as it stands up
to repeated names. -/
theorem quiet_ofChoice (o : Options) (t : TypeSnapshot) (chosen : List Member) (picker : Picker) :
    (ofChoice o t chosen).quiet picker =
      match o.validateSelection, t.firstIssue? t.viableMembers [] chosen with
      | true, some (name, issue) => .error (.invalidSelection name issue)
      | _, _ => .ok (ofMembers chosen) := by
  unfold ofChoice
  cases o.validateSelection with
  | false => rfl
  | true =>
    simp only [if_true, Procedure.quiet_bind, quiet_checkChoice]
    cases t.firstIssue? t.viableMembers [] chosen <;> rfl

theorem quiet_ofNothing (t : TypeSnapshot) (picker : Picker) :
    (ofNothing t).quiet picker =
      if t.explicitParameterless?.isSome then
        .error (.nothingToGenerate t.name .parameterlessExists)
      else .ok empty := by
  unfold ofNothing
  split <;> rfl

theorem resolution_invalid {o : Options} {t : TypeSnapshot} {r : Refusal}
    (h : t.checkTarget = .error r) (explicit : List Member) :
    resolution o t explicit = .error r := by
  rw [resolution_eq_quiet, ofExplicit, Procedure.quiet_bind, Procedure.quiet_ofExcept, h]
  rfl

theorem resolution_target {o : Options} {t : TypeSnapshot} (h : t.checkTarget = .ok ())
    (explicit : List Member) :
    resolution o t explicit =
      if explicit.isEmpty then
        if t.viableMembers.isEmpty then (ofNothing t).quiet .all
        else .ok (ofMembers t.viableMembers)
      else (ofChoice o t explicit).quiet .all := by
  rw [resolution_eq_quiet, ofExplicit, Procedure.quiet_bind, Procedure.quiet_ofExcept, h]
  change Procedure.quiet (if explicit.isEmpty then _ else _) _ = _
  split
  · change Procedure.quiet (if t.viableMembers.isEmpty then _ else _) _ = _
    split <;> rfl
  · rfl

/-- A list that is not empty is a choice of its own. -/
theorem resolution_choice {o : Options} {t : TypeSnapshot} {explicit : List Member}
    (h : t.checkTarget = .ok ()) (hsome : explicit ≠ []) :
    resolution o t explicit = (ofChoice o t explicit).quiet .all := by
  rw [resolution_target h, if_neg (mt List.isEmpty_iff.1 hsome)]

theorem checkTarget_of_resolution {o : Options} {t : TypeSnapshot} {explicit : List Member}
    {s : Selection} (h : resolution o t explicit = .ok s) : t.checkTarget = .ok () := by
  cases htarget : t.checkTarget with
  | ok _ => rfl
  | error r =>
    rw [resolution_invalid htarget] at h
    cases h

/-- The empty selection comes from the empty list alone, for a type without viable members and
without a parameterless constructor of its own. -/
theorem isEmpty_resolution_iff {o : Options} {t : TypeSnapshot} {explicit : List Member}
    {s : Selection} (h : resolution o t explicit = .ok s) :
    s.isEmpty ↔ explicit = [] ∧ t.viableMembers = [] ∧ t.explicitParameterless? = none := by
  rw [resolution_target (checkTarget_of_resolution h)] at h
  by_cases hexplicit : explicit.isEmpty
  · rw [if_pos hexplicit] at h
    by_cases hviable : t.viableMembers.isEmpty
    · rw [if_pos hviable, quiet_ofNothing] at h
      split at h
      · cases h
      · rename_i hnone
        cases h
        have hparameterless : t.explicitParameterless? = none := by simpa using hnone
        exact ⟨fun _ => ⟨List.isEmpty_iff.1 hexplicit, List.isEmpty_iff.1 hviable,
          hparameterless⟩, fun _ => rfl⟩
    · rw [if_neg hviable] at h
      cases h
      rw [isEmpty_ofMembers]
      exact ⟨fun hempty => absurd hempty hviable, fun hall => by rw [hall.2.1]; rfl⟩
  · rw [if_neg hexplicit, quiet_ofChoice] at h
    split at h
    · cases h
    · cases h
      rw [isEmpty_ofMembers]
      exact ⟨fun hempty => absurd hempty hexplicit, fun hall => by rw [hall.1]; rfl⟩

/-- A selection that is not empty does not depend on the type's constructors. -/
theorem resolution_withConstructors {o : Options} {t : TypeSnapshot} {explicit : List Member}
    {s : Selection} (h : resolution o t explicit = .ok s) (hs : ¬ s.isEmpty)
    (cs : List Constructor) : resolution o (t.withConstructors cs) explicit = .ok s := by
  have htarget := checkTarget_of_resolution h
  have hsome : ¬ (explicit = [] ∧ t.viableMembers = [] ∧ t.explicitParameterless? = none) :=
    fun hempty => hs ((isEmpty_resolution_iff h).2 hempty)
  have hviable : (t.withConstructors cs).viableMembers = t.viableMembers := rfl
  rw [resolution_target htarget] at h
  rw [resolution_target (show (t.withConstructors cs).checkTarget = .ok () from htarget), hviable,
    quiet_ofChoice, hviable, t.firstIssue_withConstructors, ← quiet_ofChoice]
  by_cases hexplicit : explicit.isEmpty
  · by_cases hnone : t.viableMembers.isEmpty
    · rw [if_pos hexplicit, if_pos hnone, quiet_ofNothing] at h
      split at h
      · cases h
      · rename_i hparameterless
        exact absurd ⟨List.isEmpty_iff.1 hexplicit, List.isEmpty_iff.1 hnone,
          by simpa using hparameterless⟩ hsome
    · rw [if_pos hexplicit, if_neg hnone] at h ⊢
      exact h
  · rw [if_neg hexplicit] at h ⊢
    exact h

section Requests

theorem requests_checkChoice (t : TypeSnapshot) (chosen : List Member) (picker : Picker) :
    (checkChoice t chosen).requests picker = [] := by
  apply Procedure.requests_bind_nil rfl
  intro viable
  split <;> rfl

theorem requests_ofChoice (o : Options) (t : TypeSnapshot) (chosen : List Member)
    (picker : Picker) : (ofChoice o t chosen).requests picker = [] := by
  unfold ofChoice
  split
  · exact Procedure.requests_bind_nil (requests_checkChoice t chosen picker) fun _ => rfl
  · rfl

theorem requests_ofNothing (t : TypeSnapshot) (picker : Picker) :
    (ofNothing t).requests picker = [] := by
  unfold ofNothing
  split <;> rfl

/-- An explicit list is resolved without a look at the signal. -/
theorem requests_ofExplicit (o : Options) (t : TypeSnapshot) (explicit : List Member)
    (picker : Picker) : (ofExplicit o t explicit).requests picker = [] := by
  apply Procedure.requests_bind_nil (Procedure.requests_ofExcept _ _)
  intro _
  split
  · apply Procedure.requests_bind_nil rfl
    intro viable
    split
    · exact requests_ofNothing t picker
    · rfl
  · exact requests_ofChoice o t explicit picker

end Requests

section Picked

/-- The selection that a picker makes, under a signal that nobody else raises. -/
def pickedResolution (o : Options) (t : TypeSnapshot) (picker : Picker) :
    Except Refusal Selection :=
  ((ofPicker o t).run .never picker).result

/-- A picker is asked once, if there is something to choose among, and nothing else is asked. -/
theorem requests_ofPicker (o : Options) (t : TypeSnapshot) (picker : Picker) :
    (ofPicker o t).requests picker =
      if t.offersChoice then [.pick (picker t t.viableMembers).raises] else [] := by
  unfold ofPicker TypeSnapshot.offersChoice
  rw [Procedure.requests_bind, Procedure.requests_ofExcept, Procedure.quiet_ofExcept]
  cases htarget : t.checkTarget with
  | error r => rfl
  | ok _ =>
    change Procedure.requests (if t.viableMembers.isEmpty then _ else _) picker = _
    cases hviable : t.viableMembers.isEmpty with
    | true => exact requests_ofNothing t picker
    | false =>
      change Request.pick (picker t t.viableMembers).raises :: _ = _
      congr 1
      cases (picker t t.viableMembers).choice with
      | none => rfl
      | some chosen =>
        cases chosen with
        | nil => rfl
        | cons m rest => exact requests_ofChoice o t (m :: rest) picker

/-- Whether the picker raises the signal does not matter while nobody looks at it. -/
theorem pickedResolution_eq_quiet (o : Options) (t : TypeSnapshot) (picker : Picker) :
    pickedResolution o t picker = (ofPicker o t).quiet picker := by
  rw [pickedResolution, Procedure.run_result, requests_ofPicker, if_neg]
  split <;> exact Bool.false_ne_true

theorem pickedResolution_invalid {o : Options} {t : TypeSnapshot} {r : Refusal}
    (h : t.checkTarget = .error r) (picker : Picker) :
    pickedResolution o t picker = .error r := by
  rw [pickedResolution_eq_quiet, ofPicker, Procedure.quiet_bind, Procedure.quiet_ofExcept, h]
  rfl

theorem pickedResolution_target {o : Options} {t : TypeSnapshot} (h : t.checkTarget = .ok ())
    (picker : Picker) :
    pickedResolution o t picker =
      if t.viableMembers.isEmpty then (ofNothing t).quiet picker
      else
        match (picker t t.viableMembers).choice with
        | none | some [] => .error (.nothingToGenerate t.name .selectionDismissed)
        | some chosen => (ofChoice o t chosen).quiet picker := by
  rw [pickedResolution_eq_quiet, ofPicker, Procedure.quiet_bind, Procedure.quiet_ofExcept, h]
  change Procedure.quiet (if t.viableMembers.isEmpty then _ else _) _ = _
  split
  · rfl
  · change Procedure.quiet (match (picker t t.viableMembers).choice with
      | none | some [] => _
      | some chosen => _) picker = _
    cases (picker t t.viableMembers).choice with
    | none => rfl
    | some chosen =>
      cases chosen <;> rfl

end Picked

end Selection

end ConstructorPlanning
