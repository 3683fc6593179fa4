import ConstructorPlanning.Proofs.Cancellation
import ConstructorPlanning.Proofs.RunLog
/-!
What a planning call tells in its log. It collects members and compares constructors, and the notes
it closes with are settled with the outcome: a cancellation is observed last of all, an exact match
is noted where it is refused, and of names, delegates and open parameters only those are noted that
the plans returned have.
-/
namespace ConstructorPlanning

/-- The name that a member would have as a parameter alone is also that of an earlier one. -/
def SharesBase (earlier : List String) (member : String) : Prop :=
  ParameterName.ofMember member ∈ earlier.map ParameterName.ofMember

instance (earlier : List String) (member : String) : Decidable (SharesBase earlier member) :=
  inferInstanceAs (Decidable (_ ∈ _))

/-- A note for each of the parameters whose member shares its base with an earlier one, with the
name that it has got; `earlier` holds the members before. -/
def renamings (earlier : List String) : List GeneratedParameter → List Note
  | [] => []
  | p :: rest =>
    if SharesBase earlier p.member then
      .disambiguated (ParameterName.ofMember p.member) p.name ::
        renamings (earlier ++ [p.member]) rest
    else
      renamings (earlier ++ [p.member]) rest

def Plan.openArguments : Plan → List DelegateArgument
  | .delegateThenAssign _ _ arguments _ => arguments.filter (·.parameter = none)
  | .fieldAssign _ | .noParam => []

def DelegateArgument.openNote (a : DelegateArgument) : Note :=
  .leftUnbound a.position a.delegateParameter

def openArguments : Except Refusal (List Plan) → List DelegateArgument
  | .ok plans => plans.flatMap Plan.openArguments
  | .error _ => []

/-- What is noted of a comparison that comes to an answer. -/
def Match.notes : Match → List Note
  | exact c => [.exactMatch c.declarationOrder]
  | delegatable c residual =>
    [.delegationTarget c.declarationOrder c.assignedSet.length residual.length]
  | nothing => []

namespace Selection

section Events

variable (s : Selection) (picker : Picker)

theorem events_matchFrom {best : Option Constructor} {ordered : List Constructor} {found : Match}
    (h : (s.matchFrom best ordered).quiet picker = .ok found) :
    ClosesWith ((s.matchFrom best ordered).events picker) found.notes := by
  induction ordered generalizing best with
  | nil =>
    cases best with
    | none =>
      obtain rfl := Except.ok.inj h
      exact .of_notes []
    | some c =>
      obtain rfl := Except.ok.inj h
      exact .of_notes [_]
  | cons c rest ih =>
    simp only [matchFrom, Procedure.quiet, Procedure.events] at h ⊢
    apply ClosesWith.poll
    by_cases hcovers : s.covers c
    · simp only [hcovers, Bool.not_true, Bool.false_eq_true, if_false] at h ⊢
      by_cases hsame : c.assignedSet.length = s.size
      · rw [if_pos hsame] at h ⊢
        obtain rfl := Except.ok.inj h
        exact .of_notes [_]
      · rw [if_neg hsame] at h ⊢
        exact ih h
    · simp only [hcovers, Bool.not_false, if_true] at h ⊢
      exact ih h

theorem events_generateParameters : s.generateParameters.events picker =
    (ParameterName.namingNotes (ParameterName.ofMembers s.names)).map .note := by
  rw [generateParameters, Procedure.events_bind_ok (Procedure.quiet_notes _ _),
    Procedure.events_notes]
  exact List.append_nil _

theorem events_delegating (delegate : Constructor) (residual : List Member) :
    (Plan.delegating delegate s.parameters residual).events picker =
      (Delegation.unboundNotes (Delegation.arguments delegate s.parameters)).map .note := by
  rw [Plan.delegating, Delegation.bindArguments, bind_assoc,
    Procedure.events_bind_ok (Procedure.quiet_notes _ _), Procedure.events_notes]
  exact List.append_nil _

end Events

/-- A selection is resolved with nothing noted but that members were collected. -/
theorem preparing_ofExplicit (o : Options) (t : TypeSnapshot) (explicit : List Member)
    (picker : Picker) : ∀ e ∈ (ofExplicit o t explicit).events picker, e.IsPreparing := by
  have hcollected : ∀ e ∈ (collectViable t).events picker, e.IsPreparing := by
    intro e he
    rw [List.mem_singleton.1 he]
    rfl
  have hnothing {α : Type} {p : Procedure α} (h : p.events picker = []) :
      ∀ e ∈ p.events picker, e.IsPreparing := by
    simp [h]
  apply Procedure.preparing_bind (hnothing (Procedure.events_ofExcept _ _))
  intro _
  split
  · apply Procedure.preparing_bind hcollected
    intro viable
    apply hnothing
    unfold ofNothing
    split
    · split <;> rfl
    · rfl
  · unfold ofChoice
    split
    · apply Procedure.preparing_bind
      · apply Procedure.preparing_bind hcollected
        intro viable
        apply hnothing
        split <;> rfl
      · exact fun _ => hnothing rfl
    · exact hnothing rfl

/-- An exact match is no reason to refuse a list, and neither is a cancellation. -/
theorem refused_resolution {o : Options} {t : TypeSnapshot} {explicit : List Member} {r : Refusal}
    (h : resolution o t explicit = .error r) :
    r ≠ .cancelled ∧ r ≠ .nothingToGenerate t.name .sameConstructorExists := by
  cases htarget : t.checkTarget with
  | error fault =>
    rw [resolution_invalid htarget] at h
    obtain rfl := Except.error.inj h
    unfold TypeSnapshot.checkTarget at htarget
    split at htarget
    · cases htarget
      simp
    · split at htarget
      · cases htarget
        simp
      · cases htarget
  | ok _ =>
    rw [resolution_target htarget] at h
    split at h
    · split at h
      · rw [quiet_ofNothing] at h
        split at h
        · cases h
          simp
        · cases h
      · cases h
    · rw [quiet_ofChoice] at h
      split at h
      · cases h
        simp
      · cases h

/-- Noting the names that differ from their bases comes to noting the members that share theirs. -/
theorem namingNotes_of_split {s : Selection} {front rest : List GeneratedParameter}
    (h : s.parameters = front ++ rest) :
    ParameterName.namingNotes (rest.map fun p => ⟨ParameterName.ofMember p.member, p.name⟩) =
      renamings (front.map (·.member)) rest := by
  -- what is named depends on the front alone, which takes over one parameter after the other
  induction rest generalizing front with
  | nil => rfl
  | cons p rest ih =>
    have hshares : SharesBase (front.map (·.member)) p.member ↔
        p.name ≠ ParameterName.ofMember p.member := by
      rw [SharesBase, List.map_map, Ne, bare_iff_of_split h]
      simp
    rw [List.append_cons] at h
    have hrest := ih h
    rw [List.map_append, List.map_singleton] at hrest
    rw [renamings, ← hrest, List.map_cons, ParameterName.namingNotes, List.filter_cons]
    by_cases hbare : p.name = ParameterName.ofMember p.member
    · rw [if_neg (by simp [hbare]), if_neg (mt hshares.1 (not_not_intro hbare))]
      rfl
    · rw [if_pos (by simp [hbare]), if_pos (hshares.2 hbare)]
      rfl

theorem namingNotes_eq (s : Selection) :
    ParameterName.namingNotes (ParameterName.ofMembers s.names) = renamings [] s.parameters := by
  rw [namings_eq]
  exact namingNotes_of_split (List.nil_append _).symm

/-- A comparison after which there are plans: no constructor can be delegated to, or one that
assigns selected members only. -/
inductive LeavesPlans (s : Selection) : Match → Prop where
  | nothing : LeavesPlans s .nothing
  | delegatable {c : Constructor} (covers : s.covers c) :
    LeavesPlans s (.delegatable c (s.residual c))

theorem LeavesPlans.isExact {s : Selection} {found : Match} (h : s.LeavesPlans found) :
    found.isExact = false := by
  cases h <;> rfl

theorem Compares.exact_or_leavesPlans {s : Selection} {cs : List Constructor} {found : Match}
    (h : s.Compares cs found) : (∃ c, found = .exact c) ∨ s.LeavesPlans found := by
  cases h with
  | exact split same first => exact .inl ⟨_, rfl⟩
  | delegatable none_same leads =>
    obtain ⟨_, _, _, htarget, _⟩ := leads
    exact .inr (.delegatable htarget.covers)
  | nothing none_same no_target => exact .inr .nothing

/-- Plans are put together with notes of the names told apart and of the arguments left open. -/
theorem LeavesPlans.synthesized {s : Selection} {found : Match} (h : s.LeavesPlans found)
    (hs : ¬ s.isEmpty) (o : Options) (picker : Picker) :
    ∃ more, (s.synthesize o found).quiet picker = .ok (.fieldAssign s.parameters :: more) ∧
      (∀ plan ∈ more, plan.parameters = s.parameters) ∧
      (s.synthesize o found).events picker = (renamings [] s.parameters ++
        (more.flatMap Plan.openArguments).map DelegateArgument.openNote).map .note := by
  have hgenerated := s.quiet_generateParameters picker
  have hrenamed := s.events_generateParameters picker
  rw [namingNotes_eq] at hrenamed
  cases h with
  | nothing =>
    refine ⟨[], s.quiet_synthesize_nothing o picker hs, by simp, ?_⟩
    rw [synthesize, if_neg hs, Procedure.events_bind_ok hgenerated, hrenamed, List.map_append]
    rfl
  | delegatable covers =>
    rename_i c
    refine ⟨_, s.quiet_synthesize_delegatable o picker c hs, ?_, ?_⟩
    · intro plan hplan
      split at hplan
      · rw [List.mem_singleton.1 hplan]
        rfl
      · cases hplan
    · rw [synthesize, if_neg hs, Procedure.events_bind_ok hgenerated, hrenamed, List.map_append]
      congr 1
      cases o.offerDelegation with
      | false => rfl
      | true =>
        change Procedure.events (Plan.delegating c s.parameters (s.residual c) >>= _) picker = _
        rw [Procedure.events_bind_ok (s.quiet_delegating picker c), events_delegating]
        have hopen : Delegation.unboundNotes (Delegation.arguments c s.parameters) =
            (s.delegation c).openArguments.map DelegateArgument.openNote := by
          simp only [Delegation.unboundNotes, delegation, Plan.openArguments,
            ← Option.isNone_iff_eq_none, Bool.decide_eq_true]
          rfl
        rw [hopen, if_pos rfl, List.flatMap_singleton]
        exact List.append_nil _

end Selection

/-- How a call for an explicit list ends, and the notes it closes with. -/
inductive Concluded (o : Options) (t : TypeSnapshot) (explicit : List Member) :
    Except Refusal (List Plan) → List Note → Prop where
  | cancelled : Concluded o t explicit (.error .cancelled) [.cancellationObserved]
  | unresolved {r : Refusal} (refused : Selection.resolution o t explicit = .error r) :
    Concluded o t explicit (.error r) []
  | parameterless {s : Selection} (resolved : Selection.resolution o t explicit = .ok s)
      (empty : s.isEmpty) : Concluded o t explicit (.ok [.noParam]) [.nothingViable]
  | present (c : Constructor) : Concluded o t explicit
      (.error (.nothingToGenerate t.name .sameConstructorExists)) [.exactMatch c.declarationOrder]
  | planned {s : Selection} {found : Match} {more : List Plan}
      (resolved : Selection.resolution o t explicit = .ok s) (some : ¬ s.isEmpty)
      (leaves : s.LeavesPlans found) (laid : ∀ plan ∈ more, plan.parameters = s.parameters) :
    Concluded o t explicit (.ok (.fieldAssign s.parameters :: more))
      (found.notes ++ (renamings [] s.parameters ++
        (more.flatMap Plan.openArguments).map DelegateArgument.openNote) ++
          [.plansReady s.size (more.length + 1)])

/-- Planning for a resolved selection ends as one of these cases, whatever it polls on the way. -/
theorem concluded_planSelection {o : Options} {t : TypeSnapshot} {explicit : List Member}
    {s : Selection} (h : Selection.resolution o t explicit = .ok s) (picker : Picker) :
    ∃ closing, ClosesWith ((planSelection o t s).events picker) closing ∧
      Concluded o t explicit ((planSelection o t s).quiet picker) closing := by
  rw [planSelection, Procedure.quiet, Procedure.events]
  by_cases hs : s.isEmpty
  · refine ⟨[.nothingViable], ?_, ?_⟩
    · rw [if_pos hs, Procedure.events, Selection.synthesize, if_pos hs]
      exact ClosesWith.poll (.of_notes [.nothingViable])
    · rw [if_pos hs, Procedure.quiet, s.quiet_synthesize_empty o picker _ hs]
      exact .parameterless h hs
  · obtain ⟨found, hfound, hcompares⟩ := s.quiet_matchConstructors t.constructors picker
    have hmatched := s.events_matchFrom picker hfound
    rw [if_neg hs, Procedure.quiet_bind_ok hfound, Procedure.events_bind_ok hfound]
    rcases hcompares.exact_or_leavesPlans with ⟨c, rfl⟩ | leaves
    · refine ⟨[.exactMatch c.declarationOrder], ?_, .present c⟩
      exact ClosesWith.poll (hmatched.append_notes [])
    · obtain ⟨more, hquiet, laid, hevents⟩ := leaves.synthesized hs o picker
      rw [leaves.isExact, if_neg Bool.false_ne_true, Procedure.quiet_bind_ok hquiet,
        Procedure.events_bind_ok hquiet, hevents]
      refine ⟨_, ?_, .planned h hs leaves laid⟩
      have hclosing := hmatched.append_notes (renamings [] s.parameters ++
        (more.flatMap Plan.openArguments).map DelegateArgument.openNote ++
          [.plansReady s.size (more.length + 1)])
      rw [List.map_append] at hclosing
      rw [List.append_assoc]
      exact hclosing.poll

theorem concluded_planExplicit (o : Options) (t : TypeSnapshot) (explicit : List Member) :
    ∃ closing, ClosesWith ((planExplicit o t explicit).events .all) closing ∧
      Concluded o t explicit ((planExplicit o t explicit).quiet .all) closing := by
  have hprepares := Selection.preparing_ofExplicit o t explicit .all
  rw [planExplicit, Procedure.events, Procedure.quiet]
  cases hresolved : (Selection.ofExplicit o t explicit).quiet .all with
  | error r =>
    rw [Procedure.events_bind_error hresolved, Procedure.quiet_bind_error hresolved]
    rw [← Selection.resolution_eq_quiet] at hresolved
    exact ⟨[], ClosesWith.poll (.of_preparing hprepares), .unresolved hresolved⟩
  | ok s =>
    rw [Procedure.events_bind_ok hresolved, Procedure.quiet_bind_ok hresolved]
    rw [← Selection.resolution_eq_quiet] at hresolved
    obtain ⟨closing, hcloses, hconcluded⟩ := concluded_planSelection hresolved .all
    exact ⟨closing, (hcloses.prepend hprepares).poll, hconcluded⟩

/-- A call for an explicit list ends as one of the cases, under every signal, and before it closes
it tells of collected members only. -/
theorem tryPlan_concluded (o : Options) (t : TypeSnapshot) (explicit : List Member)
    (signal : Signal) :
    ∃ before closing : List Note, (∀ n ∈ before, n.message = "collected viable members") ∧
      Concluded o t explicit (tryPlan o t explicit signal).result closing ∧
      (tryPlan o t explicit signal).log =
        .entered (.plan t.name explicit.length) ::
          (before ++ closing).map (Record.noted · [.plan t.name explicit.length]) := by
  obtain ⟨closing, hcloses, hconcluded⟩ := concluded_planExplicit o t explicit
  obtain ⟨before, hbefore, hlog⟩ := Procedure.run_closing hcloses signal
  have hresult := (planExplicit o t explicit).run_result signal .all
  unfold tryPlan Run.within
  rw [hlog, List.map_map, hresult]
  split
  · exact ⟨before, [.cancellationObserved], hbefore, .cancelled, rfl⟩
  · exact ⟨before, closing, hbefore, hconcluded, rfl⟩

section NotedAs

variable (message : String)

theorem notedAs_renamings (earlier : List String) (ps : List GeneratedParameter) :
    notedAs message (renamings earlier ps) =
      if "disambiguated parameter name" = message then renamings earlier ps else [] := by
  apply notedAs_of_forall
  induction ps generalizing earlier with
  | nil => simp [renamings]
  | cons p ps ih =>
    rw [renamings]
    split
    · rw [List.forall_mem_cons]
      exact ⟨rfl, ih _⟩
    · exact ih _

theorem notedAs_openNotes (arguments : List DelegateArgument) :
    notedAs message (arguments.map DelegateArgument.openNote) =
      if "delegate parameter left unbound" = message then
        arguments.map DelegateArgument.openNote
      else [] := by
  apply notedAs_of_forall
  intro n hn
  obtain ⟨a, _, rfl⟩ := List.mem_map.1 hn
  rfl

/-- A comparison after which there are plans notes at most the target of a delegation. -/
theorem notedAs_leavesPlans {s : Selection} {found : Match} (h : s.LeavesPlans found) :
    notedAs message found.notes =
      if "selected delegation target" = message then found.notes else [] := by
  apply notedAs_of_forall
  cases h with
  | nothing => simp [Match.notes]
  | delegatable covers => simp [Match.notes, Note.message]

end NotedAs

theorem Concluded.eq_cancellationObserved {o : Options} {t : TypeSnapshot} {explicit : List Member}
    {closing : List Note} (h : Concluded o t explicit (.error .cancelled) closing) :
    closing = [.cancellationObserved] := by
  cases h with
  | cancelled => rfl
  | unresolved refused => exact absurd rfl (Selection.refused_resolution refused).1

/-- What the notes of a call for an explicit list have to tell of its result. -/
structure NotesAgree (o : Options) (t : TypeSnapshot) (explicit : List Member)
    (result : Except Refusal (List Plan)) (noted : String → List Note) : Prop where
  observed : result = .error .cancelled → noted "cancellation observed" = [.cancellationObserved]
  unobserved : result ≠ .error .cancelled → noted "cancellation observed" = []
  matched : noted "existing constructor assigns exactly the selected members" ≠ [] ↔
    result = .error (.nothingToGenerate t.name .sameConstructorExists)
  target_once : (noted "selected delegation target").length ≤ 1
  target_split : ∀ n ∈ noted "selected delegation target", ∃ order delegated residual s,
    n = .delegationTarget order delegated residual ∧
      Selection.resolution o t explicit = .ok s ∧ delegated + residual = s.size
  unbound : noted "delegate parameter left unbound" =
    (openArguments result).map DelegateArgument.openNote
  renamed : ∀ plans, result = .ok plans → ∃ s, Selection.resolution o t explicit = .ok s ∧
    ∀ plan ∈ plans, plan.parameters.map (·.member) = s.names ∧
      noted "disambiguated parameter name" = renamings [] plan.parameters
  renamed_only : noted "disambiguated parameter name" ≠ [] →
    ∃ plans, result = .ok plans ∧ plans ≠ [] ∧ ∀ plan ∈ plans, plan.parameters ≠ []

/-- However a call ends, what it closes with agrees with its result, and the members collected
before do not matter. -/
theorem Concluded.notesAgree {o : Options} {t : TypeSnapshot} {explicit : List Member}
    {answer : Except Refusal (List Plan)} {before closing : List Note}
    (h : Concluded o t explicit answer closing)
    (hbefore : ∀ n ∈ before, n.message = "collected viable members") :
    NotesAgree o t explicit answer (notedAs · (before ++ closing)) := by
  simp only [notedAs_append, notedAs_of_forall _ hbefore]
  cases h with
  | cancelled => constructor <;> simp [notedAs_singleton, Note.message, openArguments]
  | unresolved refused =>
    obtain ⟨hcancelled, hsame⟩ := Selection.refused_resolution refused
    constructor <;> simp [notedAs, openArguments, hcancelled, hsame]
  | present c => constructor <;> simp [notedAs_singleton, Note.message, openArguments]
  | @parameterless s resolved empty =>
    have hnames : s.names = [] := by
      rw [Selection.names, List.isEmpty_iff.1 empty, List.map_nil]
    exact {
      observed := by simp
      unobserved := by simp [notedAs_singleton, Note.message]
      matched := by simp [notedAs_singleton, Note.message]
      target_once := by simp [notedAs_singleton, Note.message]
      target_split := by simp [notedAs_singleton, Note.message]
      unbound := by simp [notedAs_singleton, Note.message, openArguments, Plan.openArguments]
      renamed := by
        rintro _ ⟨⟩
        refine ⟨s, resolved, ?_⟩
        simp [notedAs_singleton, Note.message, hnames, Plan.parameters, renamings]
      renamed_only := by simp [notedAs_singleton, Note.message] }
  | @planned s found more resolved some leaves laid =>
    have hlaid : ∀ plan ∈ Plan.fieldAssign s.parameters :: more,
        plan.parameters = s.parameters := by
      rw [List.forall_mem_cons]
      exact ⟨rfl, laid⟩
    have hsome : s.parameters ≠ [] := by
      rw [← List.length_pos_iff, Selection.length_parameters]
      exact List.length_pos_iff.2 (mt List.isEmpty_iff.2 some)
    simp only [notedAs_append, notedAs_leavesPlans _ leaves, notedAs_renamings,
      notedAs_openNotes, notedAs_singleton, Note.message]
    exact {
      observed := by simp
      unobserved := by simp
      matched := by simp
      target_once := by
        cases leaves <;> simp [Match.notes]
      target_split := by
        cases leaves with
        | nothing => simp [Match.notes]
        | @delegatable c covers =>
          have hsplit := Selection.length_assignedSet_add_residual covers
          simpa [Match.notes] using ⟨_, resolved, hsplit⟩
      unbound := by simp [openArguments, Plan.openArguments]
      renamed := by
        rintro _ ⟨⟩
        refine ⟨s, resolved, ?_⟩
        intro plan hplan
        rw [hlaid plan hplan]
        exact ⟨s.map_member_parameters, by simp⟩
      renamed_only := by
        intro _
        refine ⟨_, rfl, List.cons_ne_nil _ _, ?_⟩
        intro plan hplan
        rw [hlaid plan hplan]
        exact hsome }

/-- The log of a call for an explicit list agrees with its result, whatever the options, the type
and the signal. -/
theorem log_agrees_with_result (o : Options) (t : TypeSnapshot) (explicit : List Member)
    (signal : Signal) :
    NotesAgree o t explicit (tryPlan o t explicit signal).result
        (tryPlan o t explicit signal).noted ∧
      ((tryPlan o t explicit signal).result = .error .cancelled →
        (tryPlan o t explicit signal).log.getLast? =
          some (.noted .cancellationObserved [.plan t.name explicit.length])) := by
  obtain ⟨before, closing, hbefore, hconcluded, hlog⟩ := tryPlan_concluded o t explicit signal
  constructor
  · have hnotes : (tryPlan o t explicit signal).notes = before ++ closing := by
      rw [Run.notes, hlog, List.filterMap_cons_none rfl, List.filterMap_map]
      exact List.filterMap_some
    unfold Run.noted
    rw [hnotes]
    exact hconcluded.notesAgree hbefore
  · intro hcancelled
    rw [hcancelled] at hconcluded
    obtain rfl := hconcluded.eq_cancellationObserved
    rw [hlog, List.map_append, List.map_singleton, ← List.cons_append, List.getLast?_concat]

/-- Two members of an invoice would both be called `id`, and its total and tax are delegated. -/
example : (tryPlan {} invoice [] .never).noted "disambiguated parameter name" =
      [.disambiguated "id" "id2"] ∧
    (tryPlan {} invoice [] .never).noted "selected delegation target" =
      [.delegationTarget 0 2 2] := by
  cbv

end ConstructorPlanning
