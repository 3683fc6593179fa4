import ConstructorPlanning.Proofs.PlanningOutcome
/-!
Cancelled calls. A planning call is cancelled as a whole or comes to what it comes to undisturbed,
and which of the two it is follows from the polls that it makes: one when it begins, one when the
selection is made, and one before each comparison with a constructor.
-/
namespace ConstructorPlanning

namespace Signal

/-- Whether the signal is raised by the time it has been polled that often. The signal `after n` is
raised from poll `n + 1` on. -/
def raisedWithin : Signal → (polls : Nat) → Bool
  | never, _ => false
  | after n, polls => n + 1 ≤ polls

/-- The signal that two people raise, whoever of them is first. -/
def earlier : Signal → Signal → Signal
  | never, other => other
  | signal, never => signal
  | after m, after n => after (min m n)

theorem stops_replicate (signal : Signal) (polls : Nat) :
    signal.stops (List.replicate polls .poll) = signal.raisedWithin polls := by
  induction polls generalizing signal with
  | zero => cases signal <;> simp [stops, raisedWithin]
  | succ polls ih =>
    rw [List.replicate_succ, stops]
    cases signal with
    | never => exact ih never
    | after n =>
      cases n with
      | zero => simp [polled?, raisedWithin]
      | succ n =>
        change (after n).stops _ = _
        rw [ih]
        simp [raisedWithin]

/-- A picker that is asked after the first poll and raises the signal is noticed at the second, if
the signal is not raised before. -/
theorem stops_pick (signal : Signal) (raises : Bool) (polls : Nat) :
    signal.stops (.poll :: .pick raises :: List.replicate polls .poll) =
      (if raises then signal.earlier (after 1) else signal).raisedWithin (polls + 1) := by
  cases raises with
  | false =>
    rw [if_neg Bool.false_ne_true, ← stops_replicate, List.replicate_succ, stops, stops]
    cases signal.polled? <;> rfl
  | true =>
    have hraised : raised.stops (List.replicate polls .poll) =
        (after 1).raisedWithin (polls + 1) := by
      rw [stops_replicate]
      simp [raised, raisedWithin]
    cases signal with
    | never => exact hraised
    | after n =>
      cases n with
      -- the first poll already fails, and the picker is not asked
      | zero => simp [stops, polled?, earlier, raisedWithin]
      | succ n =>
        have hsecond : (after (n + 1)).earlier (after 1) = after 1 := by simp [earlier]
        rw [if_pos rfl, hsecond]
        exact hraised

end Signal

namespace Selection

/-- With how many constructors of an ordered list the selection is compared: all up to and including
the first that assigns exactly the selected members. -/
def comparisons (s : Selection) (ordered : List Constructor) : Nat :=
  match ordered.findIdx? fun c => c.assigned = s.nameSet with
  | some i => i + 1
  | none => ordered.length

theorem comparisons_cons (s : Selection) (c : Constructor) (rest : List Constructor) :
    s.comparisons (c :: rest) =
      if c.assigned = s.nameSet then 1 else s.comparisons rest + 1 := by
  unfold comparisons
  rw [List.findIdx?_cons]
  by_cases hsame : c.assigned = s.nameSet
  · simp [hsame]
  · simp only [hsame, decide_false, Bool.false_eq_true, if_false]
    cases rest.findIdx? fun c => c.assigned = s.nameSet <;> rfl

theorem requests_matchFrom (s : Selection) (best : Option Constructor) (ordered : List Constructor)
    (picker : Picker) :
    (s.matchFrom best ordered).requests picker =
      List.replicate (s.comparisons ordered) .poll := by
  induction ordered generalizing best with
  | nil => cases best <;> rfl
  | cons c rest ih =>
    rw [comparisons_cons, matchFrom, Procedure.requests]
    by_cases hcovers : s.covers c
    · simp only [hcovers, Bool.not_true, Bool.false_eq_true, if_false, length_eq_size_iff hcovers]
      split
      · rfl
      · rw [ih, List.replicate_succ]
    -- what does not cover the selection is passed over, but it was polled for
    · have hne : c.assigned ≠ s.nameSet := fun hsame => hcovers ((covers_iff s c).2 hsame.subset)
      simp only [hcovers, Bool.not_false, if_true, hne, if_false]
      rw [ih, List.replicate_succ]

theorem requests_synthesize (o : Options) (s : Selection) (found : Match) (picker : Picker) :
    (s.synthesize o found).requests picker = [] := by
  unfold synthesize
  split
  · rfl
  · apply Procedure.requests_bind_nil
    · exact Procedure.requests_bind_nil (Procedure.requests_notes _ _) fun _ => rfl
    · intro parameters
      cases found with
      | exact c => rfl
      | nothing => rfl
      | delegatable delegate residual =>
        change Procedure.requests (if o.offerDelegation then _ else _) picker = []
        split
        · apply Procedure.requests_bind_nil
          · apply Procedure.requests_bind_nil
            · exact Procedure.requests_bind_nil (Procedure.requests_notes _ _) fun _ => rfl
            · exact fun _ => rfl
          · exact fun _ => rfl
        · rfl

end Selection

/-- How often a call looks at the signal after it has resolved its selection or failed to: once if
there is a selection, and then, unless that is empty, before each comparison. -/
def pollsAfter (t : TypeSnapshot) : Except Refusal Selection → Nat
  | .error _ => 0
  | .ok s => (if s.isEmpty then 0 else s.comparisons (Constructor.inOrder t.constructors)) + 1

theorem requests_planSelection (o : Options) (t : TypeSnapshot) (s : Selection) (picker : Picker) :
    (planSelection o t s).requests picker = List.replicate (pollsAfter t (.ok s)) .poll := by
  rw [planSelection, Procedure.requests, pollsAfter, List.replicate_succ]
  -- one poll each; an empty selection is matched with nothing
  congr 1
  split
  · exact s.requests_synthesize o _ picker
  · obtain ⟨found, hfound, _⟩ := s.quiet_matchConstructors t.constructors picker
    rw [Procedure.requests_bind_ok hfound, Selection.matchConstructors,
      Selection.requests_matchFrom]
    split
    · exact List.append_nil _
    · rw [Procedure.requests_bind_nil (s.requests_synthesize o found picker) fun _ => rfl,
        List.append_nil]

/-- The requests of a call, from those that it makes to resolve its selection. -/
theorem requests_planning (o : Options) (t : TypeSnapshot) (resolve : Procedure Selection)
    (picker : Picker) :
    (resolve >>= planSelection o t).requests picker =
      resolve.requests picker ++
        List.replicate (pollsAfter t (resolve.quiet picker)) .poll := by
  rw [Procedure.requests_bind]
  cases resolve.quiet picker with
  | error r => rfl
  | ok s => exact congrArg _ (requests_planSelection o t s picker)

/-- How often a call for an explicit list looks at the signal: when it begins, and then as its
selection demands. -/
def explicitPolls (o : Options) (t : TypeSnapshot) (explicit : List Member) : Nat :=
  pollsAfter t (Selection.resolution o t explicit) + 1

theorem requests_planExplicit (o : Options) (t : TypeSnapshot) (explicit : List Member) :
    (planExplicit o t explicit).requests .all =
      List.replicate (explicitPolls o t explicit) .poll := by
  rw [planExplicit, Procedure.requests, explicitPolls, List.replicate_succ, requests_planning,
    Selection.requests_ofExplicit, Selection.resolution_eq_quiet]
  rfl

def pickedPolls (o : Options) (t : TypeSnapshot) (picker : Picker) : Nat :=
  pollsAfter t (Selection.pickedResolution o t picker) + 1

/-- The picker is asked, if at all, between the first poll and the others. -/
theorem requests_planPicked (o : Options) (t : TypeSnapshot) (picker : Picker) :
    (planPicked o t).requests picker =
      .poll :: (if t.offersChoice then [.pick (picker t t.viableMembers).raises] else []) ++
        List.replicate (pollsAfter t (Selection.pickedResolution o t picker)) .poll := by
  rw [planPicked, Procedure.requests, requests_planning, Selection.requests_ofPicker,
    Selection.pickedResolution_eq_quiet]
  rfl

theorem count_poll_planPicked (o : Options) (t : TypeSnapshot) (picker : Picker) :
    ((planPicked o t).requests picker).count .poll = pickedPolls o t picker := by
  rw [requests_planPicked, pickedPolls]
  split <;> simp

section Refusals

/-- What a call for a type is refused for, if it is not for being cancelled. -/
inductive NoOffer (t : TypeSnapshot) : Refusal → Prop where
  | invalidTarget (fault : TargetFault) : NoOffer t (.invalidTarget t.name fault)
  | nothingToGenerate (cause : IdleCause) : NoOffer t (.nothingToGenerate t.name cause)
  | invalidSelection (name : String) (issue : SelectionIssue) :
    NoOffer t (.invalidSelection name issue)

variable (o : Options) (t : TypeSnapshot) (picker : Picker)

theorem Procedure.refused_bind {α β : Type} {p : Procedure α} {f : α → Procedure β}
    {cause : Refusal → Prop} (hp : ∀ r, p.quiet picker = .error r → cause r)
    (hf : ∀ a r, (f a).quiet picker = .error r → cause r) :
    ∀ r, (p >>= f).quiet picker = .error r → cause r := by
  rw [Procedure.quiet_bind]
  cases hquiet : p.quiet picker with
  | ok a => exact hf a
  | error r =>
    intro r' hr'
    obtain rfl := Except.error.inj hr'
    exact hp r hquiet

theorem TypeSnapshot.refused_checkTarget : ∀ r, t.checkTarget = .error r → NoOffer t r := by
  unfold checkTarget
  split
  · rintro _ ⟨⟩
    exact .invalidTarget _
  · split
    · rintro _ ⟨⟩
      exact .invalidTarget _
    · nofun

theorem Selection.refused_ofNothing :
    ∀ r, (ofNothing t).quiet picker = .error r → NoOffer t r := by
  rw [quiet_ofNothing]
  split
  · rintro _ ⟨⟩
    exact .nothingToGenerate _
  · nofun

theorem Selection.refused_ofChoice (chosen : List Member) :
    ∀ r, (ofChoice o t chosen).quiet picker = .error r → NoOffer t r := by
  rw [quiet_ofChoice]
  split
  · rintro _ ⟨⟩
    exact .invalidSelection _ _
  · nofun

theorem refused_planSelection (s : Selection) :
    ∀ r, (planSelection o t s).quiet picker = .error r → NoOffer t r := by
  intro r hr
  have hplanned := quiet_planSelection o t s picker
  rw [hr] at hplanned
  cases hplanned
  exact .nothingToGenerate _

theorem refused_planExplicit (explicit : List Member) :
    ∀ r, (planExplicit o t explicit).quiet picker = .error r → NoOffer t r := by
  refine Procedure.refused_bind picker ?_ (refused_planSelection o t picker)
  apply Procedure.refused_bind
  · rw [Procedure.quiet_ofExcept]
    exact t.refused_checkTarget
  · intro _
    split
    · rw [Procedure.quiet_bind_ok (Selection.quiet_collectViable t picker)]
      split
      · exact Selection.refused_ofNothing t picker
      · nofun
    · exact Selection.refused_ofChoice o t picker explicit

theorem refused_planPicked :
    ∀ r, (planPicked o t).quiet picker = .error r → NoOffer t r := by
  refine Procedure.refused_bind picker ?_ (refused_planSelection o t picker)
  apply Procedure.refused_bind
  · rw [Procedure.quiet_ofExcept]
    exact t.refused_checkTarget
  · intro _
    rw [Procedure.quiet_bind_ok (Selection.quiet_collectViable t picker)]
    split
    · exact Selection.refused_ofNothing t picker
    · rw [Procedure.quiet]
      have hdismissed : ∀ r, Except.error (.nothingToGenerate t.name .selectionDismissed) =
          (.error r : Except Refusal Selection) → NoOffer t r := by
        rintro _ ⟨⟩
        exact .nothingToGenerate _
      cases (picker t t.viableMembers).choice with
      | none => exact hdismissed
      | some chosen =>
        cases chosen with
        | nil => exact hdismissed
        | cons m rest => exact Selection.refused_ofChoice o t picker (m :: rest)

theorem quiet_planExplicit_ne_cancelled (explicit : List Member) :
    (planExplicit o t explicit).quiet picker ≠ .error .cancelled :=
  fun h => nomatch refused_planExplicit o t picker explicit _ h

theorem quiet_planPicked_ne_cancelled : (planPicked o t).quiet picker ≠ .error .cancelled :=
  fun h => nomatch refused_planPicked o t picker _ h

end Refusals

/-- What comes of a call under a signal, beside what comes of it undisturbed, if undisturbed it
polls that often. -/
structure AllOrNothing (signal : Signal) (polls : Nat) (call undisturbed : Run (List Plan)) :
    Prop where
  cancelled_or_same : call.result = .error .cancelled ∨ call.result = undisturbed.result
  cancelled_iff : call.result = .error .cancelled ↔ signal.raisedWithin polls

/-- What a folded call comes to. -/
def offered : Except Refusal (List Plan) → Except Refusal (List Plan)
  | .ok plans => .ok plans
  | .error .cancelled => .error .cancelled
  | .error _ => .ok []

theorem Run.folded_result (r : Run (List Plan)) : r.folded.result = offered r.result := by
  unfold folded
  split
  · rename_i plans hresult
    rw [hresult, offered]
  · rename_i hresult
    rw [hresult, offered]
  · rename_i reason hne hresult
    rw [hresult]
    cases reason with
    | cancelled => exact absurd rfl hne
    | _ => rfl

theorem Refusal.isCancellation_iff {reason : Refusal} :
    reason.isCancellation ↔ reason = .cancelled := by
  cases reason <;> simp [isCancellation]

/-- Only a cancellation is left of the refusals once a call is folded. -/
theorem offered_eq_error_iff {answer : Except Refusal (List Plan)} {reason : Refusal} :
    offered answer = .error reason ↔ answer = .error reason ∧ reason.isCancellation := by
  cases answer with
  | ok plans => simp [offered]
  | error cause =>
    cases cause with
    | cancelled =>
      refine ⟨?_, And.left⟩
      rintro ⟨⟩
      exact ⟨rfl, rfl⟩
    | _ =>
      refine ⟨?_, ?_⟩
      · rintro ⟨⟩
      · rintro ⟨⟨⟩, h⟩
        cases h

theorem offered_eq_cancelled_iff (answer : Except Refusal (List Plan)) :
    offered answer = .error .cancelled ↔ answer = .error .cancelled := by
  rw [offered_eq_error_iff, Refusal.isCancellation_iff, and_iff_left rfl]

/-- Folding a call keeps its cancellation. -/
theorem AllOrNothing.folded {signal : Signal} {polls : Nat} {call undisturbed : Run (List Plan)}
    (h : AllOrNothing signal polls call undisturbed) :
    AllOrNothing signal polls call.folded undisturbed.folded where
  cancelled_or_same := by
    rw [Run.folded_result, Run.folded_result]
    exact h.cancelled_or_same.imp (offered_eq_cancelled_iff _).2 (congrArg offered)
  cancelled_iff := by
    rw [Run.folded_result, offered_eq_cancelled_iff]
    exact h.cancelled_iff

/-- A procedure that never refuses as cancelled by itself is cancelled as its requests say. -/
theorem allOrNothing_run {p : Procedure (List Plan)} {signal raised : Signal} {picker : Picker}
    {polls : Nat} {undisturbed : Run (List Plan)}
    (hstops : signal.stops (p.requests picker) = raised.raisedWithin polls)
    (hquiet : undisturbed.result = p.quiet picker)
    (hne : p.quiet picker ≠ .error .cancelled) (call : Call) :
    AllOrNothing raised polls ((p.run signal picker).within call) undisturbed := by
  have hresult : ((p.run signal picker).within call).result =
      if raised.raisedWithin polls then .error .cancelled else p.quiet picker := by
    rw [← hstops]
    exact p.run_result signal picker
  cases hraised : raised.raisedWithin polls with
  | true =>
    rw [hraised, if_pos rfl] at hresult
    exact ⟨.inl hresult, by simp [hresult, hraised]⟩
  | false =>
    rw [hraised, if_neg Bool.false_ne_true] at hresult
    refine ⟨.inr (hresult.trans hquiet.symm), ?_⟩
    rw [hresult, hraised]
    exact iff_of_false hne Bool.false_ne_true

/-- The picker that gives the same answers and leaves the signal alone. -/
def Picker.discreet (picker : Picker) : Picker := fun t candidates =>
  { picker t candidates with raises := false }

theorem Procedure.quiet_discreet {α : Type} (p : Procedure α) (picker : Picker) :
    p.quiet picker.discreet = p.quiet picker := by
  induction p with
  | done a => rfl
  | refuse r => rfl
  | note n next ih => exact ih
  | poll next ih => exact ih
  | pick t cs next ih => exact ih _

/-- The signal of a call with a picker. A picker that raises it is asked after the first poll, so
that the signal is raised from the second poll on if it is not raised before. -/
def Signal.withPicker (signal : Signal) (t : TypeSnapshot) (picker : Picker) : Signal :=
  if t.offersChoice && (picker t t.viableMembers).raises then signal.earlier (.after 1)
  else signal

theorem stops_planPicked (o : Options) (t : TypeSnapshot) (picker : Picker) (signal : Signal) :
    signal.stops ((planPicked o t).requests picker) =
      (signal.withPicker t picker).raisedWithin (pickedPolls o t picker) := by
  rw [requests_planPicked, Signal.withPicker, pickedPolls]
  generalize pollsAfter t (Selection.pickedResolution o t picker) = polls
  cases t.offersChoice with
  | true => exact signal.stops_pick _ polls
  | false => exact signal.stops_replicate (polls + 1)

theorem allOrNothing_tryPlan (o : Options) (t : TypeSnapshot) (signal : Signal)
    (explicit : List Member) :
    AllOrNothing signal (explicitPolls o t explicit) (tryPlan o t explicit signal)
      (tryPlan o t explicit .never) := by
  have hstops := signal.stops_replicate (explicitPolls o t explicit)
  rw [← requests_planExplicit] at hstops
  exact allOrNothing_run hstops (tryPlan_never_result o t explicit)
    (quiet_planExplicit_ne_cancelled o t .all explicit) (.plan t.name explicit.length)

theorem allOrNothing_tryPlanWithPicker (o : Options) (t : TypeSnapshot) (signal : Signal)
    (picker : Picker) :
    AllOrNothing (signal.withPicker t picker) (pickedPolls o t picker)
      (tryPlanWithPicker o t picker signal) (tryPlanWithPicker o t picker.discreet .never) := by
  have hquiet : (tryPlanWithPicker o t picker.discreet .never).result =
      (planPicked o t).quiet picker := by
    rw [← Procedure.quiet_discreet]
    exact Procedure.run_never_result _ _ fun _ _ => rfl
  exact allOrNothing_run (stops_planPicked o t picker signal) hquiet
    (quiet_planPicked_ne_cancelled o t picker) (.planWithPicker t.name)

section Lookup

variable {catalog : TypeCatalog} {name : String} (o : Options) (picker : Picker) (signal : Signal)

/-- To look the type up first makes no difference to the cancellation of a call. -/
theorem allOrNothing_planType {t : TypeSnapshot} (h : catalog.get? name = some t) :
    AllOrNothing (signal.withPicker t picker) (pickedPolls o t picker)
      (planType o catalog name picker signal) (planType o catalog name picker.discreet .never) := by
  simp only [planType, tryPlanType, h]
  exact (allOrNothing_tryPlanWithPicker o t signal picker).folded

/-- A name that no type has is refused before the signal is looked at, and so nothing is offered. -/
theorem planType_of_unknown (h : catalog.get? name = none) :
    (planType o catalog name picker signal).result = .ok [] := by
  simp only [planType, tryPlanType, h, Run.folded_result]
  rfl

end Lookup

/-- Under every signal a planning call either is cancelled or comes to what it comes to undisturbed.
It is cancelled exactly if the signal is raised within the polls that it makes undisturbed. With a
picker, who may raise the signal as well, it is the same; and so it is for the folded calls. -/
theorem cancellation_all_or_nothing (o : Options) (t : TypeSnapshot) (signal : Signal) :
    (∀ explicit : List Member,
      ((planExplicit o t explicit).requests .all).count .poll = explicitPolls o t explicit ∧
        AllOrNothing signal (explicitPolls o t explicit) (tryPlan o t explicit signal)
          (tryPlan o t explicit .never) ∧
        AllOrNothing signal (explicitPolls o t explicit) (plan o t explicit signal)
          (plan o t explicit .never)) ∧
    ∀ picker : Picker,
      ((planPicked o t).requests picker).count .poll = pickedPolls o t picker ∧
        AllOrNothing (signal.withPicker t picker) (pickedPolls o t picker)
          (tryPlanWithPicker o t picker signal) (tryPlanWithPicker o t picker.discreet .never) ∧
        AllOrNothing (signal.withPicker t picker) (pickedPolls o t picker)
          (planWithPicker o t picker signal) (planWithPicker o t picker.discreet .never) := by
  constructor
  · intro explicit
    have hcall := allOrNothing_tryPlan o t signal explicit
    refine ⟨?_, hcall, hcall.folded⟩
    rw [requests_planExplicit, List.count_replicate_self]
  · intro picker
    have hcall := allOrNothing_tryPlanWithPicker o t signal picker
    exact ⟨count_poll_planPicked o t picker, hcall, hcall.folded⟩

/-- An invoice has three constructors and none of them assigns all of its members, so that a call
for all of them polls five times. -/
example : (tryPlan {} invoice [] (.after 4)).result = .error .cancelled ∧
    (tryPlan {} invoice [] (.after 5)).result = (tryPlan {} invoice [] .never).result := by
  cbv

end ConstructorPlanning
