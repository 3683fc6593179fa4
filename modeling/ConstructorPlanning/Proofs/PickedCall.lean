import ConstructorPlanning.Proofs.Cancellation
/-!
Calls with a picker beside calls for an explicit list. What a call comes to depends on nothing but
the signal and what its selection is resolved to; so a call with a picker that leaves the signal
alone comes to what the call for the picker's choice comes to.
-/
namespace ConstructorPlanning

namespace Procedure

variable {α : Type} {p : Procedure α} {picker : Picker}

/-- A procedure that asks for no choice comes to the same with every picker. -/
theorem quiet_eq_of_polls (h : ∀ r ∈ p.requests picker, r = .poll) (other : Picker) :
    p.quiet picker = p.quiet other := by
  induction p with
  | done a => rfl
  | refuse r => rfl
  | note n next ih => exact ih h
  | poll next ih => exact ih fun r hr => h r (List.mem_cons_of_mem _ hr)
  | pick t cs next ih => cases h _ List.mem_cons_self

theorem offers_eq_nil_of_polls (h : ∀ r ∈ p.requests picker, r = .poll) (signal : Signal) :
    (p.run signal picker).offers = [] := by
  induction p generalizing signal with
  | done a => rfl
  | refuse r => rfl
  | note n next ih => exact ih h signal
  | poll next ih =>
    rw [run]
    cases signal.polled? with
    | none => rfl
    | some later => exact ih (fun r hr => h r (List.mem_cons_of_mem _ hr)) later
  | pick t cs next ih => cases h _ List.mem_cons_self

end Procedure

variable {o : Options} {t : TypeSnapshot} {picker : Picker} {signal : Signal}

theorem polls_planSelection (s : Selection) :
    ∀ r ∈ (planSelection o t s).requests picker, r = .poll := by
  rw [requests_planSelection]
  intro r hr
  exact (List.mem_replicate.1 hr).2

/-- What a call under a signal comes to, from what it resolves its selection to. -/
def conclusion (o : Options) (t : TypeSnapshot) (signal : Signal)
    (resolved : Except Refusal Selection) : Except Refusal (List Plan) :=
  if signal.raisedWithin (pollsAfter t resolved + 1) then .error .cancelled
  else resolved >>= fun s => (planSelection o t s).quiet .all

theorem tryPlan_conclusion (explicit : List Member) :
    (tryPlan o t explicit signal).result =
      conclusion o t signal (Selection.resolution o t explicit) := by
  have hrun := (planExplicit o t explicit).run_result signal .all
  rw [requests_planExplicit, Signal.stops_replicate] at hrun
  refine hrun.trans ?_
  rw [planExplicit, Procedure.quiet, Procedure.quiet_bind, ← Selection.resolution_eq_quiet]
  rfl

theorem tryPlanWithPicker_conclusion (discreet : (picker t t.viableMembers).raises = false) :
    (tryPlanWithPicker o t picker signal).result =
      conclusion o t signal (Selection.pickedResolution o t picker) := by
  have hsignal : signal.withPicker t picker = signal := by simp [Signal.withPicker, discreet]
  have hrun := (planPicked o t).run_result signal picker
  rw [stops_planPicked, hsignal] at hrun
  refine hrun.trans ?_
  have hquiet : (fun s => (planSelection o t s).quiet picker) =
      fun s => (planSelection o t s).quiet .all :=
    funext fun s => Procedure.quiet_eq_of_polls (polls_planSelection s) .all
  rw [planPicked, Procedure.quiet, Procedure.quiet_bind, ← Selection.pickedResolution_eq_quiet,
    hquiet]
  rfl

theorem conclusion_error {r : Refusal} (h : signal.isRaised = false) :
    conclusion o t signal (.error r) = .error r := by
  have hquiet : signal.raisedWithin 1 = false := by
    cases signal with
    | never => rfl
    | after n =>
      cases n with
      | zero => cases h
      | succ n => simp [Signal.raisedWithin]
  rw [conclusion, pollsAfter, hquiet]
  rfl

namespace Selection

theorem pickedResolution_of_chosen (offered : t.offersChoice) {chosen : List Member}
    (hchoice : (picker t t.viableMembers).choice = some chosen) (hsome : chosen ≠ []) :
    pickedResolution o t picker = resolution o t chosen := by
  obtain ⟨htarget, hviable⟩ := TypeSnapshot.offersChoice_iff.1 offered
  rw [← TypeSnapshot.checkTarget_eq_ok_iff] at htarget
  rw [pickedResolution_target htarget, resolution_choice htarget hsome,
    if_neg (mt List.isEmpty_iff.1 hviable), hchoice]
  cases chosen with
  | nil => exact absurd rfl hsome
  | cons m rest =>
    exact (quiet_ofChoice o t _ picker).trans (quiet_ofChoice o t _ .all).symm

theorem pickedResolution_of_dismissed (offered : t.offersChoice)
    (hchoice : (picker t t.viableMembers).choice = none ∨
      (picker t t.viableMembers).choice = some []) :
    pickedResolution o t picker =
      .error (.nothingToGenerate t.name .selectionDismissed) := by
  obtain ⟨htarget, hviable⟩ := TypeSnapshot.offersChoice_iff.1 offered
  rw [← TypeSnapshot.checkTarget_eq_ok_iff] at htarget
  rw [pickedResolution_target htarget, if_neg (mt List.isEmpty_iff.1 hviable)]
  rcases hchoice with hnone | hempty
  · rw [hnone]
  · rw [hempty]

theorem pickedResolution_of_nothing_viable (hviable : t.viableMembers = []) :
    pickedResolution o t picker = resolution o t [] := by
  cases htarget : t.checkTarget with
  | error r => rw [pickedResolution_invalid htarget, resolution_invalid htarget]
  | ok _ =>
    rw [pickedResolution_target htarget, resolution_target htarget, hviable,
      quiet_ofNothing, quiet_ofNothing]
    rfl

end Selection

section Offers

theorem polls_planning {resolve : Procedure Selection}
    (h : ∀ r ∈ resolve.requests picker, r = .poll) :
    ∀ r ∈ (resolve >>= planSelection o t).requests picker, r = .poll := by
  rw [requests_planning]
  intro r hr
  rcases List.mem_append.1 hr with hresolve | hpolls
  · exact h r hresolve
  · exact (List.mem_replicate.1 hpolls).2

theorem offers_planning :
    ((Selection.ofPicker o t >>= planSelection o t).run signal picker).offers =
      if t.offersChoice then [t.viableMembers] else [] := by
  have hrequests := Selection.requests_ofPicker o t picker
  by_cases hoffered : t.offersChoice
  · obtain ⟨htarget, hviable⟩ := TypeSnapshot.offersChoice_iff.1 hoffered
    rw [← TypeSnapshot.checkTarget_eq_ok_iff] at htarget
    rw [if_pos hoffered] at hrequests ⊢
    simp only [Selection.ofPicker, htarget] at hrequests ⊢
    change Procedure.requests (if t.viableMembers.isEmpty then _ else _) picker = _ at hrequests
    change (Procedure.run ((if t.viableMembers.isEmpty then _ else _) >>= _) signal picker).offers
      = _
    rw [if_neg (mt List.isEmpty_iff.1 hviable)] at hrequests ⊢
    -- the one request that resolving makes is the one to choose, so that nothing is asked later
    have hlater := (List.cons.inj hrequests).2
    apply congrArg (List.cons _)
    apply Procedure.offers_eq_nil_of_polls
    apply polls_planning
    intro r hr
    rw [hlater] at hr
    cases hr
  · rw [if_neg hoffered] at hrequests ⊢
    apply Procedure.offers_eq_nil_of_polls
    apply polls_planning
    rw [hrequests]
    exact List.forall_mem_nil _

/-- The picker is shown the candidates once, if at all: when the first poll finds the signal
unraised and there is something to choose among. -/
theorem offers_tryPlanWithPicker :
    (tryPlanWithPicker o t picker signal).offers =
      if signal.isRaised = false ∧ t.offersChoice then [t.viableMembers] else [] := by
  change ((planPicked o t).run signal picker).offers = _
  rw [planPicked, Procedure.run]
  cases signal with
  | never => simpa [Signal.isRaised, Signal.polled?] using offers_planning
  | after n =>
    cases n with
    | zero => rfl
    | succ n => simpa [Signal.isRaised, Signal.polled?] using offers_planning

end Offers

/-- The picker of a call under a signal has to be asked. -/
def TypeSnapshot.AsksPicker (t : TypeSnapshot) (signal : Signal) : Prop :=
  signal.isRaised = false ∧ t.IsInstantiable ∧ ∃ m ∈ t.members, m.isViable

theorem TypeSnapshot.asksPicker_iff :
    t.AsksPicker signal ↔ signal.isRaised = false ∧ t.offersChoice := by
  rw [AsksPicker, offersChoice_iff, ne_eq, viableMembers_eq_nil_iff]
  simp only [not_forall, not_not, exists_prop]

/-- What a call with a picker does, and the calls for explicit lists that it agrees with. -/
structure FollowsPicker (o : Options) (t : TypeSnapshot) (picker : Picker) (signal : Signal)
    (call : Run (List Plan)) : Prop where
  asked : t.AsksPicker signal → ∃ candidates, call.offers = [candidates] ∧
    candidates.Perm (t.members.filter Member.isViable) ∧
    (candidates.Pairwise fun a b => a.declarationOrder ≤ b.declarationOrder) ∧
    (∀ chosen, (picker t candidates).choice = some chosen → chosen ≠ [] →
      call.result = (tryPlan o t chosen signal).result) ∧
    ((picker t candidates).choice = none ∨ (picker t candidates).choice = some [] →
      call.result = .error (.nothingToGenerate t.name .selectionDismissed))
  unasked : ¬ t.AsksPicker signal → call.offers = []
  nothing_viable : (∀ m ∈ t.members, ¬ m.isViable) →
    call.result = (tryPlan o t [] signal).result

/-- A picker that leaves the signal alone is asked at most once, and exactly if the call is not
cancelled at once and the type, a class or struct that is not static, has viable members. Those are
what it is shown. The call then comes to what the call for its choice comes to. -/
theorem picker_call_refines (o : Options) (t : TypeSnapshot) {picker : Picker} (signal : Signal)
    (discreet : (picker t t.viableMembers).raises = false) :
    FollowsPicker o t picker signal (tryPlanWithPicker o t picker signal) where
  asked := by
    intro hasks
    obtain ⟨hraised, hoffered⟩ := TypeSnapshot.asksPicker_iff.1 hasks
    refine ⟨t.viableMembers, ?_, List.mergeSort_perm .., ?_, ?_, ?_⟩
    · rw [offers_tryPlanWithPicker, if_pos ⟨hraised, hoffered⟩]
    · exact t.ordered_viableMembers
    · intro chosen hchoice hsome
      rw [tryPlanWithPicker_conclusion discreet, tryPlan_conclusion,
        Selection.pickedResolution_of_chosen hoffered hchoice hsome]
    · intro hchoice
      rw [tryPlanWithPicker_conclusion discreet,
        Selection.pickedResolution_of_dismissed hoffered hchoice, conclusion_error hraised]
  unasked := by
    intro hasks
    rw [offers_tryPlanWithPicker, if_neg (mt TypeSnapshot.asksPicker_iff.2 hasks)]
  nothing_viable := by
    intro hviable
    have hnone := TypeSnapshot.viableMembers_eq_nil_iff.2 hviable
    rw [tryPlanWithPicker_conclusion discreet, tryPlan_conclusion,
      Selection.pickedResolution_of_nothing_viable hnone]

/-- Chooses all candidates, the last one first. -/
def Picker.reversing : Picker := fun _ candidates => { choice := some candidates.reverse }

theorem picker_call_refines_invoice :
    (Picker.reversing invoice invoice.viableMembers).raises = false ∧
      invoice.AsksPicker (.after 3) ∧
      FollowsPicker {} invoice .reversing (.after 3)
        (tryPlanWithPicker {} invoice .reversing (.after 3)) := by
  have hasks : invoice.AsksPicker (.after 3) := ⟨rfl, by decide, by decide⟩
  exact ⟨rfl, hasks, picker_call_refines {} invoice (.after 3) rfl⟩

end ConstructorPlanning
