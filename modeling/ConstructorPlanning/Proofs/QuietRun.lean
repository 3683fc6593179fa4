import ConstructorPlanning.Planning.Planner
/-!
Procedures whose polls all find the signal unraised. A run under any signal and any picker either
is cancelled or comes to what such a quiet procedure comes to; so what is planned at all can be
read off quiet procedures, one stage after the other.
-/
namespace ConstructorPlanning

/-- Something that a procedure asks of its surroundings. -/
inductive Request where
  /-- To look at the signal. -/
  | poll
  /-- To choose among candidates; the answer may raise the signal. -/
  | pick (raises : Bool)
  deriving DecidableEq, Repr

/-- Whether one of the polls among the requests finds the signal raised. -/
def Signal.stops : Signal → List Request → Bool
  | _, [] => false
  | signal, .poll :: rest =>
    match signal.polled? with
    | some signal => signal.stops rest
    | none => true
  | signal, .pick raises :: rest => (if raises then raised else signal).stops rest

namespace Procedure

variable {α β : Type}

/-- What a procedure comes to if no poll stops it. -/
def quiet : Procedure α → Picker → Except Refusal α
  | done a, _ => .ok a
  | refuse r, _ => .error r
  | note _ next, picker => next.quiet picker
  | poll next, picker => next.quiet picker
  | pick t candidates next, picker => (next (picker t candidates).choice).quiet picker

theorem quiet_bind (p : Procedure α) (f : α → Procedure β) (picker : Picker) :
    (p >>= f).quiet picker = p.quiet picker >>= fun a => (f a).quiet picker := by
  change (p.bind f).quiet picker = _
  induction p with
  | done a => rfl
  | refuse r => rfl
  | note n next ih => exact ih
  | poll next ih => exact ih
  | pick t cs next ih => exact ih _

theorem quiet_bind_ok {p : Procedure α} {f : α → Procedure β} {picker : Picker} {a : α}
    (h : p.quiet picker = .ok a) : (p >>= f).quiet picker = (f a).quiet picker := by
  rw [quiet_bind, h]
  rfl

theorem quiet_bind_error {p : Procedure α} {f : α → Procedure β} {picker : Picker} {r : Refusal}
    (h : p.quiet picker = .error r) : (p >>= f).quiet picker = .error r := by
  rw [quiet_bind, h]
  rfl

@[simp] theorem quiet_notes (ns : List Note) (picker : Picker) :
    (notes ns).quiet picker = .ok () := by
  induction ns with
  | nil => rfl
  | cons n ns ih => exact ih

@[simp] theorem quiet_ofExcept (e : Except Refusal α) (picker : Picker) :
    (ofExcept e).quiet picker = e := by
  cases e <;> rfl

/-- Under a signal that nobody raises, the picker included, a run is quiet. -/
theorem run_never_result (p : Procedure α) (picker : Picker)
    (h : ∀ t cs, (picker t cs).raises = false) :
    (p.run .never picker).result = p.quiet picker := by
  induction p with
  | done a => rfl
  | refuse r => rfl
  | note n next ih => exact ih
  | poll next ih => exact ih
  | pick t cs next ih =>
    rw [run, h t cs]
    exact ih _

section Requests

/-- What a procedure asks of its surroundings, in the order in which it asks. -/
def requests : Procedure α → Picker → List Request
  | done _, _ | refuse _, _ => []
  | note _ next, picker => next.requests picker
  | poll next, picker => .poll :: next.requests picker
  | pick t candidates next, picker =>
    .pick (picker t candidates).raises :: (next (picker t candidates).choice).requests picker

/-- The stage that follows makes its requests after those of the first, unless that refuses. -/
theorem requests_bind (p : Procedure α) (f : α → Procedure β) (picker : Picker) :
    (p >>= f).requests picker =
      p.requests picker ++
        match p.quiet picker with
        | .ok a => (f a).requests picker
        | .error _ => [] := by
  change (p.bind f).requests picker = _
  induction p with
  | done a => rfl
  | refuse r => rfl
  | note n next ih => exact ih
  | poll next ih => exact congrArg _ ih
  | pick t cs next ih => exact congrArg _ (ih _)

theorem requests_bind_ok {p : Procedure α} {f : α → Procedure β} {picker : Picker} {a : α}
    (h : p.quiet picker = .ok a) :
    (p >>= f).requests picker = p.requests picker ++ (f a).requests picker := by
  rw [requests_bind, h]

/-- Stages that ask for nothing make a procedure that asks for nothing. -/
theorem requests_bind_nil {p : Procedure α} {f : α → Procedure β} {picker : Picker}
    (hp : p.requests picker = []) (hf : ∀ a, (f a).requests picker = []) :
    (p >>= f).requests picker = [] := by
  rw [requests_bind, hp]
  cases p.quiet picker with
  | ok a => exact hf a
  | error r => rfl

@[simp] theorem requests_notes (ns : List Note) (picker : Picker) :
    (notes ns).requests picker = [] := by
  induction ns with
  | nil => rfl
  | cons n ns ih => exact ih

@[simp] theorem requests_ofExcept (e : Except Refusal α) (picker : Picker) :
    (ofExcept e).requests picker = [] := by
  cases e <;> rfl

/-- A run comes to what its quiet procedure comes to, or is cancelled; which of the two depends on
the signal and the requests alone. -/
theorem run_result (p : Procedure α) (signal : Signal) (picker : Picker) :
    (p.run signal picker).result =
      if signal.stops (p.requests picker) then .error .cancelled else p.quiet picker := by
  induction p generalizing signal with
  | done a => rfl
  | refuse r => rfl
  | note n next ih => exact ih signal
  | poll next ih =>
    rw [run, requests, Signal.stops]
    cases signal.polled? with
    | none => rfl
    | some later => exact ih later
  | pick t cs next ih => exact ih _ _

/-- Cancellation is the only thing that a signal adds, wherever and however it is raised. -/
theorem run_cancelled_or_quiet (p : Procedure α) (signal : Signal) (picker : Picker) :
    (p.run signal picker).result = .error .cancelled ∨
      (p.run signal picker).result = p.quiet picker := by
  rw [run_result]
  split
  · exact .inl rfl
  · exact .inr rfl

end Requests

/-- What a run comes to without being refused, it comes to quietly. -/
theorem quiet_of_run_ok {p : Procedure α} {signal : Signal} {picker : Picker} {a : α}
    (h : (p.run signal picker).result = .ok a) : p.quiet picker = .ok a := by
  rcases p.run_cancelled_or_quiet signal picker with hc | hq
  · rw [hc] at h
    cases h
  · exact hq.symm.trans h

end Procedure

theorem tryPlan_never_result (o : Options) (t : TypeSnapshot) (explicit : List Member) :
    (tryPlan o t explicit .never).result = (planExplicit o t explicit).quiet .all :=
  Procedure.run_never_result _ _ fun _ _ => rfl

/-- The plans that a call offers are those that it would offer if nobody raised the signal. -/
theorem tryPlan_ok_quiet {o : Options} {t : TypeSnapshot} {explicit : List Member}
    {signal : Signal} {plans : List Plan} (h : (tryPlan o t explicit signal).result = .ok plans) :
    (planExplicit o t explicit).quiet .all = .ok plans :=
  Procedure.quiet_of_run_ok h

end ConstructorPlanning
