import Mathlib.Data.List.Forall2
import ConstructorPlanning.Session
/-!
What a refused step leaves behind: the session as it was, but for the plans made last, which a
refused planning step forgets. So the refused steps of a session can be left out: all others are
answered as before.
-/
namespace ConstructorPlanning.Session

/-- The step asked for something that there is not, or was refused by the planner. -/
def Answer.isRefusal : Answer → Bool
  | .refused _ | .nothingAccepted | .loaded false => true
  | _ => false

def Step.isPlanning : Step → Bool
  | .plan .. | .planType .. => true
  | _ => false

/-- The session without the plans made last. -/
def forgetful (s : Session) : Session :=
  { s with lastPlans := [] }

section Steps

variable {s : Session} {a : Step}

theorem planned_of_refused {typeName : String} {r : Run (List Plan)}
    (h : (s.planned typeName r).answer.isRefusal) :
    (s.planned typeName r).session = s.forgetful := by
  unfold planned at h ⊢
  split at h
  · cases h
  · rfl

theorem planMembers_of_refused {names : List String} {folded : Bool}
    (h : (s.planMembers names folded).answer.isRefusal) :
    (s.planMembers names folded).session = s.forgetful := by
  unfold planMembers at h ⊢
  split at h
  · rfl
  · exact planned_of_refused h

theorem compareMembers_session (names : List String) : (s.compareMembers names).session = s := by
  unfold compareMembers
  split
  · rfl
  · simp only
    split <;> rfl

/-- A refused step changes nothing, but a planning step forgets the plans made last. -/
theorem step_of_refused (h : (s.step a).answer.isRefusal) :
    (s.step a).session = if a.isPlanning then s.forgetful else s := by
  cases a with
  | plan names folded => exact planMembers_of_refused h
  | planType name folded => exact planned_of_refused h
  | compare names => exact compareMembers_session names
  | check =>
    simp only [step] at h ⊢
    split <;> rfl
  | accept index declarationOrder annotated =>
    simp only [step] at h ⊢
    split at h
    · cases h
    · rfl
  | load name =>
    simp only [step] at h ⊢
    split at h
    · cases h
    · rfl
  | _ => cases h

/-- Two outcomes tell the same, and the session of the first has forgotten its plans at most. -/
structure Outcome.Agrees (o o' : Outcome) : Prop where
  answer : o.answer = o'.answer
  log : o.log = o'.log
  session : o.session = o'.session ∨ o.session = o'.session.forgetful

theorem Outcome.Agrees.rfl {o : Outcome} : o.Agrees o :=
  ⟨Eq.refl _, Eq.refl _, .inl (Eq.refl _)⟩

theorem compareMembers_forgetful (names : List String) :
    (s.forgetful.compareMembers names).Agrees (s.compareMembers names) := by
  simp only [compareMembers, forgetful]
  split
  · exact ⟨rfl, rfl, .inr rfl⟩
  · split <;> exact ⟨rfl, rfl, .inr rfl⟩

/-- Without the plans made last, a step that is not refused comes to the same. -/
theorem step_forgetful (h : ¬ (s.forgetful.step a).answer.isRefusal) :
    (s.forgetful.step a).Agrees (s.step a) := by
  cases a with
  | plan names folded => exact .rfl
  | planType name folded => exact .rfl
  | compare names => exact compareMembers_forgetful names
  | check =>
    simp only [step, forgetful]
    split <;> exact ⟨rfl, rfl, .inr rfl⟩
  | accept index declarationOrder annotated => exact absurd rfl h
  | load name =>
    simp only [step, forgetful]
    split <;> exact ⟨rfl, rfl, .inr rfl⟩
  | _ => exact ⟨rfl, rfl, .inr rfl⟩

end Steps

section Runs

def outcomes (s : Session) : List Step → List Outcome
  | [] => []
  | a :: rest => s.step a :: (s.step a).session.outcomes rest

/-- The steps that are not refused when all are taken. -/
def accepted (s : Session) : List Step → List Step
  | [] => []
  | a :: rest =>
    if (s.step a).answer.isRefusal then
      (s.step a).session.accepted rest
    else
      a :: (s.step a).session.accepted rest

theorem step_session_of_refused {s s' : Session} {a : Step} (h : s = s' ∨ s = s'.forgetful)
    (hrefused : (s.step a).answer.isRefusal) :
    (s.step a).session = s' ∨ (s.step a).session = s'.forgetful := by
  rw [step_of_refused hrefused]
  split
  · rcases h with rfl | rfl <;> exact .inr rfl
  · exact h

theorem step_agrees {s s' : Session} {a : Step} (h : s = s' ∨ s = s'.forgetful)
    (hrefused : ¬ (s.step a).answer.isRefusal) : (s.step a).Agrees (s'.step a) := by
  rcases h with rfl | rfl
  · exact .rfl
  · exact step_forgetful hrefused

/-- Where the refused steps of a session are left out, each other step comes to the same. -/
theorem refused_steps_left_out {s s' : Session} (h : s = s' ∨ s = s'.forgetful)
    (steps : List Step) :
    List.Forall₂ Outcome.Agrees
      ((s.outcomes steps).filter fun o => !o.answer.isRefusal)
      (s'.outcomes (s.accepted steps)) := by
  induction steps generalizing s s' with
  | nil => exact .nil
  | cons a rest ih =>
    rw [outcomes, accepted]
    by_cases hrefused : (s.step a).answer.isRefusal
    · rw [List.filter_cons_of_neg (by simp [hrefused]), if_pos hrefused]
      exact ih (step_session_of_refused h hrefused)
    · have hagrees := step_agrees h hrefused
      rw [List.filter_cons_of_pos (by simp [hrefused]), if_neg hrefused, outcomes]
      exact .cons hagrees (ih hagrees.session)

end Runs

end ConstructorPlanning.Session
