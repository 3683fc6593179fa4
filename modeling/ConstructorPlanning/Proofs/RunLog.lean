import ConstructorPlanning.Proofs.QuietRun
/-!
The log of a run. What a procedure asks for and what it notes make one sequence of events, which no
signal changes; a signal only says after which of them the run breaks off.
-/
namespace ConstructorPlanning

/-- Something that a procedure does on its way to a result. -/
inductive Event where
  | request (r : Request)
  | note (n : Note)
  deriving DecidableEq, Repr

namespace Event

def request? : Event → Option Request
  | request r => some r
  | note _ => none

/-- The event leads up to a decision: something is asked for, or members are collected. -/
def IsPreparing : Event → Prop
  | request _ => True
  | note n => n.message = "collected viable members"

end Event

/-- The events prepare a decision, and the notes are what is made of it afterwards. -/
def ClosesWith (events : List Event) (closing : List Note) : Prop :=
  ∃ front, (∀ e ∈ front, e.IsPreparing) ∧ events = front ++ closing.map .note

namespace ClosesWith

variable {events front : List Event} {closing : List Note}

theorem of_notes (closing : List Note) : ClosesWith (closing.map .note) closing :=
  ⟨[], by simp, rfl⟩

theorem of_preparing (h : ∀ e ∈ front, e.IsPreparing) : ClosesWith front [] :=
  ⟨front, h, (List.append_nil front).symm⟩

theorem prepend (hfront : ∀ e ∈ front, e.IsPreparing) (h : ClosesWith events closing) :
    ClosesWith (front ++ events) closing := by
  obtain ⟨before, hbefore, rfl⟩ := h
  refine ⟨front ++ before, ?_, (List.append_assoc _ _ _).symm⟩
  intro e he
  rcases List.mem_append.1 he with hin | hin
  · exact hfront e hin
  · exact hbefore e hin

theorem poll (h : ClosesWith events closing) : ClosesWith (.request .poll :: events) closing := by
  change ClosesWith ([.request .poll] ++ events) closing
  apply h.prepend
  intro e he
  rw [List.mem_singleton.1 he]
  trivial

theorem append_notes (h : ClosesWith events closing) (more : List Note) :
    ClosesWith (events ++ more.map .note) (closing ++ more) := by
  obtain ⟨before, hbefore, rfl⟩ := h
  refine ⟨before, hbefore, ?_⟩
  rw [List.map_append, List.append_assoc]

end ClosesWith

namespace Signal

/-- The notes made while events take place under a signal: those up to the first poll that finds it
raised, which is noted as well. -/
def heard : Signal → List Event → List Note
  | _, [] => []
  | signal, .note n :: rest => n :: signal.heard rest
  | signal, .request .poll :: rest =>
    match signal.polled? with
    | some signal => signal.heard rest
    | none => [.cancellationObserved]
  | signal, .request (.pick raises) :: rest => (if raises then raised else signal).heard rest

/-- Events that prepare a decision are heard to the end or to the poll that breaks them off, and
only in the first case what follows is heard. -/
theorem heard_closing (signal : Signal) {front : List Event} (h : ∀ e ∈ front, e.IsPreparing)
    (closing : List Note) :
    ∃ before : List Note, (∀ n ∈ before, n.message = "collected viable members") ∧
      signal.heard (front ++ closing.map .note) =
        before ++ if signal.stops (front.filterMap Event.request?) then [.cancellationObserved]
          else closing := by
  -- a signal grows older with every poll, so the induction is for all signals at once
  induction front generalizing signal with
  | nil =>
    refine ⟨[], by simp, ?_⟩
    change signal.heard (closing.map .note) = closing
    induction closing with
    | nil => rfl
    | cons n closing ih => exact congrArg _ ih
  | cons e front ih =>
    have hfront : ∀ e ∈ front, e.IsPreparing := fun e he => h e (List.mem_cons_of_mem _ he)
    cases e with
    | note n =>
      obtain ⟨before, hbefore, heard⟩ := ih signal hfront
      refine ⟨n :: before, ?_, congrArg _ heard⟩
      intro m hm
      rcases List.mem_cons.1 hm with rfl | hin
      · exact h _ List.mem_cons_self
      · exact hbefore m hin
    | request r =>
      have hasked : (Event.request r :: front).filterMap Event.request? =
          r :: front.filterMap Event.request? := rfl
      rw [hasked, List.cons_append]
      cases r with
      | poll =>
        rw [heard, stops]
        cases signal.polled? with
        | none => exact ⟨[], by simp, rfl⟩
        | some later => exact ih later hfront
      | pick raises => exact ih _ hfront

end Signal

namespace Procedure

variable {α β : Type}

/-- What a procedure asks for and notes, in order, if no poll stops it. -/
def events : Procedure α → Picker → List Event
  | done _, _ | refuse _, _ => []
  | note n next, picker => .note n :: next.events picker
  | poll next, picker => .request .poll :: next.events picker
  | pick t candidates next, picker =>
    .request (.pick (picker t candidates).raises) ::
      (next (picker t candidates).choice).events picker

theorem request_events (p : Procedure α) (picker : Picker) :
    (p.events picker).filterMap Event.request? = p.requests picker := by
  induction p with
  | done a => rfl
  | refuse r => rfl
  | note n next ih => exact ih
  | poll next ih => exact congrArg _ ih
  | pick t cs next ih => exact congrArg _ (ih _)

theorem events_bind (p : Procedure α) (f : α → Procedure β) (picker : Picker) :
    (p >>= f).events picker =
      p.events picker ++
        match p.quiet picker with
        | .ok a => (f a).events picker
        | .error _ => [] := by
  change (p.bind f).events picker = _
  induction p with
  | done a => rfl
  | refuse r => rfl
  | note n next ih => exact congrArg _ ih
  | poll next ih => exact congrArg _ ih
  | pick t cs next ih => exact congrArg _ (ih _)

theorem events_bind_ok {p : Procedure α} {f : α → Procedure β} {picker : Picker} {a : α}
    (h : p.quiet picker = .ok a) :
    (p >>= f).events picker = p.events picker ++ (f a).events picker := by
  rw [events_bind, h]

theorem events_bind_error {p : Procedure α} {f : α → Procedure β} {picker : Picker} {r : Refusal}
    (h : p.quiet picker = .error r) : (p >>= f).events picker = p.events picker := by
  rw [events_bind, h]
  exact List.append_nil _

/-- Stages of which each only prepares make a procedure that only prepares. -/
theorem preparing_bind {p : Procedure α} {f : α → Procedure β} {picker : Picker}
    (hp : ∀ e ∈ p.events picker, e.IsPreparing)
    (hf : ∀ a, ∀ e ∈ (f a).events picker, e.IsPreparing) :
    ∀ e ∈ (p >>= f).events picker, e.IsPreparing := by
  intro e he
  rw [events_bind] at he
  rcases List.mem_append.1 he with hin | hin
  · exact hp e hin
  · cases hquiet : p.quiet picker with
    | ok a =>
      rw [hquiet] at hin
      exact hf a e hin
    | error r =>
      rw [hquiet] at hin
      cases hin

@[simp] theorem events_notes (ns : List Note) (picker : Picker) :
    (notes ns).events picker = ns.map .note := by
  induction ns with
  | nil => rfl
  | cons n ns ih => exact congrArg _ ih

@[simp] theorem events_ofExcept (e : Except Refusal α) (picker : Picker) :
    (ofExcept e).events picker = [] := by
  cases e <;> rfl

/-- A run logs what is heard of its events. -/
theorem run_log (p : Procedure α) (signal : Signal) (picker : Picker) :
    (p.run signal picker).log = (signal.heard (p.events picker)).map (Record.noted · []) := by
  induction p generalizing signal with
  | done a => rfl
  | refuse r => rfl
  | note n next ih => exact congrArg _ (ih signal)
  | poll next ih =>
    rw [run, events, Signal.heard]
    cases signal.polled? with
    | none => rfl
    | some later => exact ih later
  | pick t cs next ih => exact ih _ _

/-- The log of a run is cut where its result is. -/
theorem run_closing {p : Procedure α} {picker : Picker} {closing : List Note}
    (h : ClosesWith (p.events picker) closing) (signal : Signal) :
    ∃ before : List Note, (∀ n ∈ before, n.message = "collected viable members") ∧
      (p.run signal picker).log =
        (before ++ if signal.stops (p.requests picker) then [.cancellationObserved]
          else closing).map (Record.noted · []) := by
  obtain ⟨front, hfront, hevents⟩ := h
  obtain ⟨before, hbefore, heard⟩ := signal.heard_closing hfront closing
  have hrequests : p.requests picker = front.filterMap Event.request? := by
    have hnotes : (closing.map Event.note).filterMap Event.request? = [] := by
      simp [List.filterMap_map, Function.comp_def, Event.request?]
    rw [← request_events, hevents, List.filterMap_append, hnotes, List.append_nil]
  refine ⟨before, hbefore, ?_⟩
  rw [run_log, hevents, heard, hrequests]

end Procedure

def notedAs (message : String) (notes : List Note) : List Note :=
  notes.filter (·.message = message)

section NotedAs

variable (message : String)

theorem notedAs_append (front back : List Note) :
    notedAs message (front ++ back) = notedAs message front ++ notedAs message back :=
  List.filter_append front back

/-- Notes of one kind are all found under their message, and none of them under another. -/
theorem notedAs_of_forall {notes : List Note} {own : String} (h : ∀ n ∈ notes, n.message = own) :
    notedAs message notes = if own = message then notes else [] := by
  unfold notedAs
  split
  · rename_i hsame
    rw [List.filter_eq_self]
    intro n hn
    simp [h n hn, hsame]
  · rename_i hother
    rw [List.filter_eq_nil_iff]
    intro n hn
    simp [h n hn, hother]

theorem notedAs_singleton (n : Note) :
    notedAs message [n] = if n.message = message then [n] else [] := by
  apply notedAs_of_forall
  intro m hm
  rw [List.mem_singleton.1 hm]

end NotedAs

def Record.note? : Record → Option Note
  | entered _ => none
  | noted n _ => some n

namespace Run

variable {α : Type} (r : Run α)

def notes : List Note :=
  r.log.filterMap Record.note?

def noted (message : String) : List Note :=
  notedAs message r.notes

end Run

end ConstructorPlanning
