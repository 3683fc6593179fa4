import ConstructorPlanning.Planning.Note
import ConstructorPlanning.Snapshot.TypeSnapshot
/-!
Planning as a procedure: a computation that may note what it does, look at a cancellation signal,
ask for a choice of members, and give a result or a refusal. The procedure itself is plain data;
`Procedure.run` answers its requests from a signal and a picker, and reports everything that
happened.
-/
namespace ConstructorPlanning

/-- A planning computation with its requests still open. -/
inductive Procedure (α : Type) where
  | done (result : α)
  | refuse (reason : Refusal)
  | note (entry : Note) (next : Procedure α)
  /-- Look at the cancellation signal, and go on only if it is not raised. -/
  | poll (next : Procedure α)
  /-- Offer candidates of a type; no answer means that the choice was dismissed. -/
  | pick (type : TypeSnapshot) (candidates : List Member)
      (next : Option (List Member) → Procedure α)

namespace Procedure

variable {α β : Type}

protected def bind : Procedure α → (α → Procedure β) → Procedure β
  | done a, f => f a
  | refuse r, _ => refuse r
  | note n next, f => note n (next.bind f)
  | poll next, f => poll (next.bind f)
  | pick t cs next, f => pick t cs fun answer => (next answer).bind f

instance : Monad Procedure where
  pure := done
  bind := Procedure.bind

protected theorem bind_done (p : Procedure α) : p.bind done = p := by
  induction p with
  | done a => rfl
  | refuse r => rfl
  | note n next ih => rw [Procedure.bind, ih]
  | poll next ih => rw [Procedure.bind, ih]
  | pick t cs next ih =>
    rw [Procedure.bind]
    exact congrArg _ (funext ih)

protected theorem bind_assoc {γ : Type} (p : Procedure α) (f : α → Procedure β)
    (g : β → Procedure γ) : (p.bind f).bind g = p.bind fun a => (f a).bind g := by
  induction p with
  | done a => rfl
  | refuse r => rfl
  | note n next ih => simp only [Procedure.bind, ih]
  | poll next ih => simp only [Procedure.bind, ih]
  | pick t cs next ih => simp only [Procedure.bind, ih]

instance : LawfulMonad Procedure :=
  LawfulMonad.mk' Procedure (fun p => Procedure.bind_done p) (fun _ _ => rfl) Procedure.bind_assoc

def notes : List Note → Procedure Unit
  | [] => done ()
  | n :: ns => note n (notes ns)

def ofExcept : Except Refusal α → Procedure α
  | .ok a => done a
  | .error r => refuse r

end Procedure

/-- A cancellation signal, which stays raised once it is. -/
inductive Signal where
  | never
  /-- Raised after the given number of further polls has found it unraised. -/
  | after (quietPolls : Nat)
  deriving DecidableEq, Repr

namespace Signal

def raised : Signal := after 0

def isRaised : Signal → Bool
  | after 0 => true
  | _ => false

/-- The signal after a poll that found it unraised; nothing if the poll finds it raised. -/
def polled? : Signal → Option Signal
  | never => some never
  | after 0 => none
  | after (n + 1) => some (after n)

end Signal

/-- What a picker answers: a choice, or none; it may raise the cancellation signal at the same time.
-/
structure Reply where
  choice : Option (List Member)
  raises : Bool := false
  deriving DecidableEq, Repr

/-- Chooses among the candidates of a type. -/
abbrev Picker := TypeSnapshot → List Member → Reply

/-- Accepts every candidate in the order offered. -/
def Picker.all : Picker := fun _ candidates => { choice := some candidates }

structure Run (α : Type) where
  result : Except Refusal α
  log : List Record := []
  /-- The candidates that were offered to the picker, one list for each time it was asked. -/
  offers : List (List Member) := []

namespace Run

variable {α : Type}

def noting (n : Note) (r : Run α) : Run α :=
  { r with log := .noted n [] :: r.log }

def offering (candidates : List Member) (r : Run α) : Run α :=
  { r with offers := candidates :: r.offers }

/-- The run as the whole of a call: the log opens with the call, and every note stands inside it. -/
def within (call : Call) (r : Run α) : Run α :=
  { r with log := .entered call :: r.log.map (·.inside call) }

end Run

namespace Procedure

variable {α : Type}

def run : Procedure α → Signal → Picker → Run α
  | done a, _, _ => { result := .ok a }
  | refuse r, _, _ => { result := .error r }
  | note n next, signal, picker => (next.run signal picker).noting n
  | poll next, signal, picker =>
    match signal.polled? with
    | some signal => next.run signal picker
    | none => Run.noting .cancellationObserved { result := .error .cancelled }
  | pick t candidates next, signal, picker =>
    let reply := picker t candidates
    let signal := if reply.raises then .raised else signal
    ((next reply.choice).run signal picker).offering candidates

end Procedure

end ConstructorPlanning
