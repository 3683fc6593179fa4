import ConstructorPlanning.Planning.Resolution
import ConstructorPlanning.Planning.Synthesis
/-!
Planning calls: from the members of a type to a selection, from the selection to a match with the
existing constructors, and from the match to plans. The signal is polled when a call begins, once
more when the selection is made, and before each comparison with a constructor.

A call reports why nothing is offered. Folded, it offers the empty list instead, except when
cancelled.
-/
namespace ConstructorPlanning

def planSelection (o : Options) (t : TypeSnapshot) (s : Selection) : Procedure (List Plan) :=
  .poll <|
    if s.isEmpty then
      .note .nothingViable (s.synthesize o .nothing)
    else do
      let found ← s.matchConstructors t.constructors
      if found.isExact then
        .refuse (.nothingToGenerate t.name .sameConstructorExists)
      else
        let plans ← s.synthesize o found
        .note (.plansReady s.size plans.length) (.done plans)

/-- Planning for an explicit list of members, or for all viable ones if the list is empty. -/
def planExplicit (o : Options) (t : TypeSnapshot) (explicit : List Member) :
    Procedure (List Plan) :=
  .poll do
    let selection ← Selection.ofExplicit o t explicit
    planSelection o t selection

def planPicked (o : Options) (t : TypeSnapshot) : Procedure (List Plan) :=
  .poll do
    let selection ← Selection.ofPicker o t
    planSelection o t selection

/-- Plans constructors for an explicit list, or for all viable members if it is empty. -/
def tryPlan (o : Options) (t : TypeSnapshot) (explicit : List Member) (signal : Signal) :
    Run (List Plan) :=
  ((planExplicit o t explicit).run signal .all).within (.plan t.name explicit.length)

/-- Plans constructors for the members that a picker chooses. -/
def tryPlanWithPicker (o : Options) (t : TypeSnapshot) (picker : Picker) (signal : Signal) :
    Run (List Plan) :=
  ((planPicked o t).run signal picker).within (.planWithPicker t.name)

/-- Looks a type up, then plans with a picker. -/
def tryPlanType (o : Options) (catalog : TypeCatalog) (typeName : String) (picker : Picker)
    (signal : Signal) : Run (List Plan) :=
  match catalog.get? typeName with
  | some t => tryPlanWithPicker o t picker signal
  | none => { result := .error (.unknownType typeName) }

/-- The folded form of a call: every refusal but a cancellation offers nothing. -/
def Run.folded (r : Run (List Plan)) : Run (List Plan) :=
  match r.result with
  | .ok _ | .error .cancelled => r
  | .error reason =>
    { r with result := .ok [], log := r.log ++ [.noted (.nothingOffered reason) []] }

def plan (o : Options) (t : TypeSnapshot) (explicit : List Member) (signal : Signal) :
    Run (List Plan) :=
  (tryPlan o t explicit signal).folded

def planWithPicker (o : Options) (t : TypeSnapshot) (picker : Picker) (signal : Signal) :
    Run (List Plan) :=
  (tryPlanWithPicker o t picker signal).folded

def planType (o : Options) (catalog : TypeCatalog) (typeName : String) (picker : Picker)
    (signal : Signal) : Run (List Plan) :=
  (tryPlanType o catalog typeName picker signal).folded

end ConstructorPlanning
