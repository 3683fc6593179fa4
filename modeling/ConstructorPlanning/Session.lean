import ConstructorPlanning.Planning.Planner
/-!
A session builds up a type step by step, plans constructors for it, and accepts plans into it. A
step that is refused leaves the session as it was, except that a refused planning step forgets the
plans made last.
-/
namespace ConstructorPlanning

structure Session where
  type : TypeSnapshot := { name := "T", kind := .classType }
  catalog : TypeCatalog := {}
  options : Options := {}
  signal : Signal := .never
  /-- The plans of the last planning step, none if it was refused. -/
  lastPlans : List Plan := []

namespace Session

inductive Step where
  | newType (name : String) (kind : TypeKind)
  | makeStatic
  | addMember (m : Member)
  | addConstructor (c : Constructor)
  | setOptions (options : Options)
  | cancel
  | renew
  | check
  | plan (names : List String) (folded : Bool)
  | planType (name : String) (folded : Bool)
  | accept (index : Nat) (declarationOrder : UInt32) (annotated : Bool)
  | compare (names : List String)
  | store
  | load (name : String)
  | describe

inductive Answer where
  | kind (kind : TypeKind)
  | static
  | member (isViable : Bool) (count : Nat)
  | constructor (signature : String) (count : Nat)
  | options (options : Options)
  | signal (isRaised : Bool)
  | plans (typeName : String) (plans : List Plan)
  | accepted (signature : String)
  | nothingAccepted
  | found (found : Match)
  | types (names : List String)
  | loaded (isKnown : Bool)
  | description (type : TypeSnapshot)
  | refused (reason : Refusal)

structure Outcome where
  session : Session
  answer : Answer
  log : List Record := []

def withConstructor (s : Session) (c : Constructor) : Session :=
  { s with type := { s.type with constructors := s.type.constructors ++ [c] } }

def planned (s : Session) (typeName : String) (r : Run (List Plan)) : Outcome :=
  match r.result with
  | .ok plans =>
    { session := { s with lastPlans := plans }, answer := .plans typeName plans, log := r.log }
  | .error reason =>
    { session := { s with lastPlans := [] }, answer := .refused reason, log := r.log }

def planMembers (s : Session) (names : List String) (folded : Bool) : Outcome :=
  match s.type.selectMembers names with
  | .error reason => { session := { s with lastPlans := [] }, answer := .refused reason }
  | .ok members =>
    let r := tryPlan s.options s.type members s.signal
    s.planned s.type.name (if folded then r.folded else r)

def compareMembers (s : Session) (names : List String) : Outcome :=
  match s.type.selectMembers names with
  | .error reason => { session := s, answer := .refused reason }
  | .ok members =>
    let r := ((Selection.ofMembers members).matchConstructors s.type.constructors).run s.signal .all
    match r.result with
    | .ok found => { session := s, answer := .found found, log := r.log }
    | .error reason => { session := s, answer := .refused reason, log := r.log }

def step (s : Session) : Step → Outcome
  | .newType name kind => { session := { s with type := { name, kind } }, answer := .kind kind }
  | .makeStatic =>
    { session := { s with type := { s.type with isStatic := true } }, answer := .static }
  | .addMember m =>
    let members := s.type.members ++ [m]
    { session := { s with type := { s.type with members } }
      answer := .member m.isViable members.length }
  | .addConstructor c =>
    let s := s.withConstructor c
    { session := s, answer := .constructor c.signature s.type.constructors.length }
  | .setOptions options => { session := { s with options }, answer := .options options }
  | .cancel => { session := { s with signal := .raised }, answer := .signal true }
  | .renew => { session := { s with signal := .never }, answer := .signal false }
  | .check =>
    let r := (Procedure.poll (.done ())).run s.signal .all
    match r.result with
    | .ok () => { session := s, answer := .signal false, log := r.log }
    | .error reason => { session := s, answer := .refused reason, log := r.log }
  | .plan names folded => s.planMembers names folded
  | .planType name folded =>
    let r := tryPlanType s.options s.catalog name .all s.signal
    s.planned name (if folded then r.folded else r)
  | .accept index declarationOrder annotated =>
    match s.lastPlans[index]? with
    | some plan =>
      let c := plan.accepted declarationOrder annotated
      { session := s.withConstructor c, answer := .accepted c.signature }
    | none => { session := s, answer := .nothingAccepted }
  | .compare names => s.compareMembers names
  | .store =>
    let catalog : TypeCatalog := ⟨s.catalog.types ++ [s.type]⟩
    { session := { s with catalog }, answer := .types catalog.typeNames }
  | .load name =>
    match s.catalog.get? name with
    | some type => { session := { s with type }, answer := .loaded true }
    | none => { session := s, answer := .loaded false }
  | .describe =>
    let r := (Selection.collectViable s.type).run s.signal .all
    { session := s, answer := .description s.type, log := r.log }

end Session

end ConstructorPlanning
