import ConstructorPlanning.Command.Config
import ConstructorPlanning.Command.Report
import ConstructorPlanning.Planning.Planner
/-!
A run of the command: find and load the configuration, load the catalog, look the type up, and plan.
Only bad input ends a run without a report; where the planner offers nothing, the report is empty.
-/
namespace ConstructorPlanning.Command

structure Execution where
  result : Except RunFault Report
  log : List Record := []

namespace Execution

structure Setting where
  config : Option String
  options : Options
  type : TypeSnapshot

def loadCatalog (files : Files) (path : String) : Except RunFault TypeCatalog := do
  let text ← (files path).text.mapError (.snapshotUnreadable path)
  (TypeCatalog.ofText text).mapError (.snapshotMalformed path)

def prepare (args : Arguments) (files : Files) (cwd : String) : Except RunFault Setting := do
  let path ← Config.find files cwd args.config
  let config ← path.mapM (Config.load files)
  let snapshot := joined cwd args.snapshot
  let catalog ← loadCatalog files snapshot
  match catalog.get? args.typeName with
  | some type => return ⟨path, resolveOptions args config, type⟩
  | none => .error (.typeNotFound args.typeName snapshot catalog.typeNames)

def ofRun (typeName : String) (r : Run (List Plan)) : Execution where
  result :=
    match r.result with
    | .ok plans => .ok ⟨typeName, plans⟩
    | .error reason => .error (.refused reason)
  log := r.log

/-- Plans for the named members, or for all that a picker accepts if none is named. -/
def planMembers (options : Options) (type : TypeSnapshot) (names : List String) : Execution :=
  if names.isEmpty then
    ofRun type.name (planWithPicker options type .all .never)
  else
    match type.selectMembers names with
    | .ok explicit => ofRun type.name (plan options type explicit .never)
    | .error reason => { result := .error (.invalidMembers type.name reason) }

end Execution

def execute (args : Arguments) (files : Files) (cwd : String) : Execution :=
  match Execution.prepare args files cwd with
  | .error fault => { result := .error fault }
  | .ok setting =>
    let execution := Execution.planMembers setting.options setting.type args.members
    let start := Note.planningStarted setting.type.name setting.config setting.options
    { execution with log := .noted start [] :: execution.log }

/-- The output of a run: JSON, or text that is coloured on a terminal unless colours are switched
off. -/
def render (args : Arguments) (onTerminal : Bool) (report : Report) : String :=
  match args.format with
  | .text => report.text (onTerminal && !args.noColor)
  | .json => report.json

end ConstructorPlanning.Command
