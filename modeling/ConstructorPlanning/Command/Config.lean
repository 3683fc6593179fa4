import ConstructorPlanning.Command.Arguments
import ConstructorPlanning.Command.Files
import ConstructorPlanning.Planning.Format
import ConstructorPlanning.Planning.Refusal
/-!
The configuration file and the options of a run. The file may change the options, and a flag of the
command line can only switch one off.
-/
namespace ConstructorPlanning.Command

open Json

structure Config where
  planner : Options := {}
  deriving DecidableEq, Repr

/-- Why a run ends without a report. -/
inductive RunFault where
  | configNotFound (path : String)
  | configUnreadable (path : String) (fault : ReadFault)
  | configMalformed (path : String) (fault : Fault)
  | snapshotUnreadable (path : String) (fault : ReadFault)
  | snapshotMalformed (path : String) (fault : Fault)
  | typeNotFound (name path : String) (available : List String)
  | invalidMembers (typeName : String) (reason : Refusal)
  | refused (reason : Refusal)
  deriving DecidableEq, Repr

def configChain (fault : Fault) : List String :=
  ["failed to parse ctorgen config", fault.chainText]

/-- The chain of causes, outermost first. -/
def RunFault.chain : RunFault → List String
  | configNotFound path => [s!"config not found at {path}"]
  | configUnreadable path fault => [s!"failed to read config {path}", fault.message]
  | configMalformed path fault => s!"in {path}" :: configChain fault
  | snapshotUnreadable path fault => [s!"failed to read snapshot {path}", fault.message]
  | snapshotMalformed path fault => [s!"failed to parse snapshot {path}", fault.chainText]
  | typeNotFound name path available =>
    let names := ", ".intercalate available
    let names := if names.isEmpty then "none" else names
    [s!"type '{name}' not found in {path} (available: {names})"]
  | invalidMembers typeName reason =>
    [s!"invalid member selection for '{typeName}'", reason.message]
  | refused reason => [reason.message]

namespace Config

def shape : RecordShape Config where
  title := "struct CtorgenConfig"
  blank := {}
  isClosed := true
  fields := [.defaulted "planner" Options.read fun v c => { c with planner := v }]

def ofText (text : String) : Except Fault Config :=
  Reader.ofText shape.read text

/-- The file that is used when none is named. -/
def defaultFile : String := "ctorgen.json"

/-- The path of the configuration file: the named one, which has to be a file, or the default one if
it is there. -/
def find (files : Files) (cwd : String) : Option String → Except RunFault (Option String)
  | some named =>
    let path := joined cwd named
    if (files path).isFile then .ok (some path) else .error (.configNotFound path)
  | none =>
    let path := joined cwd defaultFile
    .ok (if (files path).isFile then some path else none)

def load (files : Files) (path : String) : Except RunFault Config := do
  let text ← (files path).text.mapError (.configUnreadable path)
  (ofText text).mapError (.configMalformed path)

end Config

def resolveOptions (args : Arguments) (config : Option Config) : Options :=
  let options := match config with
    | some config => config.planner
    | none => {}
  { validateSelection := options.validateSelection && !args.noValidateSelection
    offerDelegation := options.offerDelegation && !args.noDelegation }

end ConstructorPlanning.Command
