/-!
The command line: a snapshot file, options with a value, and flags.

Words are taken in from left to right. An option or the snapshot is checked when the next of them is
begun, and at the end; a word that cannot be placed at all is refused at once, before what is still
unchecked.
-/
namespace ConstructorPlanning.Command

/-- Why the arguments are not accepted; a request for help or for the version counts as such. -/
inductive UsageFault where
  | missingRequiredArgument
  | unknownArgument
  | invalidValue
  | argumentConflict
  | tooManyValues
  | displayHelp
  | displayVersion
  deriving DecidableEq, Repr

inductive OutputFormat where
  | text
  | json
  deriving DecidableEq, Repr

structure Arguments where
  /-- The file of type snapshots. -/
  snapshot : String
  /-- The type to plan constructors for. -/
  typeName : String
  /-- The members to initialize, in order; without any, all viable ones. -/
  members : List String := []
  format : OutputFormat := .text
  config : Option String := none
  noValidateSelection : Bool := false
  noDelegation : Bool := false
  noColor : Bool := false
  /-- How often more logging was asked for, up to 255. -/
  verbose : Nat := 0
  deriving DecidableEq, Repr

/-- What takes a value on the command line. -/
inductive Slot where
  | snapshot
  | typeName
  | member
  | format
  | config
  deriving DecidableEq, Repr

inductive Flag where
  | noValidateSelection
  | noDelegation
  | noColor
  | verbose
  | help
  | version
  deriving DecidableEq, Repr

/-- What a name on the command line stands for. -/
inductive Switch where
  | option (slot : Slot)
  | flag (flag : Flag)
  deriving DecidableEq, Repr

def longSwitch? : String → Option Switch
  | "type" => some (.option .typeName)
  | "member" => some (.option .member)
  | "format" => some (.option .format)
  | "config" => some (.option .config)
  | "no-validate-selection" => some (.flag .noValidateSelection)
  | "no-delegation" => some (.flag .noDelegation)
  | "no-color" => some (.flag .noColor)
  | "verbose" => some (.flag .verbose)
  | "help" => some (.flag .help)
  | "version" => some (.flag .version)
  | _ => none

def shortSwitch? : Char → Option Switch
  | 't' => some (.option .typeName)
  | 'm' => some (.option .member)
  | 'c' => some (.option .config)
  | 'v' => some (.flag .verbose)
  | 'h' => some (.flag .help)
  | 'V' => some (.flag .version)
  | _ => none

inductive Word where
  /-- Everything behind it is a plain word. -/
  | separator
  | long (name : String) (attached : Option String)
  | letters (letters : List Char)
  | plain
  deriving DecidableEq, Repr

/-- The form of a word. A long name ends at the first equals sign; a lone dash is plain. -/
def Word.ofString (word : String) : Word :=
  match word.toList with
  | ['-', '-'] => separator
  | '-' :: '-' :: rest =>
    let name := rest.takeWhile (· != '=')
    let attached := match rest.dropWhile (· != '=') with
      | [] => none
      | _ :: value => some (String.ofList value)
    long (String.ofList name) attached
  | '-' :: c :: rest => letters (c :: rest)
  | _ => plain

structure Taken where
  snapshot : Option String := none
  typeName : Option String := none
  members : List String := []
  format : Option OutputFormat := none
  config : Option String := none
  noValidateSelection : Bool := false
  noDelegation : Bool := false
  noColor : Bool := false
  verbose : Nat := 0
  deriving DecidableEq, Repr

namespace Taken

def format? : String → Option OutputFormat
  | "text" => some .text
  | "json" => some .json
  | _ => none

/-- Takes a value in. Only members may be given more than once; paths must not be empty. -/
def value (taken : Taken) (value : String) : Slot → Except UsageFault Taken
  | .snapshot =>
    if value.isEmpty then .error .invalidValue else .ok { taken with snapshot := some value }
  | .typeName =>
    if taken.typeName.isSome then .error .argumentConflict
    else .ok { taken with typeName := some value }
  | .member => .ok { taken with members := taken.members ++ [value] }
  | .format =>
    if taken.format.isSome then .error .argumentConflict
    else match format? value with
      | some format => .ok { taken with format := some format }
      | none => .error .invalidValue
  | .config =>
    if taken.config.isSome then .error .argumentConflict
    else if value.isEmpty then .error .invalidValue
    else .ok { taken with config := some value }

/-- Takes a flag in. Only the logging flag may be given more than once. -/
def flag (taken : Taken) : Flag → Except UsageFault Taken
  | .noValidateSelection =>
    if taken.noValidateSelection then .error .argumentConflict
    else .ok { taken with noValidateSelection := true }
  | .noDelegation =>
    if taken.noDelegation then .error .argumentConflict
    else .ok { taken with noDelegation := true }
  | .noColor =>
    if taken.noColor then .error .argumentConflict else .ok { taken with noColor := true }
  | .verbose => .ok { taken with verbose := min (taken.verbose + 1) 255 }
  | .help => .error .displayHelp
  | .version => .error .displayVersion

/-- The arguments, if the snapshot and the type are among them. -/
def complete (taken : Taken) : Except UsageFault Arguments :=
  match taken.snapshot, taken.typeName with
  | some snapshot, some typeName => .ok {
      snapshot, typeName
      members := taken.members
      format := taken.format.getD .text
      config := taken.config
      noValidateSelection := taken.noValidateSelection
      noDelegation := taken.noDelegation
      noColor := taken.noColor
      verbose := taken.verbose }
  | _, _ => .error .missingRequiredArgument

end Taken

/-- The state between two words. -/
structure Progress where
  taken : Taken := {}
  /-- The option or snapshot begun last, with its value once that has come, as long as it is
  unchecked. -/
  pending : Option (Slot × Option String) := none
  /-- Whether a snapshot was begun. -/
  hasSnapshot : Bool := false
  /-- Whether a separator was met. -/
  onlyPlain : Bool := false
  deriving DecidableEq, Repr

namespace Progress

/-- Checks and takes in what is pending; an option without its value is refused. -/
def settle (p : Progress) : Except UsageFault Progress :=
  match p.pending with
  | none => .ok p
  | some (_, none) => .error .invalidValue
  | some (slot, some value) => do
    let taken ← p.taken.value value slot
    return { p with taken, pending := none }

def begin (p : Progress) (slot : Slot) : Except UsageFault Progress := do
  let p ← p.settle
  return { p with pending := some (slot, none) }

def attach (p : Progress) (slot : Slot) (value : String) : Except UsageFault Progress := do
  let p ← p.settle
  let taken ← p.taken.value value slot
  return { p with taken }

def flag (p : Progress) (flag : Flag) : Except UsageFault Progress := do
  let p ← p.settle
  let taken ← p.taken.flag flag
  return { p with taken }

def long (p : Progress) (name : String) (attached : Option String) : Except UsageFault Progress :=
  match longSwitch? name, attached with
  | none, _ => .error .unknownArgument
  | some (.option slot), none => p.begin slot
  | some (.option slot), some value => p.attach slot value
  | some (.flag f), none => p.flag f
  | some (.flag _), some _ => .error .tooManyValues

/-- The value attached to a letter, with or without an equals sign between them. -/
def attachedValue : List Char → String
  | '=' :: value => String.ofList value
  | value => String.ofList value

/-- Takes in letters behind one dash: flags, then at most one option with what follows it as its
value. -/
def letters (p : Progress) : List Char → Except UsageFault Progress
  | [] => .ok p
  | c :: rest =>
    match shortSwitch? c with
    | none => .error .unknownArgument
    | some (.flag f) => do
      let p ← p.flag f
      p.letters rest
    | some (.option slot) =>
      if rest.isEmpty then p.begin slot else p.attach slot (attachedValue rest)

/-- Takes in a word that is no option: the snapshot, unless there is one. -/
def positional (p : Progress) (word : String) : Except UsageFault Progress :=
  if p.hasSnapshot then
    .error .unknownArgument
  else do
    let p ← p.settle
    return { p with pending := some (.snapshot, some word), hasSnapshot := true }

/-- Takes in a plain word: the value of an option that waits for it, or a positional word. -/
def plain (p : Progress) (word : String) : Except UsageFault Progress :=
  match p.pending with
  | some (slot, none) => .ok { p with pending := some (slot, some word) }
  | _ => p.positional word

def word (p : Progress) (word : String) : Except UsageFault Progress :=
  if p.onlyPlain then
    p.positional word
  else
    match Word.ofString word with
    | .separator => .ok { p with onlyPlain := true }
    | .long name attached => p.long name attached
    | .letters letters => p.letters letters
    | .plain => p.plain word

end Progress

def Arguments.ofWords (words : List String) : Except UsageFault Arguments := do
  let p ← words.foldlM Progress.word {}
  let p ← p.settle
  p.taken.complete

end ConstructorPlanning.Command
