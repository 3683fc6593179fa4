import ConstructorPlanning.Json.Draft
import ConstructorPlanning.Json.Fault
/-!
Reading shapes from drafts: strings, flags, bounded integers, lists, records and enumerations.

A record is an object with named fields in any order; fields that it does not declare are passed
over or refused. It may also be an array of its fields in the order in which they are declared. A
shape is read from left to right, so of two faults the one that stands first in the text is
reported, and a missing field at the end of its record.
-/
namespace ConstructorPlanning.Json

/-- Reads a value of a type from a draft. -/
abbrev Reader (α : Type) := Draft → Except Fault α

/-- What a draft shows to a reader that expects something else. -/
def Draft.found? : Draft → Option Found
  | .null => some .null
  | .boolean b => some (.boolean b)
  | .number n => (Numeric.ofText? n).map .number
  | .string s => s.map fun s => .string (String.ofList s)
  | .array _ _ => some .sequence
  | .object _ _ => some .map
  | .broken => none

def Draft.unexpected (d : Draft) (expected : String) : Fault :=
  match d.found? with
  | some found => .invalidType found expected
  | none => .malformed

namespace Reader

variable {α : Type}

def string : Reader String
  | .string (some s) => .ok (String.ofList s)
  | d => .error (d.unexpected "a string")

def boolean : Reader Bool
  | .boolean b => .ok b
  | d => .error (d.unexpected "a boolean")

/-- Reads an integer from zero up to `bound` without it; `name` is what a message calls such
integers. -/
def natural (name : String) (bound : Nat) : Reader Nat
  | .number n =>
    match Numeric.ofText? n with
    | some (.natural k) =>
      if k < bound then .ok k else .error (.invalidValue (.number (.natural k)) name)
    | some (.negative k) => .error (.invalidValue (.number (.negative k)) name)
    | some real => .error (.invalidType (.number real) name)
    | none => .error .malformed
  | d => .error (d.unexpected name)

def word32 : Reader UInt32 :=
  fun d => UInt32.ofNat <$> natural "u32" UInt32.size d

def position : Reader Nat :=
  natural "usize" UInt64.size

/-- Reads nothing from null, and a value from all else. -/
def optional (read : Reader α) : Reader (Option α)
  | .null => .ok none
  | d => some <$> read d

/-- Succeeds where a container ends with its bracket. -/
def checkEnding : Ending → Except Fault Unit
  | .closed => .ok ()
  | .cut => .error .malformed

def list (read : Reader α) : Reader (List α)
  | .array items ending => do
    let values ← items.mapM read
    checkEnding ending
    return values
  | d => .error (d.unexpected "a sequence")

/-- Reads a value that must be null. -/
def unit : Reader Unit
  | .null => .ok ()
  | d => .error (d.unexpected "unit")

/-- Finds a name among the variants. -/
def variant (variants : List (String × α)) (name : List Char) : Except Fault α :=
  match variants.lookup (String.ofList name) with
  | some value => .ok value
  | none => .error (.unknownVariant (String.ofList name) (variants.map (·.1)))

/-- Reads one of some named values: its name, or an object whose one key is the name and whose value
is null. -/
def enumeration (variants : List (String × α)) : Reader α
  | .string (some name) => variant variants name
  | .object ((some name, d) :: rest) ending => do
    let value ← variant variants name
    unit d
    if rest.isEmpty then
      checkEnding ending
      return value
    else
      .error .malformed
  | _ => .error .malformed

end Reader

structure RecordField (α : Type) where
  name : String
  /-- Whether the field has to be there. -/
  isRequired : Bool
  /-- Reads the field and says how the record takes it. -/
  read : Reader (α → α)

/-- A field that has to be there. -/
def RecordField.required {α β : Type} (name : String) (read : Reader β) (set : β → α → α) :
    RecordField α where
  name
  isRequired := true
  read d := set <$> read d

/-- A field that keeps the value of the blank record where it is left out. -/
def RecordField.defaulted {α β : Type} (name : String) (read : Reader β) (set : β → α → α) :
    RecordField α where
  name
  isRequired := false
  read d := set <$> read d

structure RecordShape (α : Type) where
  /-- What messages call the record. -/
  title : String
  fields : List (RecordField α)
  /-- The record before any field is read. -/
  blank : α
  /-- Whether an undeclared field is a fault. -/
  isClosed : Bool := false

namespace RecordShape

variable {α : Type}

def fieldNames (shape : RecordShape α) : List String :=
  shape.fields.map (·.name)

def field? (shape : RecordShape α) (name : String) : Option (RecordField α) :=
  shape.fields.find? (·.name = name)

/-- What a message expects of an array that is too short. -/
def arrayTitle (shape : RecordShape α) : String :=
  shape.title ++ " with " ++ Fault.counted "element" shape.fields.length

/-- Takes one entry of an object into a record; `seen` names the fields that were read before. -/
def takeEntry (shape : RecordShape α) (seen : List String) (record : α) (key : Quoted) (d : Draft) :
    Except Fault (List String × α) :=
  match key with
  | none => .error .malformed
  | some key =>
    let name := String.ofList key
    match shape.field? name with
    | none =>
      if shape.isClosed then .error (.unknownField name shape.fieldNames) else .ok (seen, record)
    | some field =>
      if seen.contains name then
        .error (.duplicateField name)
      else do
        let set ← field.read d
        return (name :: seen, set record)

def takeEntries (shape : RecordShape α) (seen : List String) (record : α) :
    List (Quoted × Draft) → Except Fault (List String × α)
  | [] => .ok (seen, record)
  | (key, d) :: rest => do
    let (seen, record) ← shape.takeEntry seen record key d
    shape.takeEntries seen record rest

def missing? (shape : RecordShape α) (seen : List String) : Option String :=
  (shape.fields.find? fun field => field.isRequired && !seen.contains field.name).map (·.name)

def readObject (shape : RecordShape α) (entries : List (Quoted × Draft)) (ending : Ending) :
    Except Fault α := do
  let (seen, record) ← shape.takeEntries [] shape.blank entries
  Reader.checkEnding ending
  match shape.missing? seen with
  | some name => .error (.missingField name)
  | none => return record

/-- Reads the fields of a record from array items in the order of the fields, and gives the number
of the items left over. Where the items run out, the rest of the fields must not be required. -/
def takeItems (shape : RecordShape α) (ending : Ending) (index : Nat) (record : α) :
    List (RecordField α) → List Draft → Except Fault (Nat × α)
  | [], items => .ok (items.length, record)
  | fields, [] => do
    Reader.checkEnding ending
    match fields.findIdx? (·.isRequired) with
    | some i => .error (.invalidLength (index + i) shape.arrayTitle)
    | none => return (0, record)
  | field :: fields, d :: items => do
    let set ← field.read d
    shape.takeItems ending (index + 1) (set record) fields items

def readArray (shape : RecordShape α) (items : List Draft) (ending : Ending) : Except Fault α := do
  let (surplus, record) ← shape.takeItems ending 0 shape.blank shape.fields items
  Reader.checkEnding ending
  if surplus = 0 then
    return record
  else
    .error (.surplusItems items.length shape.fields.length)

def read (shape : RecordShape α) : Reader α
  | .object entries ending => shape.readObject entries ending
  | .array items ending => shape.readArray items ending
  | d => .error (d.unexpected shape.title)

end RecordShape

/-- Reads a shape from a whole text, behind which only white space may follow. -/
def Reader.ofText {α : Type} (read : Reader α) (text : String) : Except Fault α := do
  let document := Document.ofText text
  let value ← read document.root
  if document.hasTrailing then .error .malformed else return value

end ConstructorPlanning.Json
