/-!
JSON values to be written, and their two layouts: compact, and indented by two spaces a level.
Objects keep the order of their entries; numbers are naturals.
-/
namespace ConstructorPlanning

inductive Json where
  | null
  | boolean (b : Bool)
  | natural (n : Nat)
  | string (s : String)
  | array (items : List Json)
  | object (entries : List (String × Json))
  deriving Repr

namespace Json

/-- A character inside a string: quotes, backslashes and controls are escaped, all else stands as it
is. -/
def escapedChar (c : Char) : List Char :=
  match c with
  | '"' => ['\\', '"']
  | '\\' => ['\\', '\\']
  | '\x08' => ['\\', 'b']
  | '\t' => ['\\', 't']
  | '\n' => ['\\', 'n']
  | '\x0c' => ['\\', 'f']
  | '\r' => ['\\', 'r']
  | c =>
    if c.toNat < 0x20 then
      ['\\', 'u', '0', '0', Nat.digitChar (c.toNat / 16), Nat.digitChar (c.toNat % 16)]
    else
      [c]

def stringText (s : String) : List Char :=
  '"' :: s.toList.flatMap escapedChar ++ ['"']

def leafText : Json → List Char
  | boolean true => "true".toList
  | boolean false => "false".toList
  | natural n => Nat.toDigits 10 n
  | string s => stringText s
  | _ => "null".toList

mutual

def compactChars : Json → List Char
  | array items => '[' :: compactItems items ++ [']']
  | object entries => '\x7b' :: compactEntries entries ++ ['\x7d']
  | leaf => leafText leaf

def compactItems : List Json → List Char
  | [] => []
  | [item] => compactChars item
  | item :: rest => compactChars item ++ ',' :: compactItems rest

def compactEntries : List (String × Json) → List Char
  | [] => []
  | [(key, v)] => stringText key ++ ':' :: compactChars v
  | (key, v) :: rest => stringText key ++ ':' :: compactChars v ++ ',' :: compactEntries rest

end

def newLine (level : Nat) : List Char :=
  '\n' :: List.replicate (2 * level) ' '

mutual

/-- The indented text of a value that stands at a level. Empty containers take no line of their own.
-/
def prettyChars (level : Nat) : Json → List Char
  | array [] => ['[', ']']
  | array (item :: rest) =>
    '[' :: newLine (level + 1) ++ prettyChars (level + 1) item ++ prettyItems (level + 1) rest
      ++ newLine level ++ [']']
  | object [] => ['\x7b', '\x7d']
  | object ((key, v) :: rest) =>
    '\x7b' :: newLine (level + 1) ++ stringText key ++ ':' :: ' ' :: prettyChars (level + 1) v
      ++ prettyEntries (level + 1) rest ++ newLine level ++ ['\x7d']
  | leaf => leafText leaf

/-- Further items, each after a comma and on its own line. -/
def prettyItems (level : Nat) : List Json → List Char
  | [] => []
  | item :: rest => ',' :: newLine level ++ prettyChars level item ++ prettyItems level rest

/-- Further entries, each after a comma and on its own line. -/
def prettyEntries (level : Nat) : List (String × Json) → List Char
  | [] => []
  | (key, v) :: rest =>
    ',' :: newLine level ++ stringText key ++ ':' :: ' ' :: prettyChars level v
      ++ prettyEntries level rest

end

/-- The value on one line, without spaces. -/
def compact (v : Json) : String :=
  String.ofList (compactChars v)

/-- The value with each item and each entry on its own line. -/
def pretty (v : Json) : String :=
  String.ofList (prettyChars 0 v)

def optionalString : Option String → Json
  | some s => string s
  | none => null

def strings (items : List String) : Json :=
  array (items.map string)

end Json

end ConstructorPlanning
