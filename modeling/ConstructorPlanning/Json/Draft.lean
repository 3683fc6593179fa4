import ConstructorPlanning.Json.Token
/-!
JSON text as far as it can be read. A draft is a tree whose objects keep their entries in order,
repeated keys included, and in which a broken place cuts off everything behind it. Reading a shape
from the tree from left to right meets the faults of the text and those of the shape in the order of
the text.
-/
namespace ConstructorPlanning.Json

/-- How an array or an object ends: with its bracket, or cut off at a token that does not belong
there or at the end of the text. -/
inductive Ending where
  | closed
  | cut
  deriving DecidableEq, Repr

/-- A value as far as it could be read. -/
inductive Draft where
  | null
  | boolean (b : Bool)
  | number (n : NumberText)
  | string (s : Quoted)
  | array (items : List Draft) (ending : Ending)
  | object (entries : List (Quoted × Draft)) (ending : Ending)
  /-- No value begins here. -/
  | broken
  deriving Repr

namespace Draft

/-- A container that is still open, with what it holds so far in reverse. An open object waits for
the value of its last key. -/
inductive Frame where
  | array (items : List Draft)
  | object (entries : List (Quoted × Draft)) (key : Quoted)

inductive Expecting where
  | value
  | itemOrEnd
  | keyOrEnd
  | key (entries : List (Quoted × Draft))
  | colon (entries : List (Quoted × Draft)) (key : Quoted)
  | afterItem (items : List Draft)
  | afterEntry (entries : List (Quoted × Draft))

/-- The draft of the whole, when the innermost value cannot be read to its end. -/
def cutOff (inner : Draft) : List Frame → Draft
  | [] => inner
  | .array items :: stack => cutOff (.array (inner :: items).reverse .cut) stack
  | .object entries key :: stack =>
    cutOff (.object ((key, inner) :: entries).reverse .cut) stack

def fail (expecting : Expecting) (stack : List Frame) : Draft :=
  match expecting with
  | .value => cutOff .broken stack
  | .itemOrEnd => cutOff (.array [.broken] .cut) stack
  | .keyOrEnd => cutOff (.object [] .cut) stack
  | .key entries | .afterEntry entries => cutOff (.object entries.reverse .cut) stack
  | .colon entries key => cutOff (.object ((key, .broken) :: entries).reverse .cut) stack
  | .afterItem items => cutOff (.array items.reverse .cut) stack

/-- Reads one value; when it is complete, the draft and the tokens behind it are the answer. -/
def build : Expecting → List Frame → List Token → Draft × List Token
  | expecting, stack, [] => (fail expecting stack, [])
  | expecting, stack, t :: ts =>
    let complete (d : Draft) (stack : List Frame) : Draft × List Token :=
      match stack with
      | [] => (d, ts)
      | .array items :: stack => build (.afterItem (d :: items)) stack ts
      | .object entries key :: stack => build (.afterEntry ((key, d) :: entries)) stack ts
    let value (stack : List Frame) : Draft × List Token :=
      match t with
      | .null => complete .null stack
      | .boolean b => complete (.boolean b) stack
      | .number n => complete (.number n) stack
      | .string s => complete (.string s) stack
      | .leftBracket => build .itemOrEnd stack ts
      | .leftBrace => build .keyOrEnd stack ts
      | _ => (cutOff .broken stack, [])
    match expecting, t with
    | .value, _ => value stack
    | .itemOrEnd, .rightBracket => complete (.array [] .closed) stack
    | .itemOrEnd, _ => value (.array [] :: stack)
    | .keyOrEnd, .rightBrace => complete (.object [] .closed) stack
    | .keyOrEnd, .string key => build (.colon [] key) stack ts
    | .key entries, .string key => build (.colon entries key) stack ts
    | .colon entries key, .colon => build .value (.object entries key :: stack) ts
    | .afterItem items, .comma => build .value (.array items :: stack) ts
    | .afterItem items, .rightBracket => complete (.array items.reverse .closed) stack
    | .afterEntry entries, .comma => build (.key entries) stack ts
    | .afterEntry entries, .rightBrace => complete (.object entries.reverse .closed) stack
    | _, _ => (fail expecting stack, [])

def ofTokens (tokens : List Token) : Draft × List Token :=
  build .value [] tokens

end Draft

/-- A whole text: one value, and whether anything else but white space follows it. -/
structure Document where
  root : Draft
  hasTrailing : Bool

def Document.ofText (text : String) : Document :=
  let (root, rest) := Draft.ofTokens (tokens text.toList)
  ⟨root, !rest.isEmpty⟩

end ConstructorPlanning.Json
