import ConstructorPlanning.Text.LetterCase
/-!
How much is logged, and in which layout. The environment may give a level or directives and wins
over the command line, which can only count.
-/
namespace ConstructorPlanning

namespace Text

/-- White space, as the Unicode property White_Space has it. -/
def isBlank (c : Char) : Bool :=
  let code := c.toNat
  (0x09 ≤ code && code ≤ 0x0D) || (0x2000 ≤ code && code ≤ 0x200A)
    || [0x20, 0x85, 0xA0, 0x1680, 0x2028, 0x2029, 0x202F, 0x205F, 0x3000].contains code

/-- The text without the blanks at its two ends. -/
def trimmed (text : List Char) : List Char :=
  ((text.dropWhile isBlank).reverse.dropWhile isBlank).reverse

end Text

namespace Command

inductive LogFormat where
  | text
  | tree
  | json
  deriving DecidableEq, Repr

/-- The layout of a name, whatever its case and the blanks around it; other names stand for text. -/
def LogFormat.ofName (name : String) : LogFormat :=
  match String.ofList ((Text.trimmed name.toList).flatMap Text.lowered) with
  | "tree" => tree
  | "json" => json
  | _ => text

/-- A level for both parts of the program. -/
def scopedLevel (level : String) : String :=
  ",".intercalate (["ctorgen_core", "ctorgen_cli"].map fun target => target ++ "=" ++ level)

/-- The directives from the value of the environment, if any, and the count of the command line;
nothing if logging stays off. Directives of the environment are taken as they are, a bare level is
scoped. -/
def filterDirectives (environment : Option String) (verbose : Nat) : Option String :=
  let value := Text.trimmed ((environment.getD "").toList)
  if value.isEmpty then
    match verbose with
    | 0 => none
    | 1 => some (scopedLevel "debug")
    | _ => some (scopedLevel "trace")
  else if value.contains '=' || value.contains ',' then
    some (String.ofList value)
  else
    some (scopedLevel (String.ofList value))

end Command

end ConstructorPlanning
