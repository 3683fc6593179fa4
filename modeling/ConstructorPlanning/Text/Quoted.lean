import ConstructorPlanning.Text.Legible
/-!
Text as a message shows it: between double quotes, with everything escaped that a reader could not
see or could mistake for the end of the text.
-/
namespace ConstructorPlanning.Text

/-- A code point in lower-case hexadecimal, without leading zeros. -/
def codeEscape (code : Nat) : List Char :=
  "\\u\x7b".toList ++ Nat.toDigits 16 code ++ ['\x7d']

/-- One character inside a quoted text; a single quote stands as it is. -/
def escaped (c : Char) : List Char :=
  match c with
  | '\x00' => ['\\', '0']
  | '\t' => ['\\', 't']
  | '\n' => ['\\', 'n']
  | '\r' => ['\\', 'r']
  | '\\' => ['\\', '\\']
  | '"' => ['\\', '"']
  | c => if isLegible c then [c] else codeEscape c.toNat

def quoted (text : String) : String :=
  String.ofList ('"' :: text.toList.flatMap escaped ++ ['"'])

end ConstructorPlanning.Text
