/-!
Terminal colours. A styled text is enclosed in the style's start sequence and a reset; a reset
inside the text is followed by the start sequence again, so that the style goes on behind it.
-/
namespace ConstructorPlanning.Command

/-- A style, by the sequence that starts it. -/
structure Style where
  start : List Char

namespace Style

/-- The sequence that ends every style. -/
def reset : List Char := "\x1b[0m".toList

def boldGreen : Style := ⟨"\x1b[1;32m".toList⟩

def dimmed : Style := ⟨"\x1b[2m".toList⟩

/-- The text with the style started anew after each reset in it. -/
def resumed (style : Style) : List Char → List Char
  | '\x1b' :: '[' :: '0' :: 'm' :: rest => reset ++ style.start ++ style.resumed rest
  | c :: rest => c :: style.resumed rest
  | [] => []

def paint (style : Style) (text : String) : String :=
  String.ofList (style.start ++ style.resumed text.toList ++ reset)

def paintIf (style : Style) (color : Bool) (text : String) : String :=
  if color then style.paint text else text

end Style

end ConstructorPlanning.Command
