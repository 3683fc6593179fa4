import ConstructorPlanning.Json.Draft
/-!
Which texts spell a value. White space may stand around every value and every key, and nowhere
else. The grammar says nothing of how a text is scanned.
-/
namespace ConstructorPlanning.Json

section Numbers

/-- At least one digit. -/
def IsDigits (ds : List Char) : Prop :=
  ds ≠ [] ∧ ∀ c ∈ ds, c.isDigit

/-- The digits before the point. Only a lone zero begins with a zero. -/
inductive WholeText : List Char → Prop where
  | zero : WholeText ['0']
  | digits {d : Char} {ds : List Char} (hd : d.isDigit) (hzero : d ≠ '0')
      (hds : ∀ c ∈ ds, c.isDigit) : WholeText (d :: ds)

inductive FractionText : Option (List Char) → List Char → Prop where
  | absent : FractionText none []
  | present {ds : List Char} (hds : IsDigits ds) : FractionText (some ds) ('.' :: ds)

inductive ExponentText : Option (Bool × List Char) → List Char → Prop where
  | absent : ExponentText none []
  | bare {mark : Char} {ds : List Char} (hmark : mark = 'e' ∨ mark = 'E') (hds : IsDigits ds) :
    ExponentText (some (false, ds)) (mark :: ds)
  | plus {mark : Char} {ds : List Char} (hmark : mark = 'e' ∨ mark = 'E') (hds : IsDigits ds) :
    ExponentText (some (false, ds)) (mark :: '+' :: ds)
  | minus {mark : Char} {ds : List Char} (hmark : mark = 'e' ∨ mark = 'E') (hds : IsDigits ds) :
    ExponentText (some (true, ds)) (mark :: '-' :: ds)

inductive NumeralText : NumberText → List Char → Prop where
  | positive {whole f e : List Char} {fraction : Option (List Char)}
      {exponent : Option (Bool × List Char)} (hwhole : WholeText whole)
      (hfraction : FractionText fraction f) (hexponent : ExponentText exponent e) :
    NumeralText ⟨false, whole, fraction, exponent⟩ (whole ++ (f ++ e))
  | negative {whole f e : List Char} {fraction : Option (List Char)}
      {exponent : Option (Bool × List Char)} (hwhole : WholeText whole)
      (hfraction : FractionText fraction f) (hexponent : ExponentText exponent e) :
    NumeralText ⟨true, whole, fraction, exponent⟩ ('-' :: (whole ++ (f ++ e)))

end Numbers

section Strings

/-- Every character may be escaped, and some have to be. -/
inductive PiecesText : List Piece → List Char → Prop where
  | nil : PiecesText [] []
  | plain {c : Char} {pieces : List Piece} {text : List Char} (hquote : c ≠ '"') (hslash : c ≠ '\\')
      (hcontrol : 0x20 ≤ c.toNat) (rest : PiecesText pieces text) :
    PiecesText (.char c :: pieces) (c :: text)
  | escape {e c : Char} {pieces : List Piece} {text : List Char} (he : simpleEscape? e = some c)
      (rest : PiecesText pieces text) : PiecesText (.char c :: pieces) ('\\' :: e :: text)
  | unit {a b c d : Char} {code : Nat} {pieces : List Piece} {text : List Char}
      (hcode : hexUnit? [a, b, c, d] = some code) (rest : PiecesText pieces text) :
    PiecesText (.unit code :: pieces) ('\\' :: 'u' :: a :: b :: c :: d :: text)

inductive QuotedText : Quoted → List Char → Prop where
  | quoted {pieces : List Piece} {text : List Char} (h : PiecesText pieces text) :
    QuotedText (assembled pieces) ('"' :: (text ++ ['"']))

end Strings

section Values

def Blank (text : List Char) : Prop :=
  ∀ c ∈ text, isSpace c

mutual

inductive Spells : Draft → List Char → Prop where
  | null : Spells .null "null".toList
  | true : Spells (.boolean true) "true".toList
  | false : Spells (.boolean false) "false".toList
  | number {n : NumberText} {text : List Char} (h : NumeralText n text) : Spells (.number n) text
  | string {s : Quoted} {text : List Char} (h : QuotedText s text) : Spells (.string s) text
  | emptyArray {blank : List Char} (h : Blank blank) :
    Spells (.array [] .closed) ('[' :: (blank ++ [']']))
  | array {items : List Draft} {text : List Char} (h : SpellsItems items text) :
    Spells (.array items .closed) ('[' :: (text ++ [']']))
  | emptyObject {blank : List Char} (h : Blank blank) :
    Spells (.object [] .closed) ('\x7b' :: (blank ++ ['\x7d']))
  | object {entries : List (Quoted × Draft)} {text : List Char} (h : SpellsEntries entries text) :
    Spells (.object entries .closed) ('\x7b' :: (text ++ ['\x7d']))
  | spaced {d : Draft} {before text after : List Char} (hbefore : Blank before) (h : Spells d text)
      (hafter : Blank after) : Spells d (before ++ (text ++ after))

/-- Items with commas between them. -/
inductive SpellsItems : List Draft → List Char → Prop where
  | one {d : Draft} {text : List Char} (h : Spells d text) : SpellsItems [d] text
  | more {d : Draft} {items : List Draft} {text rest : List Char} (h : Spells d text)
      (hrest : SpellsItems items rest) : SpellsItems (d :: items) (text ++ ',' :: rest)

inductive SpellsEntry : Quoted × Draft → List Char → Prop where
  | entry {key : Quoted} {d : Draft} {before keyText after text : List Char}
      (hbefore : Blank before) (hkey : QuotedText key keyText) (hafter : Blank after)
      (h : Spells d text) : SpellsEntry (key, d) (before ++ (keyText ++ (after ++ ':' :: text)))

/-- Entries with commas between them. -/
inductive SpellsEntries : List (Quoted × Draft) → List Char → Prop where
  | one {entry : Quoted × Draft} {text : List Char} (h : SpellsEntry entry text) :
    SpellsEntries [entry] text
  | more {entry : Quoted × Draft} {entries : List (Quoted × Draft)} {text rest : List Char}
      (h : SpellsEntry entry text) (hrest : SpellsEntries entries rest) :
    SpellsEntries (entry :: entries) (text ++ ',' :: rest)

end

end Values

end ConstructorPlanning.Json
