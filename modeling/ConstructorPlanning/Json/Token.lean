/-!
The tokens of JSON text. Scanning stops at the first character that begins no token; a stray token
marks the place, so that whatever stood before it can still be read.
-/
namespace ConstructorPlanning.Json

structure NumberText where
  negative : Bool := false
  /-- The digits before the point. -/
  whole : List Char
  /-- The digits after the point, if there is one. -/
  fraction : Option (List Char) := none
  /-- The exponent, if there is one: whether it is negative, and its digits. -/
  exponent : Option (Bool × List Char) := none
  deriving DecidableEq, Repr

/-- The characters of a string; nothing if an escape names half of a surrogate pair alone. -/
abbrev Quoted := Option (List Char)

inductive Token where
  | leftBrace
  | rightBrace
  | leftBracket
  | rightBracket
  | colon
  | comma
  | null
  | boolean (b : Bool)
  | number (n : NumberText)
  | string (s : Quoted)
  | stray
  deriving DecidableEq, Repr

/-- A piece of a string as written: a character, or an escaped UTF-16 unit. -/
inductive Piece where
  | char (c : Char)
  | unit (code : Nat)
  deriving DecidableEq, Repr

def hexUnit? (digits : List Char) : Option Nat :=
  digits.foldlM (fun code c =>
    let d := c.toNat
    if '0' ≤ c ∧ c ≤ '9' then some (16 * code + (d - '0'.toNat))
    else if 'a' ≤ c ∧ c ≤ 'f' then some (16 * code + (d - 'a'.toNat + 10))
    else if 'A' ≤ c ∧ c ≤ 'F' then some (16 * code + (d - 'A'.toNat + 10))
    else none) 0

def simpleEscape? : Char → Option Char
  | '"' => some '"'
  | '\\' => some '\\'
  | '/' => some '/'
  | 'b' => some '\x08'
  | 'f' => some '\x0c'
  | 'n' => some '\n'
  | 'r' => some '\r'
  | 't' => some '\t'
  | _ => none

/-- The pieces of a string up to its closing quote, and how many characters they take with the
quote. -/
def stringPieces? : List Char → Option (List Piece × Nat)
  | [] => none
  | '"' :: _ => some ([], 1)
  | '\\' :: 'u' :: a :: b :: c :: d :: rest => do
    let code ← hexUnit? [a, b, c, d]
    let (pieces, length) ← stringPieces? rest
    return (.unit code :: pieces, length + 6)
  | '\\' :: e :: rest => do
    let c ← simpleEscape? e
    let (pieces, length) ← stringPieces? rest
    return (.char c :: pieces, length + 2)
  | c :: rest =>
    if c.toNat < 0x20 ∨ c = '\\' then
      none
    else do
      let (pieces, length) ← stringPieces? rest
      return (.char c :: pieces, length + 1)

/-- The characters of the pieces. Two escaped units that form a surrogate pair give one character;
half a pair gives none. -/
def assembled : List Piece → Quoted
  | [] => some []
  | .char c :: rest => (assembled rest).map (c :: ·)
  | .unit high :: .unit low :: rest =>
    if 0xD800 ≤ high ∧ high ≤ 0xDBFF then
      if 0xDC00 ≤ low ∧ low ≤ 0xDFFF then
        (assembled rest).map (Char.ofNat (0x10000 + (high - 0xD800) * 0x400 + (low - 0xDC00)) :: ·)
      else
        none
    else if 0xDC00 ≤ high ∧ high ≤ 0xDFFF then
      none
    else
      (assembled (.unit low :: rest)).map (Char.ofNat high :: ·)
  | .unit code :: rest =>
    if 0xD800 ≤ code ∧ code ≤ 0xDFFF then none else (assembled rest).map (Char.ofNat code :: ·)

/-- The digits before the point: a lone zero, or digits that begin with another one. -/
def wholeDigits? (text : List Char) : Option (List Char) :=
  match text.takeWhile Char.isDigit with
  | [] => none
  | '0' :: _ :: _ => none
  | digits => some digits

/-- The digits after a point. A point without digits makes the number malformed. -/
def fractionDigits? : List Char → Option (Option (List Char))
  | '.' :: rest =>
    match rest.takeWhile Char.isDigit with
    | [] => none
    | digits => some (some digits)
  | _ => some none

/-- A sign in front of an exponent, whether it is negative, and what follows it. -/
def exponentSign : List Char → List Char × Bool × List Char
  | '+' :: rest => (['+'], false, rest)
  | '-' :: rest => (['-'], true, rest)
  | text => ([], false, text)

/-- The exponent and the number of its characters. A mark without digits makes the number malformed.
-/
def exponentDigits? : List Char → Option (Option (Bool × List Char) × Nat)
  | [] => some (none, 0)
  | mark :: rest =>
    if mark = 'e' ∨ mark = 'E' then
      let (sign, negative, rest) := exponentSign rest
      match rest.takeWhile Char.isDigit with
      | [] => none
      | digits => some (some (negative, digits), 1 + sign.length + digits.length)
    else
      some (none, 0)

/-- The number at the start of a text, and how many characters it takes. -/
def number? (text : List Char) : Option (NumberText × Nat) := do
  let negative := text.head? = some '-'
  let text := if negative then text.tail else text
  let whole ← wholeDigits? text
  let text := text.drop whole.length
  let fraction ← fractionDigits? text
  let fractionLength := match fraction with
    | some digits => digits.length + 1
    | none => 0
  let (exponent, exponentLength) ← exponentDigits? (text.drop fractionLength)
  let length := whole.length + fractionLength + exponentLength
  return (⟨negative, whole, fraction, exponent⟩, if negative then length + 1 else length)

/-- The token at the start of a text, and how many characters it takes. -/
def token? : List Char → Option (Token × Nat)
  | '\x7b' :: _ => some (.leftBrace, 1)
  | '\x7d' :: _ => some (.rightBrace, 1)
  | '[' :: _ => some (.leftBracket, 1)
  | ']' :: _ => some (.rightBracket, 1)
  | ':' :: _ => some (.colon, 1)
  | ',' :: _ => some (.comma, 1)
  | 'n' :: 'u' :: 'l' :: 'l' :: _ => some (.null, 4)
  | 't' :: 'r' :: 'u' :: 'e' :: _ => some (.boolean true, 4)
  | 'f' :: 'a' :: 'l' :: 's' :: 'e' :: _ => some (.boolean false, 5)
  | '"' :: rest =>
    (stringPieces? rest).map fun (pieces, length) => (.string (assembled pieces), length + 1)
  | text => (number? text).map fun (n, length) => (.number n, length)

def isSpace (c : Char) : Bool :=
  c = ' ' || c = '\n' || c = '\t' || c = '\r'

/-- The tokens of a text, once its first `skip` characters are passed over. -/
def tokensAfter : (skip : Nat) → List Char → List Token
  | _, [] => []
  | skip + 1, _ :: rest => tokensAfter skip rest
  | 0, c :: rest =>
    if isSpace c then
      tokensAfter 0 rest
    else
      match token? (c :: rest) with
      | some (t, length) => t :: tokensAfter (length - 1) rest
      | none => [.stray]

def tokens (text : List Char) : List Token :=
  tokensAfter 0 text

end ConstructorPlanning.Json
