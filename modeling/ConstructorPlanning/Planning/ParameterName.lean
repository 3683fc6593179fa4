import ConstructorPlanning.Text.Alphanumeric
import ConstructorPlanning.Text.LetterCase
/-!
Names of generated parameters. A member name is read as a sequence of words, its maximal runs of
letters and numerals, and written in lower camel case: `First_Name` and `FirstName` both give
`firstName`. Names that would coincide within one list are told apart by a number after the name.
-/
namespace ConstructorPlanning.ParameterName

/-- The maximal runs of letters and numerals of a text. -/
def words (text : List Char) : List (List Char) :=
  (text.splitOnP fun c => !Text.isAlphanumeric c).filter (!·.isEmpty)

def headRecased (recase : Char → List Char) : List Char → List Char
  | [] => []
  | c :: rest => recase c ++ rest

/-- Words in lower camel case: the first begins in lower case, every later one in upper case. -/
def lowerCamel : List (List Char) → List Char
  | [] => []
  | first :: rest => headRecased Text.lowered first ++ rest.flatMap (headRecased Text.uppered)

/-- A name that an identifier may be: `value` where there is none, and an underscore before a
numeral. -/
def identifier : List Char → List Char
  | [] => "value".toList
  | c :: rest => if Text.isNumeral c then '_' :: c :: rest else c :: rest

/-- The parameter name for a member of the given name, before others of its list are looked at. -/
def ofMember (name : String) : String :=
  String.ofList (identifier (lowerCamel (words name.toList)))

def numbered (base : String) (n : Nat) : String :=
  base ++ toString n

/-- The least number from `n` on whose numbered name is not occupied, among the next `bound`
numbers. The program counts with 32 bits, which is the same search in every list shorter than
2 ^ 32: see `numbering_ends`. -/
def freeNumber (occupied : List String) (base : String) : (bound n : Nat) → Nat
  | 0, n => n
  | bound + 1, n =>
    if occupied.contains (numbered base n) then freeNumber occupied base bound (n + 1) else n

/-- An entry of a list of names: what it would be called alone, and what it is called in the list.
-/
structure Naming where
  base : String
  name : String
  deriving DecidableEq, Repr

/-- The name of the entry that follows `before` in a list with the given bases. The first owner of a
base gets it bare. A later one gets the least free number from 2 on, where a name is occupied if it
is a base of the list or the name of an entry before. As many numbers as the list has entries always
suffice, so that a counter of 32 bits, as the program has it, does not overflow on lists shorter
than 2 ^ 32: see `numbering_ends`. -/
def Naming.next (bases : List String) (before : List Naming) (base : String) : Naming :=
  if before.any (·.base = base) then
    let occupied := bases ++ before.map (·.name)
    ⟨base, numbered base (freeNumber occupied base bases.length 2)⟩
  else
    ⟨base, base⟩

/-- The entries for the bases in `rest`, which follow `before` in a list with the given bases. -/
def namingsAfter (bases : List String) (before : List Naming) : List String → List Naming
  | [] => []
  | base :: rest =>
    let naming := Naming.next bases before base
    naming :: namingsAfter bases (before ++ [naming]) rest

/-- The entries of a list of bases; their names are pairwise distinct. -/
def namings (bases : List String) : List Naming :=
  namingsAfter bases [] bases

theorem map_base_namingsAfter (bases : List String) (before : List Naming) (rest : List String) :
    (namingsAfter bases before rest).map (·.base) = rest := by
  induction rest generalizing before with
  | nil => rfl
  | cons base rest ih =>
    rw [namingsAfter, List.map_cons, ih]
    congr 1
    unfold Naming.next
    split <;> rfl

theorem map_base_namings (bases : List String) : (namings bases).map (·.base) = bases :=
  map_base_namingsAfter bases [] bases

def ofMembers (memberNames : List String) : List Naming :=
  namings (memberNames.map ofMember)

end ConstructorPlanning.ParameterName
