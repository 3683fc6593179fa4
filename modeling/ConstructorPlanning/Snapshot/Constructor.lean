/-!
Constructors that a type already has.
-/
namespace ConstructorPlanning

structure Parameter where
  name : String
  type : String
  /-- The member that the parameter is stored into, where the analysis knows it. -/
  member : Option String := none
  deriving DecidableEq, Repr

structure Constructor where
  declarationOrder : UInt32
  parameters : List Parameter := []
  /-- Names of the members that the constructor always initializes; a repeated name counts once. -/
  assignedMembers : List String := []
  /-- Whether the compiler supplied the constructor because the type declares none. -/
  implicitlyDeclared : Bool := false
  deriving DecidableEq, Repr

namespace Constructor

def isParameterless (c : Constructor) : Bool :=
  c.parameters.isEmpty

/-- A parameterless constructor that is written in the source. -/
def isExplicitParameterless (c : Constructor) : Bool :=
  c.isParameterless && !c.implicitlyDeclared

def assignedSet (c : Constructor) : List String :=
  c.assignedMembers.eraseDups

theorem mem_assignedSet {c : Constructor} {name : String} :
    name ∈ c.assignedSet ↔ name ∈ c.assignedMembers :=
  List.mem_eraseDups

/-- The assigned members without repetition, sorted by code point. -/
def sortedAssignedSet (c : Constructor) : List String :=
  c.assignedSet.mergeSort fun a b => a ≤ b

/-- Constructors in declaration order; those of equal order keep their places among each other. -/
def inOrder (constructors : List Constructor) : List Constructor :=
  constructors.mergeSort fun a b => a.declarationOrder ≤ b.declarationOrder

theorem inOrder_perm (constructors : List Constructor) :
    (inOrder constructors).Perm constructors :=
  List.mergeSort_perm ..

/-- The parameter types, as a title shows them. -/
def signature (c : Constructor) : String :=
  ", ".intercalate (c.parameters.map (·.type))

end Constructor

end ConstructorPlanning
