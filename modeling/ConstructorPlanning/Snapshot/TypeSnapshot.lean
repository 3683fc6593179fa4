import ConstructorPlanning.Snapshot.Constructor
import ConstructorPlanning.Snapshot.Member
/-!
A type as an analysis sees it at one moment: its own members and its constructors. Declaration order
is part of each member and constructor; the order of the two lists decides only between those of
equal order and between those of equal name.
-/
namespace ConstructorPlanning

inductive TypeKind where
  | classType
  | structType
  | interfaceType
  | enumType
  | delegateType
  deriving DecidableEq, Repr

namespace TypeKind

/-- Only classes and structs declare instance constructors. -/
def supportsConstructors : TypeKind → Bool
  | classType | structType => true
  | interfaceType | enumType | delegateType => false

end TypeKind

/-- A named type with the members and constructors declared on it. -/
structure TypeSnapshot where
  name : String
  kind : TypeKind
  isStatic : Bool := false
  members : List Member := []
  constructors : List Constructor := []
  deriving DecidableEq, Repr

namespace TypeSnapshot

/-- The first member of a name. -/
def member? (t : TypeSnapshot) (name : String) : Option Member :=
  t.members.find? (·.name = name)

/-- The members that a generated constructor may initialize, in declaration order; members of equal
order keep the order of the snapshot. -/
def viableMembers (t : TypeSnapshot) : List Member :=
  (t.members.filter Member.isViable).mergeSort fun a b => a.declarationOrder ≤ b.declarationOrder

def explicitParameterless? (t : TypeSnapshot) : Option Constructor :=
  t.constructors.find? Constructor.isExplicitParameterless

end TypeSnapshot

structure TypeCatalog where
  types : List TypeSnapshot := []
  deriving DecidableEq, Repr

namespace TypeCatalog

/-- The first type of a name. -/
def get? (catalog : TypeCatalog) (name : String) : Option TypeSnapshot :=
  catalog.types.find? (·.name = name)

def typeNames (catalog : TypeCatalog) : List String :=
  catalog.types.map (·.name)

end TypeCatalog

end ConstructorPlanning
