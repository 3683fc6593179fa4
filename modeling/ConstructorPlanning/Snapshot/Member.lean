/-!
Members declared on a type, as an analysis of the type reports them.
-/
namespace ConstructorPlanning

inductive MemberKind where
  | field
  | property
  | method
  | event
  | constant
  deriving DecidableEq, Repr

/-- A member declared directly on a type. -/
structure Member where
  name : String
  /-- The member's type, as the analysis spells it. -/
  type : String
  kind : MemberKind
  isStatic : Bool := false
  /-- Whether a constructor may assign the member. -/
  writable : Bool := true
  /-- Whether the compiler made the member, as it does for backing fields. -/
  implicitlyDeclared : Bool := false
  declarationOrder : UInt32
  deriving DecidableEq, Repr

namespace MemberKind

/-- Only fields and properties hold a value that a constructor can initialize. -/
def isInitializable : MemberKind → Bool
  | field | property => true
  | method | event | constant => false

end MemberKind

namespace Member

/-- A generated constructor may initialize the member: a writable instance field or property that is
written in the source. -/
def isViable (m : Member) : Bool :=
  !m.isStatic && !m.implicitlyDeclared && m.writable && m.kind.isInitializable

end Member

end ConstructorPlanning
