import ConstructorPlanning.Json.Shape
import ConstructorPlanning.Json.Value
import ConstructorPlanning.Snapshot.TypeSnapshot
/-!
The JSON form of snapshots. Every field is written, the optional annotation of a parameter only
where it is there; read, a field may be left out where the record has a default for it.
-/
namespace ConstructorPlanning

open Json

namespace MemberKind

def name : MemberKind → String
  | field => "field"
  | property => "property"
  | method => "method"
  | event => "event"
  | constant => "constant"

def all : List MemberKind :=
  [field, property, method, event, constant]

def read : Reader MemberKind :=
  Reader.enumeration (all.map fun kind => (kind.name, kind))

end MemberKind

namespace TypeKind

def name : TypeKind → String
  | classType => "class"
  | structType => "struct"
  | interfaceType => "interface"
  | enumType => "enum"
  | delegateType => "delegate"

def all : List TypeKind :=
  [classType, structType, interfaceType, enumType, delegateType]

def read : Reader TypeKind :=
  Reader.enumeration (all.map fun kind => (kind.name, kind))

end TypeKind

namespace Member

def toJson (m : Member) : Json :=
  .object [
    ("name", .string m.name),
    ("type", .string m.type),
    ("kind", .string m.kind.name),
    ("isStatic", .boolean m.isStatic),
    ("writable", .boolean m.writable),
    ("implicitlyDeclared", .boolean m.implicitlyDeclared),
    ("declarationOrder", .natural m.declarationOrder.toNat)]

def shape : RecordShape Member where
  title := "struct Member"
  blank := { name := "", type := "", kind := .field, declarationOrder := 0 }
  fields := [
    .required "name" Reader.string fun v m => { m with name := v },
    .required "type" Reader.string fun v m => { m with type := v },
    .required "kind" MemberKind.read fun v m => { m with kind := v },
    .defaulted "isStatic" Reader.boolean fun v m => { m with isStatic := v },
    .defaulted "writable" Reader.boolean fun v m => { m with writable := v },
    .defaulted "implicitlyDeclared" Reader.boolean fun v m => { m with implicitlyDeclared := v },
    .required "declarationOrder" Reader.word32 fun v m => { m with declarationOrder := v }]

def read : Reader Member :=
  shape.read

end Member

namespace Parameter

def toJson (p : Parameter) : Json :=
  .object <| [("name", .string p.name), ("type", .string p.type)]
    ++ (p.member.map fun m => ("member", .string m)).toList

def shape : RecordShape Parameter where
  title := "struct Parameter"
  blank := { name := "", type := "" }
  fields := [
    .required "name" Reader.string fun v p => { p with name := v },
    .required "type" Reader.string fun v p => { p with type := v },
    .defaulted "member" (Reader.optional Reader.string) fun v p => { p with member := v }]

def read : Reader Parameter :=
  shape.read

end Parameter

namespace Constructor

def toJson (c : Constructor) : Json :=
  .object [
    ("declarationOrder", .natural c.declarationOrder.toNat),
    ("parameters", .array (c.parameters.map Parameter.toJson)),
    ("assignedMembers", Json.strings c.assignedMembers),
    ("implicitlyDeclared", .boolean c.implicitlyDeclared)]

def shape : RecordShape Constructor where
  title := "struct Constructor"
  blank := { declarationOrder := 0 }
  fields := [
    .required "declarationOrder" Reader.word32 fun v c => { c with declarationOrder := v },
    .defaulted "parameters" (Reader.list Parameter.read) fun v c => { c with parameters := v },
    .defaulted "assignedMembers" (Reader.list Reader.string)
      fun v c => { c with assignedMembers := v },
    .defaulted "implicitlyDeclared" Reader.boolean fun v c => { c with implicitlyDeclared := v }]

def read : Reader Constructor :=
  shape.read

end Constructor

namespace TypeSnapshot

def toJson (t : TypeSnapshot) : Json :=
  .object [
    ("name", .string t.name),
    ("kind", .string t.kind.name),
    ("isStatic", .boolean t.isStatic),
    ("members", .array (t.members.map Member.toJson)),
    ("constructors", .array (t.constructors.map Constructor.toJson))]

def shape : RecordShape TypeSnapshot where
  title := "struct TypeDescriptor"
  blank := { name := "", kind := .classType }
  fields := [
    .required "name" Reader.string fun v t => { t with name := v },
    .required "kind" TypeKind.read fun v t => { t with kind := v },
    .defaulted "isStatic" Reader.boolean fun v t => { t with isStatic := v },
    .defaulted "members" (Reader.list Member.read) fun v t => { t with members := v },
    .defaulted "constructors" (Reader.list Constructor.read)
      fun v t => { t with constructors := v }]

def read : Reader TypeSnapshot :=
  shape.read

end TypeSnapshot

namespace TypeCatalog

def toJson (catalog : TypeCatalog) : Json :=
  .object [("types", .array (catalog.types.map TypeSnapshot.toJson))]

def shape : RecordShape TypeCatalog where
  title := "struct TypeCatalog"
  blank := {}
  fields := [
    .defaulted "types" (Reader.list TypeSnapshot.read) fun v catalog => { catalog with types := v }]

def read : Reader TypeCatalog :=
  shape.read

def ofText (text : String) : Except Fault TypeCatalog :=
  TypeCatalog.read.ofText text

end TypeCatalog

end ConstructorPlanning
