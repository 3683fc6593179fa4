import ConstructorPlanning.Proofs.RecordReading
import ConstructorPlanning.Snapshot.Format
/-!
A written snapshot is read back as it was, with every list, flag and annotation.
-/
namespace ConstructorPlanning

open Json Json.Reader

theorem MemberKind.read_draft (kind : MemberKind) :
    MemberKind.read (Json.string kind.name).draft = .ok kind :=
  enumeration_draft (by cases kind <;> rfl)

theorem TypeKind.read_draft (kind : TypeKind) :
    TypeKind.read (Json.string kind.name).draft = .ok kind :=
  enumeration_draft (by cases kind <;> rfl)

theorem Member.read_draft (m : Member) : Member.read m.toJson.draft = .ok m :=
  RecordShape.read_of_writes (by decide) <|
    .required (string_draft m.name) <| .required (string_draft m.type) <|
    .required (MemberKind.read_draft m.kind) <| .defaulted (boolean_draft m.isStatic) <|
    .defaulted (boolean_draft m.writable) <| .defaulted (boolean_draft m.implicitlyDeclared) <|
    .required (word32_draft m.declarationOrder) <| .nil m

/-- The annotation of a parameter is written only where it is there. -/
theorem Parameter.read_draft (p : Parameter) : Parameter.read p.toJson.draft = .ok p := by
  obtain ⟨name, type, member⟩ := p
  refine RecordShape.read_of_writes (by decide) <|
    .required (string_draft name) <| .required (string_draft type) ?_
  cases member with
  | none => exact .leftOut rfl <| .nil _
  | some m => exact .defaulted (optional_draft (some m)) <| .nil _

theorem Constructor.read_draft (c : Constructor) : Constructor.read c.toJson.draft = .ok c :=
  RecordShape.read_of_writes (by decide) <|
    .required (word32_draft c.declarationOrder) <|
    .defaulted (list_draft fun p _ => Parameter.read_draft p) <|
    .defaulted (list_draft fun name _ => string_draft name) <|
    .defaulted (boolean_draft c.implicitlyDeclared) <| .nil c

theorem TypeSnapshot.read_draft (t : TypeSnapshot) : TypeSnapshot.read t.toJson.draft = .ok t :=
  RecordShape.read_of_writes (by decide) <|
    .required (string_draft t.name) <| .required (TypeKind.read_draft t.kind) <|
    .defaulted (boolean_draft t.isStatic) <|
    .defaulted (list_draft fun m _ => Member.read_draft m) <|
    .defaulted (list_draft fun c _ => Constructor.read_draft c) <| .nil t

theorem TypeCatalog.read_draft (catalog : TypeCatalog) :
    TypeCatalog.read catalog.toJson.draft = .ok catalog :=
  RecordShape.read_of_writes (by decide) <|
    .defaulted (list_draft fun t _ => TypeSnapshot.read_draft t) <| .nil catalog

theorem catalog_text_round_trip (catalog : TypeCatalog) :
    TypeCatalog.ofText catalog.toJson.compact = .ok catalog :=
  Reader.ofText_compact (TypeCatalog.read_draft catalog)

end ConstructorPlanning
