import ConstructorPlanning.Proofs.ToldRecord
import ConstructorPlanning.Snapshot.Format
/-!
What a catalog text says of its types, and which texts are refused. Undeclared entries of an object
are passed over.
-/
namespace ConstructorPlanning

open Json Json.RecordShape

section Told

def MemberKind.ToldBy (kind : MemberKind) : Draft → Prop :=
  TellsName kind.name

def TypeKind.ToldBy (kind : TypeKind) : Draft → Prop :=
  TellsName kind.name

def Member.ToldBy (m : Member) : Draft → Prop :=
  Told ["name", "type", "kind", "isStatic", "writable", "implicitlyDeclared", "declarationOrder"]
    false fun values =>
      Carries TellsText none (values "name") m.name ∧
      Carries TellsText none (values "type") m.type ∧
      Carries MemberKind.ToldBy none (values "kind") m.kind ∧
      Carries TellsFlag (some false) (values "isStatic") m.isStatic ∧
      Carries TellsFlag (some true) (values "writable") m.writable ∧
      Carries TellsFlag (some false) (values "implicitlyDeclared") m.implicitlyDeclared ∧
      Carries TellsWord none (values "declarationOrder") m.declarationOrder

def Parameter.ToldBy (p : Parameter) : Draft → Prop :=
  Told ["name", "type", "member"] false fun values =>
    Carries TellsText none (values "name") p.name ∧
    Carries TellsText none (values "type") p.type ∧
    Carries (TellsOptional TellsText) (some none) (values "member") p.member

def Constructor.ToldBy (c : Constructor) : Draft → Prop :=
  Told ["declarationOrder", "parameters", "assignedMembers", "implicitlyDeclared"] false
    fun values =>
      Carries TellsWord none (values "declarationOrder") c.declarationOrder ∧
      Carries (TellsList Parameter.ToldBy) (some []) (values "parameters") c.parameters ∧
      Carries (TellsList TellsText) (some []) (values "assignedMembers") c.assignedMembers ∧
      Carries TellsFlag (some false) (values "implicitlyDeclared") c.implicitlyDeclared

def TypeSnapshot.ToldBy (t : TypeSnapshot) : Draft → Prop :=
  Told ["name", "kind", "isStatic", "members", "constructors"] false fun values =>
    Carries TellsText none (values "name") t.name ∧
    Carries TypeKind.ToldBy none (values "kind") t.kind ∧
    Carries TellsFlag (some false) (values "isStatic") t.isStatic ∧
    Carries (TellsList Member.ToldBy) (some []) (values "members") t.members ∧
    Carries (TellsList Constructor.ToldBy) (some []) (values "constructors") t.constructors

def TypeCatalog.ToldBy (catalog : TypeCatalog) : Draft → Prop :=
  Told ["types"] false fun values =>
    Carries (TellsList TypeSnapshot.ToldBy) (some []) (values "types") catalog.types

/-- The text spells a value that tells the catalog. -/
def TypeCatalog.SpelledBy (catalog : TypeCatalog) (text : String) : Prop :=
  ∃ d, Spells d text.toList ∧ catalog.ToldBy d

end Told

section Independence

-- each two fields of a record set different parts of it

theorem Parameter.shape_independent : Parameter.shape.Independent := by
  simp only [RecordShape.Independent, shape, List.pairwise_cons, List.mem_cons, forall_eq_or_imp,
    List.not_mem_nil, false_imp_iff, implies_true, List.Pairwise.nil, and_true]
  and_intros <;> exact RecordField.commutes_of_read rfl rfl fun _ _ _ => rfl

theorem Member.shape_independent : Member.shape.Independent := by
  simp only [RecordShape.Independent, shape, List.pairwise_cons, List.mem_cons, forall_eq_or_imp,
    List.not_mem_nil, false_imp_iff, implies_true, List.Pairwise.nil, and_true]
  and_intros <;> exact RecordField.commutes_of_read rfl rfl fun _ _ _ => rfl

theorem Constructor.shape_independent : Constructor.shape.Independent := by
  simp only [RecordShape.Independent, shape, List.pairwise_cons, List.mem_cons, forall_eq_or_imp,
    List.not_mem_nil, false_imp_iff, implies_true, List.Pairwise.nil, and_true]
  and_intros <;> exact RecordField.commutes_of_read rfl rfl fun _ _ _ => rfl

theorem TypeSnapshot.shape_independent : TypeSnapshot.shape.Independent := by
  simp only [RecordShape.Independent, shape, List.pairwise_cons, List.mem_cons, forall_eq_or_imp,
    List.not_mem_nil, false_imp_iff, implies_true, List.Pairwise.nil, and_true]
  and_intros <;> exact RecordField.commutes_of_read rfl rfl fun _ _ _ => rfl

theorem TypeCatalog.shape_independent : TypeCatalog.shape.Independent :=
  List.pairwise_singleton _ _

end Independence

section Reading

theorem MemberKind.reads : Reader.Reads MemberKind.read MemberKind.ToldBy :=
  reads_enumeration (by decide) fun kind => by cases kind <;> decide

theorem TypeKind.reads : Reader.Reads TypeKind.read TypeKind.ToldBy :=
  reads_enumeration (by decide) fun kind => by cases kind <;> decide

theorem Member.reads : Reader.Reads Member.read Member.ToldBy := by
  refine RecordShape.reads (by decide) shape_independent fun m values => ?_
  simp (disch := rfl) only [shape, fills_required reads_string, fills_required MemberKind.reads,
    fills_defaulted reads_boolean false, fills_defaulted reads_boolean true,
    fills_required reads_word32, fills_nil]
  constructor
  · rintro ⟨_, hname, _, htype, _, hkind, _, hstatic, _, hwritable, _, himplicit, _, horder, rfl⟩
    exact ⟨hname, htype, hkind, hstatic, hwritable, himplicit, horder⟩
  · rintro ⟨hname, htype, hkind, hstatic, hwritable, himplicit, horder⟩
    exact ⟨_, hname, _, htype, _, hkind, _, hstatic, _, hwritable, _, himplicit, _, horder, rfl⟩

theorem Parameter.reads : Reader.Reads Parameter.read Parameter.ToldBy := by
  have hmember : Reader.Reads (Reader.optional Reader.string) (TellsOptional TellsText) :=
    reads_string.optional fun _ h => by cases h
  refine RecordShape.reads (by decide) shape_independent fun p values => ?_
  simp (disch := rfl) only [shape, fills_required reads_string, fills_defaulted hmember none,
    fills_nil]
  constructor
  · rintro ⟨_, hname, _, htype, _, hmember, rfl⟩
    exact ⟨hname, htype, hmember⟩
  · rintro ⟨hname, htype, hmember⟩
    exact ⟨_, hname, _, htype, _, hmember, rfl⟩

theorem Constructor.reads : Reader.Reads Constructor.read Constructor.ToldBy := by
  refine RecordShape.reads (by decide) shape_independent fun c values => ?_
  simp (disch := rfl) only [shape, fills_required reads_word32,
    fills_defaulted Parameter.reads.list [], fills_defaulted reads_string.list [],
    fills_defaulted reads_boolean false, fills_nil]
  constructor
  · rintro ⟨_, horder, _, hparameters, _, hassigned, _, himplicit, rfl⟩
    exact ⟨horder, hparameters, hassigned, himplicit⟩
  · rintro ⟨horder, hparameters, hassigned, himplicit⟩
    exact ⟨_, horder, _, hparameters, _, hassigned, _, himplicit, rfl⟩

theorem TypeSnapshot.reads : Reader.Reads TypeSnapshot.read TypeSnapshot.ToldBy := by
  refine RecordShape.reads (by decide) shape_independent fun t values => ?_
  simp (disch := rfl) only [shape, fills_required reads_string, fills_required TypeKind.reads,
    fills_defaulted reads_boolean false, fills_defaulted Member.reads.list [],
    fills_defaulted Constructor.reads.list [], fills_nil]
  constructor
  · rintro ⟨_, hname, _, hkind, _, hstatic, _, hmembers, _, hconstructors, rfl⟩
    exact ⟨hname, hkind, hstatic, hmembers, hconstructors⟩
  · rintro ⟨hname, hkind, hstatic, hmembers, hconstructors⟩
    exact ⟨_, hname, _, hkind, _, hstatic, _, hmembers, _, hconstructors, rfl⟩

theorem TypeCatalog.reads : Reader.Reads TypeCatalog.read TypeCatalog.ToldBy := by
  refine RecordShape.reads (by decide) shape_independent fun catalog values => ?_
  simp (disch := rfl) only [shape, fills_defaulted TypeSnapshot.reads.list [], fills_nil]
  constructor
  · rintro ⟨_, htypes, rfl⟩
    exact htypes
  · intro htypes
    exact ⟨_, htypes, rfl⟩

theorem TypeCatalog.ofText_eq_ok_iff {text : String} {catalog : TypeCatalog} :
    TypeCatalog.ofText text = .ok catalog ↔ catalog.SpelledBy text := by
  refine (Reader.ofText_eq_ok_iff fun _ _ => isWhole_of_read).trans ?_
  exact exists_congr fun d => and_congr_right fun _ => reads catalog d

end Reading

end ConstructorPlanning
