import ConstructorPlanning.Proofs.CatalogReading
import ConstructorPlanning.Proofs.FieldAgreement
import ConstructorPlanning.Proofs.SnapshotReading
import ConstructorPlanning.Proofs.SpelledText
/-!
How a catalog is written does not matter to its reader: neither the white space, nor the order of
the keys, nor undeclared entries under keys that are strings, nor whether a default is spelled out.
-/
namespace ConstructorPlanning

open Json Json.Reader Json.FieldForm

section Forms

-- what the entries of a record may be, besides those of its fields
variable (allowed : List (Quoted × Draft) → Prop)

def Parameter.forms : List FieldForm := [
  .required "name" Eq,
  .required "type" Eq,
  .defaulted "member" Eq .null]

def Member.forms : List FieldForm := [
  .required "name" Eq,
  .required "type" Eq,
  .required "kind" Eq,
  .defaulted "isStatic" Eq (.boolean false),
  .defaulted "writable" Eq (.boolean true),
  .defaulted "implicitlyDeclared" Eq (.boolean false),
  .required "declarationOrder" Eq]

def Constructor.forms : List FieldForm := [
  .required "declarationOrder" Eq,
  .defaulted "parameters" (SameItems (SameRecord allowed Parameter.forms)) (.array [] .closed),
  .defaulted "assignedMembers" Eq (.array [] .closed),
  .defaulted "implicitlyDeclared" Eq (.boolean false)]

def TypeSnapshot.forms : List FieldForm := [
  .required "name" Eq,
  .required "kind" Eq,
  .defaulted "isStatic" Eq (.boolean false),
  .defaulted "members" (SameItems (SameRecord allowed Member.forms)) (.array [] .closed),
  .defaulted "constructors" (SameItems (SameRecord allowed (Constructor.forms allowed)))
    (.array [] .closed)]

def TypeCatalog.forms : List FieldForm := [
  .defaulted "types" (SameItems (SameRecord allowed (TypeSnapshot.forms allowed)))
    (.array [] .closed)]

/-- Two texts of catalogs differ only in how they are written. -/
def WrittenAlike (text text' : String) : Prop :=
  ∃ d d', Spells d text.toList ∧ Spells d' text'.toList ∧
    SameRecord allowed (TypeCatalog.forms allowed) d d'

end Forms

section Reading

theorem Parameter.read_respects : Reader.Respects Parameter.read (SameRecord WholeKeys forms) :=
  RecordShape.respects (by decide) rfl shape_independent <|
    .cons (follows_required (respects_eq _) _) <|
    .cons (follows_required (respects_eq _) _) <|
    .cons (follows_defaulted (respects_eq _) rfl rfl) .nil

theorem Member.read_respects : Reader.Respects Member.read (SameRecord WholeKeys forms) :=
  RecordShape.respects (by decide) rfl shape_independent <|
    .cons (follows_required (respects_eq _) _) <|
    .cons (follows_required (respects_eq _) _) <|
    .cons (follows_required (respects_eq _) _) <|
    .cons (follows_defaulted (respects_eq _) rfl rfl) <|
    .cons (follows_defaulted (respects_eq _) rfl rfl) <|
    .cons (follows_defaulted (respects_eq _) rfl rfl) <|
    .cons (follows_required (respects_eq _) _) .nil

theorem Constructor.read_respects :
    Reader.Respects Constructor.read (SameRecord WholeKeys (forms WholeKeys)) :=
  RecordShape.respects (by decide) rfl shape_independent <|
    .cons (follows_required (respects_eq _) _) <|
    .cons (follows_defaulted Parameter.read_respects.list rfl rfl) <|
    .cons (follows_defaulted (respects_eq _) rfl rfl) <|
    .cons (follows_defaulted (respects_eq _) rfl rfl) .nil

theorem TypeSnapshot.read_respects :
    Reader.Respects TypeSnapshot.read (SameRecord WholeKeys (forms WholeKeys)) :=
  RecordShape.respects (by decide) rfl shape_independent <|
    .cons (follows_required (respects_eq _) _) <|
    .cons (follows_required (respects_eq _) _) <|
    .cons (follows_defaulted (respects_eq _) rfl rfl) <|
    .cons (follows_defaulted Member.read_respects.list rfl rfl) <|
    .cons (follows_defaulted Constructor.read_respects.list rfl rfl) .nil

theorem TypeCatalog.read_respects :
    Reader.Respects TypeCatalog.read (SameRecord WholeKeys (forms WholeKeys)) :=
  RecordShape.respects (by decide) rfl shape_independent <|
    .cons (follows_defaulted TypeSnapshot.read_respects.list rfl rfl) .nil

end Reading

theorem catalog_writing_irrelevant {text text' : String} (h : WrittenAlike WholeKeys text text')
    (catalog : TypeCatalog) :
    TypeCatalog.ofText text = .ok catalog ↔ TypeCatalog.ofText text' = .ok catalog := by
  obtain ⟨d, d', htext, htext', hsame⟩ := h
  rw [TypeCatalog.ofText, TypeCatalog.ofText, Reader.ofText_spells htext,
    Reader.ofText_spells htext']
  exact TypeCatalog.read_respects d d' hsame catalog

section HalfPairs

def typesEntry : Quoted × Draft := (some "types".toList, .array [] .closed)

/-- An entry whose key escapes half of a surrogate pair. -/
def halfEntry : Quoted × Draft := (none, .number ⟨false, ['0'], none, none⟩)

def typesText : String := "\x7b\"types\":[]\x7d"

def halfText : String := "\x7b\"types\":[],\"\\ud800\":0\x7d"

theorem ofText_typesText : Document.ofText typesText = ⟨.object [typesEntry] .closed, false⟩ := rfl

theorem ofText_halfText :
    Document.ofText halfText = ⟨.object [typesEntry, halfEntry] .closed, false⟩ := rfl

theorem writtenAlike_halfText : WrittenAlike (fun _ => True) typesText halfText := by
  have hdistinct : DistinctKeys [typesEntry, halfEntry] :=
    List.nodup_cons.2 ⟨by simp [typesEntry, halfEntry], List.nodup_singleton _⟩
  refine ⟨_, _, (Document.ofText_eq_iff rfl).1 ofText_typesText,
    (Document.ofText_eq_iff rfl).1 ofText_halfText, ?_⟩
  exact .record (List.nodup_singleton _) hdistinct trivial trivial
    (List.forall_mem_singleton.2 (.same (.items .nil)))

/-- A key that is no string of characters is not passed over. -/
theorem not_every_key_passed_over :
    ¬ ∀ text text' : String, WrittenAlike (fun _ => True) text text' → ∀ catalog : TypeCatalog,
      TypeCatalog.ofText text = .ok catalog → TypeCatalog.ofText text' = .ok catalog := by
  intro hall
  have hread := hall typesText halfText writtenAlike_halfText ⟨[]⟩ rfl
  have hrefused : TypeCatalog.ofText halfText = .error .malformed := rfl
  rw [hrefused] at hread
  cases hread

end HalfPairs

section Receipt

def receipt : TypeSnapshot where
  name := "Receipt"
  kind := .structType
  members := [{ name := "Total", type := "decimal", kind := .property, declarationOrder := 0 }]
  constructors := [{ declarationOrder := 1, parameters := [⟨"total", "decimal", none⟩] }]

/-- The receipt without its defaults. -/
def shortReceipt : Json :=
  .object [("types", .array [.object [
    ("name", .string "Receipt"), ("kind", .string "struct"),
    ("members", .array [.object [("name", .string "Total"), ("type", .string "decimal"),
      ("kind", .string "property"), ("declarationOrder", .natural 0)]]),
    ("constructors", .array [.object [
      ("declarationOrder", .natural 1),
      ("parameters", .array [.object [("name", .string "total"), ("type", .string "decimal")]])
      ]])]])]

def longReceipt : Json :=
  .object [("version", .array [.natural 1, .object []]), ("types", .array [.object [
    ("isStatic", .boolean false), ("kind", .string "struct"),
    ("constructors", .array [.object [
      ("parameters", .array [.object [("type", .string "decimal"), ("member", .null),
        ("name", .string "total")]]),
      ("assignedMembers", .array []), ("declarationOrder", .natural 1)]]),
    ("members", .array [.object [("kind", .string "property"), ("writable", .boolean true),
      ("declarationOrder", .natural 0), ("name", .string "Total"), ("note", .null),
      ("type", .string "decimal")]]),
    ("name", .string "Receipt")]])]

theorem sameRecord_draft {forms : List FieldForm} {entries entries' : List (String × Json)}
    (h : (entries.map Prod.fst).Nodup) (h' : (entries'.map Prod.fst).Nodup)
    (hagree : ∀ form ∈ forms, form.Agree (valueOf (entryDrafts entries) form.name)
      (valueOf (entryDrafts entries') form.name)) :
    SameRecord WholeKeys forms (Json.object entries).draft (Json.object entries').draft :=
  .record (distinctKeys_entryDrafts h) (distinctKeys_entryDrafts h') (wholeKeys_entryDrafts _)
    (wholeKeys_entryDrafts _) hagree

theorem writtenAlike_receipt : WrittenAlike WholeKeys shortReceipt.compact longReceipt.pretty := by
  refine ⟨_, _, spells_compact _, spells_pretty _, ?_⟩
  refine sameRecord_draft (by decide) (by decide) ?_
  refine List.forall_mem_singleton.2 (.same (.items (.cons ?type .nil)))
  refine sameRecord_draft (by decide) (by decide) ?_
  simp only [TypeSnapshot.forms, List.forall_mem_cons]
  refine ⟨.same rfl, .same rfl, .spelledOut rfl, .same (.items (.cons ?member .nil)),
    .same (.items (.cons ?constructor .nil)), nofun⟩
  case member =>
    refine sameRecord_draft (by decide) (by decide) ?_
    simp only [Member.forms, List.forall_mem_cons]
    exact ⟨.same rfl, .same rfl, .same rfl, .absent, .spelledOut rfl, .absent, .same rfl, nofun⟩
  case constructor =>
    refine sameRecord_draft (by decide) (by decide) ?_
    simp only [Constructor.forms, List.forall_mem_cons]
    refine ⟨.same rfl, .same (.items (.cons ?_ .nil)), .spelledOut rfl, .absent, nofun⟩
    refine sameRecord_draft (by decide) (by decide) ?_
    simp only [Parameter.forms, List.forall_mem_cons]
    exact ⟨.same rfl, .same rfl, .spelledOut rfl, nofun⟩

theorem catalog_writing_irrelevant_receipt :
    WrittenAlike WholeKeys shortReceipt.compact longReceipt.pretty ∧
      TypeCatalog.ofText longReceipt.pretty = .ok ⟨[receipt]⟩ := by
  have hshort : TypeCatalog.ofText shortReceipt.compact = .ok ⟨[receipt]⟩ :=
    Reader.ofText_compact rfl
  exact ⟨writtenAlike_receipt, (catalog_writing_irrelevant writtenAlike_receipt _).1 hshort⟩

end Receipt

end ConstructorPlanning
