import ConstructorPlanning.Proofs.FieldReading
/-!
Objects that agree field by field are read alike: the values of a field mean the same, or one of the
objects leaves the field out and the other spells its default out.
-/
namespace ConstructorPlanning.Json

variable {α β : Type}

/-- How the values of a field may differ from each other. -/
structure FieldForm where
  name : String
  /-- When two values mean the same. -/
  same : Draft → Draft → Prop
  /-- The value that a field which may be left out has then. -/
  default? : Option Draft

/-- A field that has to be there. -/
def FieldForm.required (name : String) (same : Draft → Draft → Prop) : FieldForm where
  name
  same
  default? := none

/-- A field that may be left out where it has its default value. -/
def FieldForm.defaulted (name : String) (same : Draft → Draft → Prop) (default : Draft) :
    FieldForm where
  name
  same
  default? := some default

/-- A field is told alike by two objects. -/
inductive FieldForm.Agree (form : FieldForm) : Option Draft → Option Draft → Prop where
  | absent : Agree form none none
  | same {d d' : Draft} (h : form.same d d') : Agree form (some d) (some d')
  | leftOut {d : Draft} (h : form.default? = some d) : Agree form (some d) none
  | spelledOut {d : Draft} (h : form.default? = some d) : Agree form none (some d)

/-- Two objects tell the fields alike. The order of their keys is left open, and what else they hold
as far as their entries are of the kind allowed. -/
inductive SameRecord (allowed : List (Quoted × Draft) → Prop) (forms : List FieldForm) :
    Draft → Draft → Prop where
  | record {entries entries' : List (Quoted × Draft)} (hkeys : DistinctKeys entries)
      (hkeys' : DistinctKeys entries') (hallowed : allowed entries) (hallowed' : allowed entries')
      (h : ∀ form ∈ forms, form.Agree (valueOf entries form.name) (valueOf entries' form.name)) :
    SameRecord allowed forms (.object entries .closed) (.object entries' .closed)

/-- Two arrays have the same items, in the same order. -/
inductive SameItems (same : Draft → Draft → Prop) : Draft → Draft → Prop where
  | items {ds ds' : List Draft} (h : List.Forall₂ same ds ds') :
    SameItems same (.array ds .closed) (.array ds' .closed)

/-- Drafts that are the same are read alike. -/
def Reader.Respects (read : Reader α) (same : Draft → Draft → Prop) : Prop :=
  ∀ d d', same d d' → ∀ a, read d = .ok a ↔ read d' = .ok a

namespace Reader

variable {read : Reader α} {same : Draft → Draft → Prop}

theorem respects_eq (read : Reader α) : read.Respects Eq := by
  rintro d _ rfl a
  rfl

theorem Respects.map (h : read.Respects same) (f : α → β) :
    Respects (fun d => f <$> read d) same := by
  intro d d' hsame b
  simp only [map_eq_ok_iff, h d d' hsame]

theorem list_closed_eq_ok_iff {items : List Draft} {values : List α} :
    list read (.array items .closed) = .ok values ↔
      List.Forall₂ (fun d a => read d = .ok a) items values := by
  rw [list, ← mapM_eq_ok_iff, bind_eq_ok_iff]
  constructor
  · rintro ⟨_, hvalues, ⟨⟩⟩
    exact hvalues
  · intro hvalues
    exact ⟨values, hvalues, rfl⟩

theorem Respects.forall₂ (h : read.Respects same) {items items' : List Draft}
    (hsame : List.Forall₂ same items items') {values : List α} :
    List.Forall₂ (fun d a => read d = .ok a) items values ↔
      List.Forall₂ (fun d a => read d = .ok a) items' values := by
  induction hsame generalizing values with
  | nil => rfl
  | cons hd _ ih => simp only [List.forall₂_cons_left_iff, ih, h _ _ hd]

theorem Respects.list (h : read.Respects same) : (list read).Respects (SameItems same) := by
  rintro _ _ ⟨hitems⟩ values
  rw [list_closed_eq_ok_iff, list_closed_eq_ok_iff, h.forall₂ hitems]

end Reader

namespace FieldForm

variable {form : FieldForm} {field : RecordField α} {x : α}

/-- The field is read as its form has it, and its default leaves the record as it is. -/
structure Follows (form : FieldForm) (field : RecordField α) (x : α) : Prop where
  name : field.name = form.name
  same : Reader.Respects field.read form.same
  default : ∀ d, form.default? = some d →
    field.isRequired = false ∧ ∃ set, field.read d = .ok set ∧ set x = x

theorem follows_required {name : String} {read : Reader β} {same : Draft → Draft → Prop}
    (h : read.Respects same) (set : β → α → α) :
    (required name same).Follows (.required name read set) x where
  name := rfl
  same := h.map set
  default := nofun

theorem follows_defaulted {name : String} {read : Reader β} {same : Draft → Draft → Prop}
    {default : Draft} {b : β} {set : β → α → α} (h : read.Respects same)
    (hdefault : read default = .ok b) (hkept : set b x = x) :
    (defaulted name same default).Follows (.defaulted name read set) x where
  name := rfl
  same := h.map set
  default := by
    rintro _ ⟨⟩
    exact ⟨rfl, set b, map_eq_ok_iff.2 ⟨b, hdefault, rfl⟩, hkept⟩

theorem put_eq_ok_iff {d : Draft} {y : α} :
    field.put x (some d) = .ok y ↔ ∃ set, field.read d = .ok set ∧ set x = y :=
  map_eq_ok_iff

/-- What is told alike is put into the record alike. -/
theorem Follows.put_iff (h : form.Follows field x) {v v' : Option Draft} (hagree : form.Agree v v')
    (y : α) : field.put x v = .ok y ↔ field.put x v' = .ok y := by
  have hdefault : ∀ d, form.default? = some d →
      (field.put x (some d) = .ok y ↔ field.put x none = .ok y) := by
    intro d hd
    obtain ⟨-, set, hread, hkept⟩ := h.default d hd
    simp [RecordField.put, hread, hkept]
  cases hagree with
  | absent => rfl
  | same hsame => simp only [put_eq_ok_iff, h.same _ _ hsame]
  | leftOut hd => exact hdefault _ hd
  | spelledOut hd => exact (hdefault _ hd).symm

theorem Follows.isSome_iff (h : form.Follows field x) {v v' : Option Draft}
    (hagree : form.Agree v v') (hrequired : field.isRequired) : v.isSome ↔ v'.isSome := by
  have hnone : ∀ d, form.default? ≠ some d := by
    intro d hd
    rw [(h.default d hd).1] at hrequired
    cases hrequired
  cases hagree with
  | absent => rfl
  | same => rfl
  | leftOut hd => exact absurd hd (hnone _)
  | spelledOut hd => exact absurd hd (hnone _)

/-- Another field that is put into the record does not touch this one's default. -/
theorem Follows.put {other : RecordField α} (h : form.Follows field x)
    (hcommutes : other.Commutes field) {v : Option Draft} {y : α} (hput : other.put x v = .ok y) :
    form.Follows field y where
  name := h.name
  same := h.same
  default := by
    intro d hd
    obtain ⟨hoptional, set, hread, hkept⟩ := h.default d hd
    refine ⟨hoptional, set, hread, ?_⟩
    cases v with
    | none =>
      cases hput
      exact hkept
    | some e =>
      obtain ⟨set', hread', rfl⟩ := put_eq_ok_iff.1 hput
      rw [← hcommutes e d set' set hread' hread x, hkept]

end FieldForm

/-- Objects that tell the fields alike fill a record alike. -/
theorem fills_iff {forms : List FieldForm} {fields : List (RecordField α)} {x y : α}
    (hfollows : List.Forall₂ (fun field form => FieldForm.Follows form field x) fields forms)
    (hind : fields.Pairwise RecordField.Commutes) {values values' : String → Option Draft}
    (hagree : ∀ form ∈ forms, form.Agree (values form.name) (values' form.name)) :
    Fills values fields x y ↔ Fills values' fields x y := by
  -- the record that is filled still has the defaults of the fields that are to come
  induction fields generalizing forms x with
  | nil => rw [fills_nil, fills_nil]
  | cons field fields ih =>
    obtain ⟨form, rest, hfield, hrest, rfl⟩ := List.forall₂_cons_left_iff.1 hfollows
    obtain ⟨hcommutes, hlater⟩ := List.pairwise_cons.1 hind
    obtain ⟨hvalue, hvalues⟩ := List.forall_mem_cons.1 hagree
    simp only [fills_cons, hfield.name, hfield.put_iff hvalue]
    refine exists_congr fun z => and_congr_right fun hput =>
      and_congr (imp_congr_right (hfield.isSome_iff hvalue)) ?_
    have hboth := (List.forall₂_and_left _ _).2 ⟨hcommutes, hrest⟩
    exact ih (hboth.imp fun _ _ h => h.2.put h.1 hput) hlater hvalues

namespace RecordShape

variable {shape : RecordShape α} {forms : List FieldForm}

theorem respects (hnames : shape.fieldNames.Nodup) (hopen : shape.isClosed = false)
    (hind : shape.Independent)
    (hfollows : List.Forall₂ (fun field form => FieldForm.Follows form field shape.blank)
      shape.fields forms) :
    Reader.Respects shape.read (SameRecord WholeKeys forms) := by
  rintro _ _ ⟨hkeys, hkeys', hwhole, hwhole', hagree⟩ y
  change shape.readObject _ _ = _ ↔ shape.readObject _ _ = _
  rw [readObject_eq_ok_iff hnames hind, readObject_eq_ok_iff hnames hind,
    fills_iff hfollows hind hagree]
  exact and_congr_left fun _ =>
    iff_of_true (hkeys.admits hwhole hopen) (hkeys'.admits hwhole' hopen)

end RecordShape

end ConstructorPlanning.Json
