import Mathlib.Data.List.Nodup
import ConstructorPlanning.Proofs.Stages
import ConstructorPlanning.Proofs.WrittenDraft
/-!
What readers make of written values: strings, numbers, lists, names of an enumeration, and records
whose entries stand in the order of the declared fields.
-/
namespace ConstructorPlanning.Json

theorem Numeric.ofText_numeral {n : Nat} (h : n < UInt64.size) :
    Numeric.ofText? (numeral n) = some (.natural n) := by
  have hvalue : Nat.ofDigitChars 10 (Nat.toDigits 10 n) 0 = n :=
    Nat.ofDigitChars_toDigits (by decide) (by decide)
  simp only [ofText?, numeral, hvalue]
  rw [if_pos ⟨rfl, rfl, h⟩]

namespace Reader

variable {α : Type}

theorem string_draft (s : String) : Reader.string (Json.string s).draft = .ok s := by
  rw [draft, Reader.string, String.ofList_toList]

theorem boolean_draft (b : Bool) : Reader.boolean (Json.boolean b).draft = .ok b := rfl

theorem natural_draft {name : String} {bound n : Nat} (h : n < bound)
    (hbound : bound ≤ UInt64.size) :
    Reader.natural name bound (Json.natural n).draft = .ok n := by
  rw [draft, Reader.natural, Numeric.ofText_numeral (Nat.lt_of_lt_of_le h hbound)]
  exact if_pos h

theorem word32_draft (w : UInt32) : word32 (Json.natural w.toNat).draft = .ok w := by
  rw [word32, natural_draft w.toNat_lt (by decide)]
  exact congrArg Except.ok (UInt32.ofNat_toNat)

theorem position_draft {n : Nat} (h : n < UInt64.size) : position (Json.natural n).draft = .ok n :=
  natural_draft h (Nat.le_refl _)

theorem optional_draft (s : Option String) :
    optional Reader.string (Json.optionalString s).draft = .ok s := by
  cases s with
  | none => rfl
  | some s =>
    change some <$> Reader.string (Json.string s).draft = _
    rw [string_draft]
    rfl

theorem mapM_drafts {read : Reader α} {write : α → Json} {items : List α}
    (h : ∀ a ∈ items, read (write a).draft = .ok a) :
    (drafts (items.map write)).mapM read = .ok items := by
  induction items with
  | nil => rfl
  | cons a items ih =>
    rw [List.map_cons, drafts, List.mapM_cons, h a List.mem_cons_self,
      ih fun b hb => h b (List.mem_cons_of_mem a hb)]
    rfl

theorem list_draft {read : Reader α} {write : α → Json} {items : List α}
    (h : ∀ a ∈ items, read (write a).draft = .ok a) :
    list read (Json.array (items.map write)).draft = .ok items := by
  rw [draft, list, mapM_drafts h]
  rfl

theorem enumeration_draft {variants : List (String × α)} {name : String} {a : α}
    (h : variants.lookup name = some a) :
    enumeration variants (Json.string name).draft = .ok a := by
  rw [draft, enumeration, variant, String.ofList_toList, h]

end Reader

namespace RecordShape

variable {α : Type} {shape : RecordShape α}

/-- Entries written for fields in their order turn one record into another. A field that need not be
there may be left out, and entries of an open record that are not declared may stand anywhere. -/
inductive Writes (shape : RecordShape α) :
    List (RecordField α) → List (String × Json) → α → α → Prop
  | nil (x : α) : Writes shape [] [] x x
  | put {field : RecordField α} {fields : List (RecordField α)} {v : Json}
      {entries : List (String × Json)} {set : α → α} {x y : α}
      (hread : field.read v.draft = .ok set) (rest : Writes shape fields entries (set x) y) :
      Writes shape (field :: fields) ((field.name, v) :: entries) x y
  | leftOut {field : RecordField α} {fields : List (RecordField α)}
      {entries : List (String × Json)} {x y : α} (hfield : field.isRequired = false)
      (rest : Writes shape fields entries x y) : Writes shape (field :: fields) entries x y
  | undeclared {name : String} {fields : List (RecordField α)} {v : Json}
      {entries : List (String × Json)} {x y : α} (hopen : shape.isClosed = false)
      (hname : name ∉ shape.fieldNames) (rest : Writes shape fields entries x y) :
      Writes shape fields ((name, v) :: entries) x y

theorem Writes.required {β : Type} {name : String} {read : Reader β} {set : β → α → α}
    {fields : List (RecordField α)} {v : Json} {b : β} {entries : List (String × Json)} {x y : α}
    (hread : read v.draft = .ok b) (rest : shape.Writes fields entries (set b x) y) :
    shape.Writes (.required name read set :: fields) ((name, v) :: entries) x y :=
  .put (congrArg (set <$> ·) hread) rest

theorem Writes.defaulted {β : Type} {name : String} {read : Reader β} {set : β → α → α}
    {fields : List (RecordField α)} {v : Json} {b : β} {entries : List (String × Json)} {x y : α}
    (hread : read v.draft = .ok b) (rest : shape.Writes fields entries (set b x) y) :
    shape.Writes (.defaulted name read set :: fields) ((name, v) :: entries) x y :=
  .put (congrArg (set <$> ·) hread) rest

theorem Writes.append_undeclared {extras entries : List (String × Json)}
    {fields : List (RecordField α)} {x y : α} (hopen : shape.isClosed = false)
    (hextras : ∀ entry ∈ extras, entry.1 ∉ shape.fieldNames)
    (rest : shape.Writes fields entries x y) : shape.Writes fields (extras ++ entries) x y := by
  induction extras with
  | nil => exact rest
  | cons entry extras ih =>
    obtain ⟨hentry, hextras⟩ := List.forall_mem_cons.1 hextras
    exact .undeclared hopen hentry (ih hextras)

theorem field?_eq_some (hnames : shape.fieldNames.Nodup) {field : RecordField α}
    (h : field ∈ shape.fields) : shape.field? field.name = some field := by
  cases hfind : shape.field? field.name with
  | none =>
    have hunlike := List.find?_eq_none.1 hfind field h
    exact absurd (decide_eq_true rfl) hunlike
  | some other =>
    have hname : other.name = field.name := by simpa using List.find?_some hfind
    exact congrArg some (List.inj_on_of_nodup_map hnames (List.mem_of_find?_eq_some hfind) h hname)

theorem field?_eq_none {name : String} (h : name ∉ shape.fieldNames) :
    shape.field? name = none := by
  simp only [field?, List.find?_eq_none, decide_eq_true_eq]
  intro field hfield heq
  exact h (List.mem_map.2 ⟨field, hfield, heq⟩)

/-- What an entry amounts to: the names of the fields that it fills, and what it does to the record.
-/
inductive Takes (shape : RecordShape α) : Quoted × Draft → List String → (α → α) → Prop
  | undeclared {name : String} {d : Draft} (hopen : shape.isClosed = false)
      (hfield : shape.field? name = none) : Takes shape (some name.toList, d) [] id
  | declared {name : String} {d : Draft} {field : RecordField α} {set : α → α}
      (hfield : shape.field? name = some field) (hread : field.read d = .ok set) :
      Takes shape (some name.toList, d) [name] set

theorem Takes.takeEntry {key : Quoted} {d : Draft} {names : List String} {set : α → α}
    (h : shape.Takes (key, d) names set) {seen : List String} (hnew : ∀ name ∈ names, name ∉ seen)
    (x : α) : shape.takeEntry seen x key d = .ok (names ++ seen, set x) := by
  cases h with
  | undeclared hopen hfield =>
    simp only [RecordShape.takeEntry, String.ofList_toList, hfield, hopen]
    rfl
  | declared hfield hread =>
    have hunseen := hnew _ List.mem_cons_self
    simp only [RecordShape.takeEntry, String.ofList_toList, hfield, List.contains_iff_mem, hunseen,
      if_false, hread]
    rfl

theorem Takes.takeEntries {key : Quoted} {d : Draft} {names : List String} {set : α → α}
    (h : shape.Takes (key, d) names set) {seen : List String} (hnew : ∀ name ∈ names, name ∉ seen)
    (x : α) (entries : List (Quoted × Draft)) :
    shape.takeEntries seen x ((key, d) :: entries) =
      shape.takeEntries (names ++ seen) (set x) entries := by
  rw [RecordShape.takeEntries, h.takeEntry hnew]
  rfl

/-- No field has the name of another one, so that a field that is read first leaves the others
unread. -/
theorem unseen_cons (hnames : shape.fieldNames.Nodup) {field : RecordField α}
    {fields : List (RecordField α)} (hfields : (field :: fields).Sublist shape.fields)
    {seen : List String} (hseen : ∀ other ∈ fields, other.name ∉ seen) :
    ∀ other ∈ fields, other.name ∉ field.name :: seen := by
  have hdistinct := List.nodup_cons.1 ((hfields.map RecordField.name).nodup hnames)
  intro other hother hin
  rcases List.mem_cons.1 hin with heq | hin
  · exact hdistinct.1 (List.mem_map.2 ⟨other, hother, heq⟩)
  · exact hseen other hother hin

/-- Reading written entries gives the record that they were written for, and no required field is
found missing. -/
theorem takeEntries_of_writes (hnames : shape.fieldNames.Nodup)
    {fields : List (RecordField α)} {entries : List (String × Json)} {x y : α}
    (h : shape.Writes fields entries x y) (hfields : fields.Sublist shape.fields)
    (seen : List String) (hseen : ∀ field ∈ fields, field.name ∉ seen) :
    ∃ seen', shape.takeEntries seen x (entryDrafts entries) = .ok (seen', y) ∧
      (∀ name ∈ seen, name ∈ seen') ∧
      ∀ field ∈ fields, field.isRequired → field.name ∈ seen' := by
  -- by induction on what was written; no field that is still to come has been seen
  induction h generalizing seen with
  | nil x => exact ⟨seen, rfl, fun _ => id, List.forall_mem_nil _⟩
  | @put field fields v entries set x y hread rest ih =>
    have hfield := field?_eq_some hnames (hfields.subset List.mem_cons_self)
    have hnew : ∀ name ∈ [field.name], name ∉ seen := by
      simpa using hseen field List.mem_cons_self
    have hnext := unseen_cons hnames hfields fun other hother =>
      hseen other (List.mem_cons_of_mem _ hother)
    obtain ⟨seen', htake, hkept, hrequired⟩ := ih (List.sublist_of_cons_sublist hfields) _ hnext
    refine ⟨seen', ?_, fun name hname => hkept name (List.mem_cons_of_mem _ hname), ?_⟩
    · rw [entryDrafts, (Takes.declared hfield hread).takeEntries hnew]
      exact htake
    · intro other hother hneeded
      rcases List.mem_cons.1 hother with rfl | hother
      · exact hkept _ List.mem_cons_self
      · exact hrequired other hother hneeded
  | @leftOut field fields entries x y hoptional rest ih =>
    obtain ⟨seen', htake, hkept, hrequired⟩ := ih (List.sublist_of_cons_sublist hfields) seen
      fun other hother => hseen other (List.mem_cons_of_mem _ hother)
    refine ⟨seen', htake, hkept, ?_⟩
    intro other hother hneeded
    rcases List.mem_cons.1 hother with rfl | hother
    · exact absurd hneeded (by simp [hoptional])
    · exact hrequired other hother hneeded
  | undeclared hopen hname rest ih =>
    obtain ⟨seen', htake, hkept, hrequired⟩ := ih hfields seen hseen
    refine ⟨seen', ?_, hkept, hrequired⟩
    rw [entryDrafts, (Takes.undeclared hopen (field?_eq_none hname)).takeEntries
      (List.forall_mem_nil _)]
    exact htake

theorem missing?_eq_none_iff {seen : List String} :
    shape.missing? seen = none ↔ ∀ field ∈ shape.fields, field.isRequired → field.name ∈ seen := by
  simp only [missing?, Option.map_eq_none_iff, List.find?_eq_none, Bool.and_eq_true,
    Bool.not_eq_true', Bool.not_eq_false, not_and, List.contains_iff_mem]

theorem readObject_closed_eq_ok_iff {entries : List (Quoted × Draft)} {x : α} :
    shape.readObject entries .closed = .ok x ↔
      ∃ seen, shape.takeEntries [] shape.blank entries = .ok (seen, x) ∧
        shape.missing? seen = none := by
  simp only [readObject, Reader.checkEnding, bind_eq_ok_iff]
  constructor
  · rintro ⟨⟨seen, y⟩, htake, _, _, hread⟩
    cases hmissing : shape.missing? seen with
    | some name =>
      rw [hmissing] at hread
      cases hread
    | none =>
      rw [hmissing] at hread
      cases hread
      exact ⟨seen, htake, hmissing⟩
  · rintro ⟨seen, htake, hmissing⟩
    refine ⟨(seen, x), htake, (), trivial, ?_⟩
    rw [hmissing]
    rfl

theorem read_of_writes (hnames : shape.fieldNames.Nodup) {entries : List (String × Json)} {x : α}
    (h : shape.Writes shape.fields entries shape.blank x) :
    shape.read (Json.object entries).draft = .ok x := by
  obtain ⟨seen, htake, -, hrequired⟩ :=
    takeEntries_of_writes hnames h (List.Sublist.refl _) [] (by simp)
  exact readObject_closed_eq_ok_iff.2 ⟨seen, htake, missing?_eq_none_iff.2 hrequired⟩

end RecordShape

end ConstructorPlanning.Json
