import Mathlib.Data.List.Perm.Basic
import ConstructorPlanning.Proofs.EntryOrder
import ConstructorPlanning.Proofs.SpelledText
/-!
A record is read field by field: what counts is the value under each declared key of an object, or
at the place of each field in an array.
-/
namespace ConstructorPlanning.Json

variable {α : Type}

section Values

variable {entries : List (Quoted × Draft)}

/-- No key stands twice. -/
def DistinctKeys (entries : List (Quoted × Draft)) : Prop :=
  (entries.map Prod.fst).Nodup

/-- The keys are strings of characters: none escapes half of a surrogate pair alone. -/
def WholeKeys (entries : List (Quoted × Draft)) : Prop :=
  ∀ entry ∈ entries, entry.1.isSome

theorem distinctKeys_entryDrafts {entries : List (String × Json)}
    (h : (entries.map Prod.fst).Nodup) : DistinctKeys (entryDrafts entries) := by
  have hinj : Function.Injective fun name : String => some name.toList := fun _ _ heq =>
    String.toList_inj.1 (Option.some.inj heq)
  have hkeys := h.map hinj
  rw [DistinctKeys, entryDrafts_eq_map]
  rw [List.map_map] at hkeys ⊢
  exact hkeys

theorem wholeKeys_entryDrafts (entries : List (String × Json)) :
    WholeKeys (entryDrafts entries) := by
  intro entry hentry
  rw [entryDrafts_eq_map] at hentry
  obtain ⟨_, -, rfl⟩ := List.mem_map.1 hentry
  rfl

def valueOf (entries : List (Quoted × Draft)) (name : String) : Option Draft :=
  entries.lookup (some name.toList)

theorem lookup_eq_some_iff {β γ : Type} [BEq β] [LawfulBEq β] {l : List (β × γ)}
    (h : (l.map Prod.fst).Nodup) {b : β} {c : γ} : l.lookup b = some c ↔ (b, c) ∈ l := by
  induction l with
  | nil => simp
  | cons entry l ih =>
    obtain ⟨b', c'⟩ := entry
    obtain ⟨hnew, hrest⟩ := List.nodup_cons.1 h
    by_cases hb : b = b'
    · subst hb
      have habsent : (b, c) ∉ l := fun hmem => hnew (List.mem_map.2 ⟨(b, c), hmem, rfl⟩)
      simp [habsent, eq_comm]
    · have hother : (b == b') = false := beq_eq_false_iff_ne.2 hb
      simp [List.lookup_cons, hother, hb, ih hrest]

/-- Whether an entry stands under one of the names. -/
def isNamed (names : List String) (entry : Quoted × Draft) : Bool :=
  names.any fun name => entry.1 = some name.toList

theorem isNamed_iff {names : List String} {entry : Quoted × Draft} :
    isNamed names entry ↔ ∃ name ∈ names, entry.1 = some name.toList := by
  simp [isNamed]

/-- The keys of an object are such as a record takes: strings of characters, no declared one twice,
and in a closed record none but the declared ones. -/
structure Admits (names : List String) (isClosed : Bool) (entries : List (Quoted × Draft)) :
    Prop where
  whole : WholeKeys entries
  once : DistinctKeys (entries.filter (isNamed names))
  declared : isClosed → ∀ entry ∈ entries, isNamed names entry

theorem DistinctKeys.admits {names : List String} {isClosed : Bool} (h : DistinctKeys entries)
    (hwhole : WholeKeys entries) (hopen : isClosed = false) : Admits names isClosed entries where
  whole := hwhole
  once := (List.filter_sublist.map Prod.fst).nodup h
  declared := by
    rw [hopen]
    rintro ⟨⟩

theorem valueOf_filter {names : List String} {name : String} (hname : name ∈ names) :
    valueOf (entries.filter (isNamed names)) name = valueOf entries name := by
  induction entries with
  | nil => rfl
  | cons entry entries ih =>
    obtain ⟨key, d⟩ := entry
    by_cases hkey : key = some name.toList
    · have hnamed : isNamed names (key, d) := isNamed_iff.2 ⟨name, hname, hkey⟩
      rw [List.filter_cons_of_pos hnamed, hkey]
      simp [valueOf]
    · have hother : (some name.toList == key) = false := beq_eq_false_iff_ne.2 (Ne.symm hkey)
      by_cases hnamed : isNamed names (key, d)
      · rw [List.filter_cons_of_pos hnamed]
        simpa [valueOf, List.lookup_cons, hother] using ih
      · rw [List.filter_cons_of_neg hnamed]
        simpa [valueOf, List.lookup_cons, hother] using ih

theorem valueOf_eq_some_iff {names : List String}
    (h : DistinctKeys (entries.filter (isNamed names))) {name : String} (hname : name ∈ names)
    {d : Draft} : valueOf entries name = some d ↔ (some name.toList, d) ∈ entries := by
  have hnamed : isNamed names (some name.toList, d) := isNamed_iff.2 ⟨name, hname, rfl⟩
  rw [← valueOf_filter hname, valueOf, lookup_eq_some_iff h, List.mem_filter]
  exact and_iff_left hnamed

/-- The entries that values amount to under given names. -/
def namedEntries (values : String → Option Draft) (names : List String) : List (Quoted × Draft) :=
  names.filterMap fun name => (values name).map fun d => (some name.toList, d)

theorem mem_namedEntries {values : String → Option Draft} {names : List String} {key : Quoted}
    {d : Draft} :
    (key, d) ∈ namedEntries values names ↔
      ∃ name ∈ names, key = some name.toList ∧ values name = some d := by
  simp only [namedEntries, List.mem_filterMap, Option.map_eq_some_iff, Prod.mk.injEq]
  constructor
  · rintro ⟨name, hname, _, hvalue, rfl, rfl⟩
    exact ⟨name, hname, rfl, hvalue⟩
  · rintro ⟨name, hname, rfl, hvalue⟩
    exact ⟨name, hname, d, hvalue, rfl, rfl⟩

theorem nodup_namedEntries {values : String → Option Draft} {names : List String}
    (h : names.Nodup) : (namedEntries values names).Nodup := by
  apply h.filterMap
  intro name name' entry hentry hentry'
  obtain ⟨_, -, rfl⟩ := Option.map_eq_some_iff.1 hentry
  obtain ⟨_, -, heq⟩ := Option.map_eq_some_iff.1 hentry'
  exact (String.toList_inj.1 (Option.some.inj (Prod.mk.inj heq).1)).symm

def presentNames (values : String → Option Draft) (names : List String) : List String :=
  names.filter fun name => (values name).isSome

def otherEntries (names : List String) (entries : List (Quoted × Draft)) : List (Quoted × Draft) :=
  entries.filter fun entry => !isNamed names entry

theorem perm_otherEntries_append {names : List String}
    (h : DistinctKeys (entries.filter (isNamed names))) (hnames : names.Nodup) :
    entries.Perm (otherEntries names entries ++ namedEntries (valueOf entries) names) := by
  have hnamed : (entries.filter (isNamed names)).Perm (namedEntries (valueOf entries) names) := by
    refine (List.perm_ext_iff_of_nodup (List.Nodup.of_map _ h) (nodup_namedEntries hnames)).2 ?_
    rintro ⟨key, d⟩
    simp only [List.mem_filter, isNamed_iff, mem_namedEntries]
    constructor
    · rintro ⟨hmem, name, hname, rfl⟩
      exact ⟨name, hname, rfl, (valueOf_eq_some_iff h hname).2 hmem⟩
    · rintro ⟨name, hname, rfl, hvalue⟩
      exact ⟨(valueOf_eq_some_iff h hname).1 hvalue, name, hname, rfl⟩
  have hsplit := List.filter_append_perm (isNamed names) entries
  exact hsplit.symm.trans (List.perm_append_comm.trans (hnamed.append_left _))

end Values

/-- Puts the value of a field into a record, if there is one. -/
def RecordField.put (field : RecordField α) (x : α) : Option Draft → Except Fault α
  | some d => (· x) <$> field.read d
  | none => .ok x

/-- Puts the values of fields into a record, one after the other. -/
def fill (values : String → Option Draft) : List (RecordField α) → α → Except Fault α
  | [], x => .ok x
  | field :: fields, x => field.put x (values field.name) >>= fill values fields

/-- Fields are put into a record one after the other, and none that is required is left out. -/
def Fills (values : String → Option Draft) (fields : List (RecordField α)) (x y : α) : Prop :=
  fill values fields x = .ok y ∧
    ∀ field ∈ fields, field.isRequired → (values field.name).isSome

section Fills

variable {values values' : String → Option Draft} {fields : List (RecordField α)} {x y : α}

theorem fills_nil : Fills values [] x y ↔ x = y := by
  simp [Fills, fill]

theorem fills_cons {field : RecordField α} :
    Fills values (field :: fields) x y ↔
      ∃ z, field.put x (values field.name) = .ok z ∧
        (field.isRequired → (values field.name).isSome) ∧ Fills values fields z y := by
  simp only [Fills, fill, bind_eq_ok_iff, List.forall_mem_cons]
  constructor
  · rintro ⟨⟨z, hput, hfill⟩, hfield, hrest⟩
    exact ⟨z, hput, hfield, hfill, hrest⟩
  · rintro ⟨z, hput, hfield, hfill, hrest⟩
    exact ⟨⟨z, hput, hfill⟩, hfield, hrest⟩

theorem fills_congr (h : ∀ field ∈ fields, values field.name = values' field.name) :
    Fills values fields x y ↔ Fills values' fields x y := by
  induction fields generalizing x with
  | nil => rw [fills_nil, fills_nil]
  | cons field fields ih =>
    obtain ⟨hfield, hfields⟩ := List.forall_mem_cons.1 h
    simp only [fills_cons, hfield, ih hfields]

theorem fills_nothing (h : ∀ field ∈ fields, values field.name = none) :
    Fills values fields x y ↔ x = y ∧ ∀ field ∈ fields, ¬ field.isRequired := by
  induction fields generalizing x with
  | nil => simp [fills_nil]
  | cons field fields ih =>
    obtain ⟨hfield, hfields⟩ := List.forall_mem_cons.1 h
    rw [fills_cons, hfield, List.forall_mem_cons]
    simp [RecordField.put, ih hfields, and_left_comm]

end Fills

namespace RecordShape

variable {shape : RecordShape α} {entries : List (Quoted × Draft)}

/-- Undeclared entries leave an open record as it is. -/
theorem takeEntries_undeclared (hopen : shape.isClosed = false)
    {others : List (Quoted × Draft)} (hsome : ∀ entry ∈ others, entry.1.isSome)
    (hothers : ∀ entry ∈ others, isNamed shape.fieldNames entry = false)
    (seen : List String) (x : α) (rest : List (Quoted × Draft)) :
    shape.takeEntries seen x (others ++ rest) = shape.takeEntries seen x rest := by
  induction others with
  | nil => rfl
  | cons entry others ih =>
    obtain ⟨key, d⟩ := entry
    obtain ⟨hkey, hkeys⟩ := List.forall_mem_cons.1 hsome
    obtain ⟨hother, hrest⟩ := List.forall_mem_cons.1 hothers
    obtain ⟨cs, rfl⟩ := Option.isSome_iff_exists.1 hkey
    have hname : String.ofList cs ∉ shape.fieldNames := by
      intro hin
      have hnamed : isNamed shape.fieldNames (some cs, d) :=
        isNamed_iff.2 ⟨_, hin, by rw [String.toList_ofList]⟩
      rw [hother] at hnamed
      cases hnamed
    have htakes := Takes.undeclared (d := d) hopen (field?_eq_none hname)
    rw [String.toList_ofList] at htakes
    rw [List.cons_append, htakes.takeEntries (List.forall_mem_nil _)]
    exact ih hkeys hrest

/-- The entries of the fields are taken in one after the other, each as far as it is there. -/
theorem takeEntries_namedEntries (hnames : shape.fieldNames.Nodup)
    (values : String → Option Draft) {fields : List (RecordField α)}
    (hfields : fields.Sublist shape.fields) (seen : List String) (x : α)
    (hseen : ∀ field ∈ fields, field.name ∉ seen) :
    shape.takeEntries seen x (namedEntries values (fields.map RecordField.name)) =
      (fun y => ((presentNames values (fields.map RecordField.name)).reverse ++ seen, y)) <$>
        fill values fields x := by
  induction fields generalizing seen x with
  | nil => rfl
  | cons field fields ih =>
    have hsub := List.sublist_of_cons_sublist hfields
    have hfield := field?_eq_some hnames (hfields.subset List.mem_cons_self)
    obtain ⟨hnew, hrest⟩ := List.forall_mem_cons.1 hseen
    cases hvalue : values field.name with
    | none =>
      simp only [List.map_cons, namedEntries, List.filterMap_cons, hvalue, Option.map_none, fill,
        RecordField.put, presentNames, List.filter_cons, Option.isSome_none]
      exact ih hsub seen x hrest
    | some d =>
      simp only [List.map_cons, namedEntries, List.filterMap_cons, hvalue, Option.map_some, fill,
        RecordField.put, presentNames, List.filter_cons, Option.isSome_some, if_true]
      cases hread : field.read d with
      | error fault =>
        simp only [takeEntries, takeEntry, String.ofList_toList, hfield, List.contains_iff_mem,
          hnew, if_false, hread]
        rfl
      | ok set =>
        have hlater := unseen_cons hnames hfields hrest
        rw [(Takes.declared hfield hread).takeEntries (by simpa using hnew)]
        refine (ih hsub _ _ hlater).trans ?_
        rw [List.reverse_cons, List.append_assoc]
        rfl

theorem missing?_presentNames (values : String → Option Draft) :
    shape.missing? (presentNames values shape.fieldNames).reverse = none ↔
      ∀ field ∈ shape.fields, field.isRequired → (values field.name).isSome := by
  rw [missing?_eq_none_iff]
  refine forall₂_congr fun field hfield => imp_congr_right fun _ => ?_
  rw [List.mem_reverse, presentNames, List.mem_filter]
  exact and_iff_right (List.mem_map.2 ⟨field, hfield, rfl⟩)

theorem takeEntries_arranged (hnames : shape.fieldNames.Nodup)
    (h : Admits shape.fieldNames shape.isClosed entries) (values : String → Option Draft) :
    shape.takeEntries [] shape.blank
        (otherEntries shape.fieldNames entries ++ namedEntries values shape.fieldNames) =
      (fun y => ((presentNames values shape.fieldNames).reverse, y)) <$>
        fill values shape.fields shape.blank := by
  have hfields := takeEntries_namedEntries hnames values (List.Sublist.refl shape.fields) []
    shape.blank fun _ _ => List.not_mem_nil
  rw [List.append_nil] at hfields
  cases hclosed : shape.isClosed with
  | true =>
    have hnone : otherEntries shape.fieldNames entries = [] :=
      List.filter_eq_nil_iff.2 fun entry hentry => by simp [h.declared hclosed entry hentry]
    rw [hnone]
    exact hfields
  | false =>
    have hsome : ∀ entry ∈ otherEntries shape.fieldNames entries, entry.1.isSome :=
      fun entry hentry => h.whole entry (List.mem_of_mem_filter hentry)
    have hothers : ∀ entry ∈ otherEntries shape.fieldNames entries,
        isNamed shape.fieldNames entry = false := fun entry hentry => by
      simpa using (List.mem_filter.1 hentry).2
    rw [takeEntries_undeclared hclosed hsome hothers]
    exact hfields

/-- An entry is passed over, or it fills the field under whose name it stands. -/
theorem Takes.passedOver_or_fills {entry : Quoted × Draft} {names : List String} {set : α → α}
    (h : shape.Takes entry names set) :
    entry.1.isSome ∧ ((shape.isClosed = false ∧ ¬ isNamed shape.fieldNames entry) ∨
      ∃ name ∈ shape.fieldNames, entry.1 = some name.toList ∧ names = [name]) := by
  cases h with
  | @undeclared name d hopen hfield =>
    refine ⟨rfl, .inl ⟨hopen, fun hnamed => ?_⟩⟩
    obtain ⟨other, hother, hkey⟩ := isNamed_iff.1 hnamed
    obtain ⟨field, hmem, rfl⟩ := List.mem_map.1 hother
    have hunlike := List.find?_eq_none.1 hfield field hmem
    exact hunlike (decide_eq_true (String.toList_inj.1 (Option.some.inj hkey)).symm)
  | @declared name d field set hfield _ =>
    obtain ⟨hmem, hname⟩ := mem_of_field? hfield
    exact ⟨rfl, .inr ⟨name, List.mem_map.2 ⟨field, hmem, hname⟩, rfl, rfl⟩⟩

/-- Only an object with such keys as the record takes is read; no entry repeats a field that was
read before. -/
theorem admits_of_takeEntries {seen out : List String} {x y : α}
    (h : shape.takeEntries seen x entries = .ok (out, y)) :
    Admits shape.fieldNames shape.isClosed entries ∧
      ∀ name ∈ seen, some name.toList ∉
        (entries.filter (isNamed shape.fieldNames)).map Prod.fst := by
  induction entries generalizing seen x with
  | nil =>
    exact ⟨⟨List.forall_mem_nil _, List.nodup_nil, fun _ => List.forall_mem_nil _⟩,
      fun _ _ => List.not_mem_nil⟩
  | cons entry entries ih =>
    obtain ⟨names, set, htakes, hnew, hrest⟩ := takeEntries_cons_eq_ok h
    obtain ⟨⟨hwhole, honce, hdeclared⟩, hseen⟩ := ih hrest
    obtain ⟨hkey, ⟨hopen, hother⟩ | ⟨name, hname, hentry, rfl⟩⟩ := htakes.passedOver_or_fills
    · have hfilter := List.filter_cons_of_neg (l := entries) hother
      refine ⟨⟨List.forall_mem_cons.2 ⟨hkey, hwhole⟩, hfilter ▸ honce, fun hclosed => ?_⟩,
        fun name hname => hfilter ▸ hseen name (List.mem_append_right _ hname)⟩
      rw [hopen] at hclosed
      cases hclosed
    · have hnamed : isNamed shape.fieldNames entry := isNamed_iff.2 ⟨name, hname, hentry⟩
      have hfilter := List.filter_cons_of_pos (l := entries) hnamed
      have hfirst := hseen name (List.mem_append_left _ List.mem_cons_self)
      refine ⟨⟨List.forall_mem_cons.2 ⟨hkey, hwhole⟩, ?_, fun hclosed =>
        List.forall_mem_cons.2 ⟨hnamed, hdeclared hclosed⟩⟩, fun other hother hin => ?_⟩
      · rw [DistinctKeys, hfilter, List.map_cons, List.nodup_cons, hentry]
        exact ⟨hfirst, honce⟩
      · rw [hfilter, List.map_cons, hentry] at hin
        rcases List.mem_cons.1 hin with heq | hin
        · rw [String.toList_inj.1 (Option.some.inj heq)] at hother
          exact hnew name List.mem_cons_self hother
        · exact hseen other (List.mem_append_right _ hother) hin

/-- An object is read by the values of the fields: its keys are such as the record takes, every
value is one of its field, and no required field is left out. -/
theorem readObject_eq_ok_iff (hnames : shape.fieldNames.Nodup) (hind : shape.Independent) {y : α} :
    shape.readObject entries .closed = .ok y ↔
      Admits shape.fieldNames shape.isClosed entries ∧
        Fills (valueOf entries) shape.fields shape.blank y := by
  -- the undeclared entries are brought to the front, and the others into the order of the fields
  have harranged : Admits shape.fieldNames shape.isClosed entries →
      (shape.readObject entries .closed = .ok y ↔ shape.readObject
        (otherEntries shape.fieldNames entries ++ namedEntries (valueOf entries) shape.fieldNames)
        .closed = .ok y) := fun hadmits =>
    have hperm := perm_otherEntries_append hadmits.once hnames
    ⟨readObject_perm hind hperm, readObject_perm hind hperm.symm⟩
  constructor
  · intro h
    obtain ⟨seen, htake, -⟩ := readObject_closed_eq_ok_iff.1 h
    have hadmits := (admits_of_takeEntries htake).1
    rw [harranged hadmits, readObject_closed_eq_ok_iff, takeEntries_arranged hnames hadmits] at h
    simp only [map_eq_ok_iff, Prod.mk.injEq] at h
    obtain ⟨_, ⟨z, hfill, rfl, rfl⟩, hmissing⟩ := h
    exact ⟨hadmits, hfill, (missing?_presentNames _).1 hmissing⟩
  · rintro ⟨hadmits, hfill, hrequired⟩
    rw [harranged hadmits, readObject_closed_eq_ok_iff, takeEntries_arranged hnames hadmits]
    simp only [map_eq_ok_iff, Prod.mk.injEq]
    exact ⟨_, ⟨y, hfill, rfl, rfl⟩, (missing?_presentNames _).2 hrequired⟩

section Arrays

/-- The item at the place of a name. -/
def itemOf (names : List String) (items : List Draft) (name : String) : Option Draft :=
  (names.zip items).lookup name

theorem itemOf_nil (names : List String) (name : String) : itemOf names [] name = none := by
  rw [itemOf, List.zip_nil_right, List.lookup_nil]

theorem itemOf_first (names : List String) (items : List Draft) (name : String) (d : Draft) :
    itemOf (name :: names) (d :: items) name = some d := by
  simp [itemOf]

theorem itemOf_later {names : List String} {name other : String} (h : other ≠ name)
    (items : List Draft) (d : Draft) :
    itemOf (name :: names) (d :: items) other = itemOf names items other := by
  have hdiffer : (other == name) = false := beq_eq_false_iff_ne.2 h
  simp [itemOf, List.lookup_cons, hdiffer]

/-- Where the items run out, the record stays as it is, if none of the fields is required. -/
theorem takeItems_nil {fields : List (RecordField α)} {index surplus : Nat} {x y : α} :
    shape.takeItems .closed index x fields [] = .ok (surplus, y) ↔
      surplus = 0 ∧ x = y ∧ ∀ field ∈ fields, ¬ field.isRequired := by
  cases fields with
  | nil =>
    simp only [takeItems, List.length_nil, Except.ok.injEq, Prod.mk.injEq]
    exact and_congr eq_comm (and_iff_left (List.forall_mem_nil _)).symm
  | cons field fields =>
    cases hindex : (field :: fields).findIdx? (·.isRequired) with
    | none =>
      have hoptional : ∀ other ∈ field :: fields, ¬ other.isRequired := by
        simpa using List.findIdx?_eq_none_iff.1 hindex
      have htake : shape.takeItems .closed index x (field :: fields) [] = .ok (0, x) := by
        simp only [takeItems, Reader.checkEnding, hindex]
        rfl
      rw [htake, Except.ok.injEq, Prod.mk.injEq, eq_comm]
      exact and_congr_right fun _ => (and_iff_left hoptional).symm
    | some i =>
      have hneeded : (field :: fields).any (·.isRequired) := by
        rw [← List.findIdx?_isSome, hindex]
        rfl
      obtain ⟨other, hother, hrequired⟩ := List.any_eq_true.1 hneeded
      refine iff_of_false (fun htake => ?_) fun hall => hall.2.2 other hother hrequired
      simp only [takeItems, Reader.checkEnding, hindex] at htake
      cases htake

/-- Items are taken for the fields in their order; what is left over is counted. -/
theorem takeItems_closed_eq_ok_iff {fields : List (RecordField α)} {items : List Draft}
    {index surplus : Nat} {x y : α} (hnames : (fields.map RecordField.name).Nodup) :
    shape.takeItems .closed index x fields items = .ok (surplus, y) ↔
      surplus = items.length - fields.length ∧
        Fills (itemOf (fields.map RecordField.name) items) fields x y := by
  induction fields generalizing items index x with
  | nil =>
    simp only [takeItems, Except.ok.injEq, Prod.mk.injEq, fills_nil, List.length_nil, Nat.sub_zero]
    exact and_congr_left fun _ => eq_comm
  | cons field fields ih =>
    obtain ⟨hnew, hrest⟩ := List.nodup_cons.1 hnames
    cases items with
    | nil =>
      rw [takeItems_nil, fills_nothing fun _ _ => itemOf_nil _ _, List.length_nil, Nat.zero_sub]
    | cons d items =>
      have hlater : ∀ other ∈ fields, itemOf ((field :: fields).map RecordField.name) (d :: items)
          other.name = itemOf (fields.map RecordField.name) items other.name := fun other hother =>
        itemOf_later (fun heq => hnew (List.mem_map.2 ⟨other, hother, heq⟩)) items d
      have hsurplus : (d :: items).length - (field :: fields).length =
          items.length - fields.length := by
        simp
      simp only [takeItems, bind_eq_ok_iff, ih hrest, fills_cons, fills_congr hlater]
      rw [hsurplus, List.map_cons, itemOf_first]
      simp only [RecordField.put, map_eq_ok_iff]
      constructor
      · rintro ⟨set, hset, hsurplus, hfills⟩
        exact ⟨hsurplus, set x, ⟨set, hset, rfl⟩, fun _ => rfl, hfills⟩
      · rintro ⟨hsurplus, _, ⟨set, hset, rfl⟩, -, hfills⟩
        exact ⟨set, hset, hsurplus, hfills⟩

/-- An array is read as the object of its items under the names of the fields, in their order. -/
theorem readArray_eq_ok_iff (hnames : shape.fieldNames.Nodup) {items : List Draft} {y : α} :
    shape.readArray items .closed = .ok y ↔
      items.length ≤ shape.fields.length ∧
        Fills (itemOf shape.fieldNames items) shape.fields shape.blank y := by
  simp only [readArray, bind_eq_ok_iff, Reader.checkEnding]
  constructor
  · rintro ⟨⟨surplus, z⟩, htake, -, -, hread⟩
    obtain ⟨rfl, hfills⟩ := (takeItems_closed_eq_ok_iff hnames).1 htake
    split at hread
    · rename_i hsurplus
      cases hread
      exact ⟨Nat.sub_eq_zero_iff_le.1 hsurplus, hfills⟩
    · cases hread
  · rintro ⟨hlength, hfills⟩
    have hsurplus := Nat.sub_eq_zero_of_le hlength
    exact ⟨_, (takeItems_closed_eq_ok_iff hnames).2 ⟨rfl, hfills⟩, (), trivial, if_pos hsurplus⟩

end Arrays

end RecordShape

end ConstructorPlanning.Json
