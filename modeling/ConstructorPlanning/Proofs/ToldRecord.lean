import ConstructorPlanning.Proofs.FieldReading
/-!
What a value has to be to tell a text, a number, a list or a record, and that the readers read just
that. A record is told by what stands under the names of its fields.
-/
namespace ConstructorPlanning.Json

section Leaves

variable {β : Type}

/-- The reader reads a value from just what tells it. -/
def Reader.Reads (read : Reader β) (tells : β → Draft → Prop) : Prop :=
  ∀ v d, read d = .ok v ↔ tells v d

def TellsText (s : String) (d : Draft) : Prop :=
  d = .string (some s.toList)

def TellsFlag (b : Bool) (d : Draft) : Prop :=
  d = .boolean b

/-- A numeral without sign, point and exponent. -/
def TellsWord (n : UInt32) (d : Draft) : Prop :=
  ∃ digits, d = .number ⟨false, digits, none, none⟩ ∧ Nat.ofDigitChars 10 digits 0 = n.toNat

/-- A name, or an object that has null under it and nothing else. -/
inductive TellsName (name : String) : Draft → Prop where
  | bare : TellsName name (.string (some name.toList))
  | keyed : TellsName name (.object [(some name.toList, .null)] .closed)

/-- Nothing is told by null. -/
inductive TellsOptional (tells : β → Draft → Prop) : Option β → Draft → Prop where
  | nothing : TellsOptional tells none .null
  | something {v : β} {d : Draft} (h : tells v d) : TellsOptional tells (some v) d

/-- A list is told by an array of its items, in their order. -/
inductive TellsList (tells : β → Draft → Prop) : List β → Draft → Prop where
  | array {values : List β} {items : List Draft} (h : List.Forall₂ tells values items) :
    TellsList tells values (.array items .closed)

theorem reads_string : Reader.Reads Reader.string TellsText := by
  intro s d
  cases d with
  | string chars =>
    cases chars with
    | none => simp [Reader.string, TellsText]
    | some chars => simp [Reader.string, TellsText, ← String.toList_inj]
  | _ => simp [Reader.string, TellsText]

theorem reads_boolean : Reader.Reads Reader.boolean TellsFlag := by
  intro b d
  cases d <;> simp [Reader.boolean, TellsFlag]

theorem Numeric.ofText_eq_natural_iff {text : NumberText} {n : Nat} :
    Numeric.ofText? text = some (.natural n) ↔
      n < UInt64.size ∧
        ∃ digits, text = ⟨false, digits, none, none⟩ ∧ Nat.ofDigitChars 10 digits 0 = n := by
  obtain ⟨negative, whole, fraction, exponent⟩ := text
  simp only [Numeric.ofText?]
  constructor
  · intro h
    split at h
    · rename_i hnatural
      obtain ⟨hinteger, hsign, hsmall⟩ := hnatural
      obtain ⟨hfraction, hexponent⟩ := Bool.and_eq_true_iff.1 hinteger
      have hpositive : negative = false := by simpa using hsign
      cases h
      refine ⟨hsmall, whole, ?_, rfl⟩
      rw [hpositive, Option.isNone_iff_eq_none.1 hfraction, Option.isNone_iff_eq_none.1 hexponent]
    · split at h
      · cases h
      · obtain ⟨_, -, hreal⟩ := Option.map_eq_some_iff.1 h
        cases hreal
  · rintro ⟨hsmall, digits, ⟨⟩, rfl⟩
    rw [if_pos ⟨rfl, rfl, hsmall⟩]

theorem natural_eq_ok_iff {title : String} {bound n : Nat} {d : Draft}
    (hbound : bound ≤ UInt64.size) :
    Reader.natural title bound d = .ok n ↔
      n < bound ∧
        ∃ digits, d = .number ⟨false, digits, none, none⟩ ∧ Nat.ofDigitChars 10 digits 0 = n := by
  constructor
  · intro h
    unfold Reader.natural at h
    split at h
    · split at h
      · rename_i k hvalue
        split at h
        · rename_i hlt
          cases h
          obtain ⟨-, digits, rfl, hdigits⟩ := Numeric.ofText_eq_natural_iff.1 hvalue
          exact ⟨hlt, digits, rfl, hdigits⟩
        · cases h
      · cases h
      · cases h
      · cases h
    · cases h
  · rintro ⟨hlt, digits, rfl, hdigits⟩
    have hvalue := Numeric.ofText_eq_natural_iff.2
      ⟨Nat.lt_of_lt_of_le hlt hbound, digits, rfl, hdigits⟩
    rw [Reader.natural, hvalue]
    exact if_pos hlt

theorem reads_word32 : Reader.Reads Reader.word32 TellsWord := by
  intro n d
  have hsize : UInt32.size ≤ UInt64.size := by decide
  simp only [Reader.word32, map_eq_ok_iff, natural_eq_ok_iff hsize]
  constructor
  · rintro ⟨k, ⟨hlt, digits, rfl, hdigits⟩, rfl⟩
    exact ⟨digits, rfl, by rw [hdigits, UInt32.toNat_ofNat_of_lt' hlt]⟩
  · rintro ⟨digits, rfl, hdigits⟩
    exact ⟨n.toNat, ⟨n.toNat_lt, digits, rfl, hdigits⟩, UInt32.ofNat_toNat⟩

theorem Reader.Reads.optional {read : Reader β} {tells : β → Draft → Prop}
    (hread : Reads read tells) (hnull : ∀ v, ¬ tells v .null) :
    Reads (Reader.optional read) (TellsOptional tells) := by
  intro v d
  constructor
  · intro h
    unfold Reader.optional at h
    split at h
    · cases h
      exact .nothing
    · obtain ⟨w, hw, rfl⟩ := map_eq_ok_iff.1 h
      exact .something ((hread w _).1 hw)
  · intro h
    cases h with
    | nothing => rfl
    | @something w d htold =>
      have hsome : Reader.optional read d = some <$> read d := by
        cases d with
        | null => exact absurd htold (hnull w)
        | _ => rfl
      rw [hsome, (hread w d).2 htold]
      rfl

theorem Reader.Reads.list {read : Reader β} {tells : β → Draft → Prop} (hread : Reads read tells) :
    Reads (Reader.list read) (TellsList tells) := by
  intro values d
  cases d with
  | array items ending =>
    simp only [Reader.list, bind_eq_ok_iff, mapM_eq_ok_iff, hread _ _]
    constructor
    · rintro ⟨_, hitems, _, hending, ⟨⟩⟩
      cases ending with
      | closed => exact .array hitems.flip
      | cut => cases hending
    · rintro ⟨hitems⟩
      exact ⟨values, hitems.flip, (), rfl, rfl⟩
  | _ =>
    refine iff_of_false (fun h => ?_) fun h => ?_
    · cases h
    · cases h

theorem reads_enumeration {all : List β} {nameOf : β → String} (hnames : (all.map nameOf).Nodup)
    (hall : ∀ v, v ∈ all) :
    Reader.Reads (Reader.enumeration (all.map fun v => (nameOf v, v)))
      fun v => TellsName (nameOf v) := by
  intro v d
  have hvariant : ∀ chars, Reader.variant (all.map fun v => (nameOf v, v)) chars = .ok v ↔
      chars = (nameOf v).toList := by
    intro chars
    have hkeys : ((all.map fun v => (nameOf v, v)).map Prod.fst).Nodup := by
      rwa [List.map_map]
    have hlookup : (all.map fun v => (nameOf v, v)).lookup (String.ofList chars) = some v ↔
        chars = (nameOf v).toList := by
      rw [lookup_eq_some_iff hkeys, List.mem_map]
      constructor
      · rintro ⟨w, -, heq⟩
        obtain ⟨hname, rfl⟩ := Prod.mk.inj heq
        rw [hname, String.toList_ofList]
      · rintro rfl
        exact ⟨v, hall v, by rw [String.ofList_toList]⟩
    rw [← hlookup, Reader.variant]
    cases (all.map fun v => (nameOf v, v)).lookup (String.ofList chars) <;> simp
  constructor
  · intro h
    unfold Reader.enumeration at h
    split at h
    · rw [(hvariant _).1 h]
      exact .bare
    · rename_i chars d rest ending
      obtain ⟨w, hw, h⟩ := bind_eq_ok_iff.1 h
      obtain ⟨_, hunit, h⟩ := bind_eq_ok_iff.1 h
      split at h
      · rename_i hrest
        obtain ⟨_, hending, ⟨⟩⟩ := bind_eq_ok_iff.1 h
        have hnull : d = .null := by
          cases d with
          | null => rfl
          | _ => cases hunit
        have hclosed : ending = .closed := by
          cases ending with
          | closed => rfl
          | cut => cases hending
        rw [(hvariant chars).1 hw, hnull, List.isEmpty_iff.1 hrest, hclosed]
        exact .keyed
      · cases h
    · cases h
  · rintro (_ | _)
    · exact (hvariant _).2 rfl
    · rw [Reader.enumeration, (hvariant _).2 rfl]
      rfl

end Leaves

section Records

variable {α β : Type}

/-- A field takes the value that is told for it, or else its default, if it has one. -/
inductive Carries (tells : β → Draft → Prop) (default : Option β) : Option Draft → β → Prop where
  | told {v : β} {d : Draft} (h : tells v d) : Carries tells default (some d) v
  | leftOut {v : β} (h : default = some v) : Carries tells default none v

variable {values : String → Option Draft} {fields : List (RecordField α)} {name : String}
  {read : Reader β} {tells : β → Draft → Prop} {set : β → α → α} {x y : α}

theorem carries_some {default : Option β} {d : Draft} {v : β} :
    Carries tells default (some d) v ↔ tells v d := by
  constructor
  · rintro ⟨h⟩
    exact h
  · exact .told

theorem carries_none {default : Option β} {v : β} :
    Carries tells default none v ↔ default = some v := by
  constructor
  · rintro ⟨⟩
    assumption
  · exact .leftOut

theorem fills_required (hread : Reader.Reads read tells) :
    Fills values (.required name read set :: fields) x y ↔
      ∃ v, Carries tells none (values name) v ∧ Fills values fields (set v x) y := by
  simp only [fills_cons, RecordField.required]
  cases values name with
  | none => simp [carries_none]
  | some d =>
    simp only [RecordField.put, map_eq_ok_iff, hread _ _, exists_exists_and_eq_and, carries_some,
      Option.isSome_some, implies_true, true_and]

theorem fills_defaulted (hread : Reader.Reads read tells) (default : β)
    (hdefault : set default x = x) :
    Fills values (.defaulted name read set :: fields) x y ↔
      ∃ v, Carries tells (some default) (values name) v ∧ Fills values fields (set v x) y := by
  simp only [fills_cons, RecordField.defaulted]
  cases values name with
  | none => simp [carries_none, RecordField.put, hdefault]
  | some d =>
    simp only [RecordField.put, map_eq_ok_iff, hread _ _, exists_exists_and_eq_and, carries_some,
      Bool.false_eq_true, false_imp_iff, true_and]

end Records

namespace RecordShape

variable {α : Type} {shape : RecordShape α}

/-- A record is told by an object or by an array: `tells` says what the values under the names have
to be. -/
inductive Told (names : List String) (isClosed : Bool) (tells : (String → Option Draft) → Prop) :
    Draft → Prop where
  | object {entries : List (Quoted × Draft)} (hkeys : Admits names isClosed entries)
      (h : tells (valueOf entries)) : Told names isClosed tells (.object entries .closed)
  | array {items : List Draft} (hlength : items.length ≤ names.length)
      (h : tells (itemOf names items)) : Told names isClosed tells (.array items .closed)

theorem Told.mono {names : List String} {isClosed : Bool}
    {tells tells' : (String → Option Draft) → Prop} {d : Draft} (h : Told names isClosed tells d)
    (himp : ∀ values, tells values → tells' values) : Told names isClosed tells' d := by
  cases h with
  | object hkeys h => exact .object hkeys (himp _ h)
  | array hlength h => exact .array hlength (himp _ h)

theorem told_congr {names : List String} {isClosed : Bool}
    {tells tells' : (String → Option Draft) → Prop} (h : ∀ values, tells values ↔ tells' values)
    {d : Draft} : Told names isClosed tells d ↔ Told names isClosed tells' d :=
  ⟨fun htold => htold.mono fun values => (h values).1,
    fun htold => htold.mono fun values => (h values).2⟩

/-- What a shape reads is what is told by the values of its fields. -/
theorem read_eq_ok_iff (hnames : shape.fieldNames.Nodup) (hind : shape.Independent) {d : Draft}
    {y : α} :
    shape.read d = .ok y ↔
      Told shape.fieldNames shape.isClosed (Fills · shape.fields shape.blank y) d := by
  constructor
  · intro h
    have hwhole := isWhole_of_read h
    cases d with
    | object entries ending =>
      cases ending with
      | closed =>
        obtain ⟨hkeys, htold⟩ := (readObject_eq_ok_iff hnames hind).1 h
        exact .object hkeys htold
      | cut => cases hwhole
    | array items ending =>
      cases ending with
      | closed =>
        obtain ⟨hlength, htold⟩ := (readArray_eq_ok_iff hnames).1 h
        exact .array (by rwa [fieldNames, List.length_map]) htold
      | cut => cases hwhole
    | _ => cases h
  · intro h
    cases h with
    | object hkeys htold => exact (readObject_eq_ok_iff hnames hind).2 ⟨hkeys, htold⟩
    | array hlength htold =>
      rw [fieldNames, List.length_map] at hlength
      exact (readArray_eq_ok_iff hnames).2 ⟨hlength, htold⟩

/-- A record is told by values with which its fields are filled. -/
theorem reads {tells : α → (String → Option Draft) → Prop} (hnames : shape.fieldNames.Nodup)
    (hind : shape.Independent)
    (h : ∀ x values, Fills values shape.fields shape.blank x ↔ tells x values) :
    Reader.Reads shape.read fun x => Told shape.fieldNames shape.isClosed (tells x) :=
  fun x _ => (read_eq_ok_iff hnames hind).trans (told_congr (h x))

end RecordShape

end ConstructorPlanning.Json
