import ConstructorPlanning.Json.Value
import ConstructorPlanning.Proofs.TextReading
/-!
Written values are read back whole: in both layouts the text of a value spells the value's own
draft.
-/
namespace ConstructorPlanning.Json

section Drafts

def numeral (n : Nat) : NumberText where
  whole := Nat.toDigits 10 n

mutual

/-- The draft of a value that was read to its end. -/
def draft : Json → Draft
  | null => .null
  | boolean b => .boolean b
  | natural n => .number (numeral n)
  | string s => .string (some s.toList)
  | array items => .array (drafts items) .closed
  | object entries => .object (entryDrafts entries) .closed

def drafts : List Json → List Draft
  | [] => []
  | item :: rest => draft item :: drafts rest

def entryDrafts : List (String × Json) → List (Quoted × Draft)
  | [] => []
  | (key, v) :: rest => (some key.toList, draft v) :: entryDrafts rest

end

theorem drafts_eq_map (items : List Json) : drafts items = items.map draft := by
  induction items with
  | nil => rfl
  | cons item items ih => rw [drafts, ih, List.map_cons]

theorem entryDrafts_eq_map (entries : List (String × Json)) :
    entryDrafts entries = entries.map fun entry => (some entry.1.toList, draft entry.2) := by
  induction entries with
  | nil => rfl
  | cons entry entries ih => rw [entryDrafts, ih, List.map_cons]

end Drafts

section Numbers

theorem digitChar_ne_zero : ∀ n < 10, 0 < n → Nat.digitChar n ≠ '0' := by
  decide

/-- No number but zero is written with a zero in front. -/
theorem head_toDigits {n : Nat} (h : 0 < n) : (Nat.toDigits 10 n).head? ≠ some '0' := by
  induction n using Nat.strongRecOn with
  | ind n ih =>
    by_cases hsmall : n < 10
    · rw [Nat.toDigits_of_lt_base hsmall]
      exact fun hzero => digitChar_ne_zero n hsmall h (Option.some.inj hzero)
    · have hlarge : 10 ≤ n := Nat.not_lt.1 hsmall
      have hfront := ih (n / 10) (Nat.div_lt_self h (by decide)) (Nat.div_pos hlarge (by decide))
      rw [Nat.toDigits_of_base_le (by decide) hlarge, List.head?_append]
      cases hdigits : Nat.toDigits 10 (n / 10) with
      | nil => exact absurd hdigits Nat.toDigits_ne_nil
      | cons d ds =>
        rw [hdigits] at hfront
        exact hfront

theorem wholeText_toDigits (n : Nat) : WholeText (Nat.toDigits 10 n) := by
  rcases Nat.eq_zero_or_pos n with rfl | hpos
  · exact .zero
  · have hall : ∀ c ∈ Nat.toDigits 10 n, c.isDigit := fun c =>
      Nat.isDigit_of_mem_toDigits (by decide) (by decide)
    have hhead := head_toDigits hpos
    cases hdigits : Nat.toDigits 10 n with
    | nil => exact absurd hdigits Nat.toDigits_ne_nil
    | cons d ds =>
      rw [hdigits] at hall hhead
      obtain ⟨hd, hds⟩ := List.forall_mem_cons.1 hall
      exact .digits hd (fun hzero => hhead (congrArg some hzero)) hds

theorem numeralText_toDigits (n : Nat) : NumeralText (numeral n) (Nat.toDigits 10 n) := by
  have htext := NumeralText.positive (wholeText_toDigits n) .absent .absent
  rw [List.append_nil, List.append_nil] at htext
  exact htext

end Numbers

section Strings

/-- The piece that a character is read as once it is written. -/
def writtenPiece (c : Char) : Piece :=
  if c.toNat < 0x20 ∧ c ∉ ['\x08', '\t', '\n', '\x0c', '\r'] then .unit c.toNat else .char c

theorem hexUnit_control : ∀ n < 0x20,
    hexUnit? ['0', '0', Nat.digitChar (n / 16), Nat.digitChar (n % 16)] = some n := by
  decide

theorem piecesText_escapedChar (c : Char) {pieces : List Piece} {text : List Char}
    (rest : PiecesText pieces text) :
    PiecesText (writtenPiece c :: pieces) (escapedChar c ++ text) := by
  unfold escapedChar
  split
  case h_8 hquote hslash hb ht hn hf hr =>
    -- no escape of its own: a control is written by its code, all else as it stands
    split
    · rename_i hcontrol
      have hpiece : writtenPiece c = .unit c.toNat :=
        if_pos ⟨hcontrol, by simpa using ⟨hb, ht, hn, hf, hr⟩⟩
      rw [hpiece]
      exact .unit (hexUnit_control c.toNat hcontrol) rest
    · rename_i hplain
      have hpiece : writtenPiece c = .char c := if_neg fun h => hplain h.1
      rw [hpiece]
      exact .plain hquote hslash (Nat.not_lt.1 hplain) rest
  all_goals exact .escape rfl rest

theorem piecesText_written (cs : List Char) :
    PiecesText (cs.map writtenPiece) (cs.flatMap escapedChar) := by
  induction cs with
  | nil => exact .nil
  | cons c cs ih => exact piecesText_escapedChar c ih

theorem assembled_unit {code : Nat} (h : code < 0xD800) (rest : List Piece) :
    assembled (.unit code :: rest) = (assembled rest).map (Char.ofNat code :: ·) := by
  have hhigh : ¬ (0xD800 ≤ code ∧ code ≤ 0xDBFF) := by omega
  have hlow : ¬ (0xDC00 ≤ code ∧ code ≤ 0xDFFF) := by omega
  have hpair : ¬ (0xD800 ≤ code ∧ code ≤ 0xDFFF) := by omega
  cases rest with
  | nil => simp only [assembled, if_neg hpair]
  | cons piece rest =>
    cases piece with
    | char c => simp only [assembled, if_neg hpair]
    | unit low => rw [assembled, if_neg hhigh, if_neg hlow]

theorem assembled_written (cs : List Char) : assembled (cs.map writtenPiece) = some cs := by
  induction cs with
  | nil => rfl
  | cons c cs ih =>
    rw [List.map_cons, writtenPiece]
    split
    · rename_i hcontrol
      rw [assembled_unit (by omega), ih, Char.ofNat_toNat]
      rfl
    · rw [assembled, ih]
      rfl

theorem quotedText_stringText (s : String) : QuotedText (some s.toList) (stringText s) := by
  have htext := QuotedText.quoted (piecesText_written s.toList)
  rw [assembled_written] at htext
  exact htext

end Strings

section Layout

theorem blank_nil : Blank [] := nofun

theorem blank_space : Blank [' '] := by
  intro c hc
  obtain rfl := List.mem_singleton.1 hc
  rfl

theorem blank_newLine (level : Nat) : Blank (newLine level) := by
  intro c hc
  rcases List.mem_cons.1 hc with rfl | hc
  · rfl
  · rw [List.eq_of_mem_replicate hc]
    rfl

theorem Spells.after {d : Draft} {text after : List Char} (h : Spells d text)
    (hafter : Blank after) : Spells d (text ++ after) :=
  .spaced blank_nil h hafter

theorem Spells.before {d : Draft} {before text : List Char} (hbefore : Blank before)
    (h : Spells d text) : Spells d (before ++ text) := by
  have hspaced := Spells.spaced hbefore h blank_nil
  rw [List.append_nil] at hspaced
  exact hspaced

theorem SpellsEntry.after {entry : Quoted × Draft} {text after : List Char}
    (h : SpellsEntry entry text) (hafter : Blank after) : SpellsEntry entry (text ++ after) := by
  cases h with
  | entry hbefore hkey hbehind h =>
    simp only [List.append_assoc, List.cons_append]
    exact .entry hbefore hkey hbehind (h.after hafter)

/-- An entry whose key has white space only before it. -/
theorem spellsEntry_written {before text : List Char} {d : Draft} (hbefore : Blank before)
    (key : String) (h : Spells d text) :
    SpellsEntry (some key.toList, d) (before ++ (stringText key ++ ':' :: text)) :=
  .entry hbefore (quotedText_stringText key) blank_nil h

end Layout

section Compact

mutual

theorem spells_compactChars : ∀ v : Json, Spells v.draft (compactChars v)
  | .null => .null
  | .boolean true => .true
  | .boolean false => .false
  | .natural n => .number (numeralText_toDigits n)
  | .string s => .string (quotedText_stringText s)
  | .array [] => .emptyArray blank_nil
  | .array (item :: items) => .array (spells_compactItems (item :: items) (List.cons_ne_nil _ _))
  | .object [] => .emptyObject blank_nil
  | .object (entry :: entries) =>
    .object (spells_compactEntries (entry :: entries) (List.cons_ne_nil _ _))

theorem spells_compactItems : ∀ items : List Json, items ≠ [] →
    SpellsItems (drafts items) (compactItems items)
  | [], hsome => absurd rfl hsome
  | [item], _ => .one (spells_compactChars item)
  | item :: next :: items, _ =>
    .more (spells_compactChars item) (spells_compactItems (next :: items) (List.cons_ne_nil _ _))

theorem spells_compactEntries : ∀ entries : List (String × Json), entries ≠ [] →
    SpellsEntries (entryDrafts entries) (compactEntries entries)
  | [], hsome => absurd rfl hsome
  | [(key, v)], _ => .one (spellsEntry_written blank_nil key (spells_compactChars v))
  | (key, v) :: next :: entries, _ =>
    .more (spellsEntry_written blank_nil key (spells_compactChars v))
      (spells_compactEntries (next :: entries) (List.cons_ne_nil _ _))

end

end Compact

section Pretty

-- the items and entries behind the first are added to its text, and white space behind the last
mutual

theorem spells_prettyChars : ∀ (level : Nat) (v : Json), Spells v.draft (prettyChars level v)
  | _, .null => .null
  | _, .boolean true => .true
  | _, .boolean false => .false
  | _, .natural n => .number (numeralText_toDigits n)
  | _, .string s => .string (quotedText_stringText s)
  | _, .array [] => .emptyArray blank_nil
  | level, .array (item :: items) => by
    have hfirst := (spells_prettyChars (level + 1) item).before (blank_newLine (level + 1))
    have hall := Spells.array
      (spells_prettyItems (level + 1) items hfirst (blank_newLine level))
    simp only [prettyChars, List.append_assoc, List.cons_append] at hall ⊢
    exact hall
  | _, .object [] => .emptyObject blank_nil
  | level, .object ((key, v) :: entries) => by
    have hvalue := (spells_prettyChars (level + 1) v).before blank_space
    have hfirst := spellsEntry_written (blank_newLine (level + 1)) key hvalue
    have hall := Spells.object
      (spells_prettyEntries (level + 1) entries hfirst (blank_newLine level))
    simp only [prettyChars, List.append_assoc, List.cons_append] at hall ⊢
    exact hall

theorem spells_prettyItems (level : Nat) : ∀ (items : List Json) {d : Draft}
    {text after : List Char}, Spells d text → Blank after →
    SpellsItems (d :: drafts items) (text ++ (prettyItems level items ++ after))
  | [], _, _, _, h, hafter => .one (h.after hafter)
  | item :: items, _, _, _, h, hafter => by
    have hnext := (spells_prettyChars level item).before (blank_newLine level)
    have hrest := spells_prettyItems level items hnext hafter
    simp only [prettyItems, List.append_assoc, List.cons_append] at hrest ⊢
    exact .more h hrest

theorem spells_prettyEntries (level : Nat) : ∀ (entries : List (String × Json))
    {entry : Quoted × Draft} {text after : List Char}, SpellsEntry entry text → Blank after →
    SpellsEntries (entry :: entryDrafts entries) (text ++ (prettyEntries level entries ++ after))
  | [], _, _, _, h, hafter => .one (h.after hafter)
  | (key, v) :: entries, _, _, _, h, hafter => by
    have hvalue := (spells_prettyChars level v).before blank_space
    have hnext := spellsEntry_written (blank_newLine level) key hvalue
    have hrest := spells_prettyEntries level entries hnext hafter
    simp only [prettyEntries, List.append_assoc, List.cons_append] at hrest ⊢
    exact .more h hrest

end

end Pretty

/-- The text of a value spells it in both layouts. -/
theorem spells_compact (v : Json) : Spells v.draft v.compact.toList := by
  rw [compact, String.toList_ofList]
  exact spells_compactChars v

theorem spells_pretty (v : Json) : Spells v.draft v.pretty.toList := by
  rw [pretty, String.toList_ofList]
  exact spells_prettyChars 0 v

theorem Document.ofText_pretty (v : Json) : Document.ofText v.pretty = ⟨v.draft, false⟩ :=
  ofText_spells (spells_pretty v)

/-- A shape that reads a value's draft reads its compact text. -/
theorem Reader.ofText_compact {α : Type} {read : Reader α} {v : Json} {a : α}
    (h : read v.draft = .ok a) : read.ofText v.compact = .ok a :=
  (Reader.ofText_spells (spells_compact v) read).trans h

end ConstructorPlanning.Json
