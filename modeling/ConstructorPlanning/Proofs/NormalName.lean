import Mathlib
import ConstructorPlanning.Proofs.Naming
/-!
The shape of parameter names for members with ASCII names. A name of this shape is the parameter
name of itself, and stays of this shape with a numeral after it.
-/
namespace ConstructorPlanning.ParameterName

def IsAscii (text : List Char) : Prop :=
  ∀ c ∈ text, c.toNat < 0x80

instance (text : List Char) : Decidable (IsAscii text) :=
  List.decidableBAll (fun c : Char => c.toNat < 0x80) text

/-- A lower-case letter, or an underscore and a digit, with letters and digits after it. -/
inductive IsNormal : List Char → Prop where
  | letter {c : Char} {rest : List Char} (head : c.isLower) (tail : ∀ d ∈ rest, d.isAlphanum) :
      IsNormal (c :: rest)
  | digit {c : Char} {rest : List Char} (head : c.isDigit) (tail : ∀ d ∈ rest, d.isAlphanum) :
      IsNormal ('_' :: c :: rest)

section Characters

variable {c : Char}

theorem toNat_lt_of_isAlphanum (h : c.isAlphanum) : c.toNat < 0x80 := by
  simp [Char.isAlphanum, Char.isAlpha, Char.isUpper, Char.isLower, Char.isDigit,
    UInt32.le_iff_toNat_le, ← Char.toNat_val] at h ⊢
  omega

theorem isAlphanum_of_isLower (h : c.isLower) : c.isAlphanum := by
  simp [Char.isAlphanum, Char.isAlpha, h]

theorem isAlphanum_of_isDigit (h : c.isDigit) : c.isAlphanum := by
  simp [Char.isAlphanum, h]

theorem isAlphanumeric_eq (hc : c.toNat < 0x80) : Text.isAlphanumeric c = c.isAlphanum :=
  if_pos hc

theorem isNumeral_eq (hc : c.toNat < 0x80) : Text.isNumeral c = c.isDigit :=
  if_pos hc

theorem lowered_eq (hc : c.toNat < 0x80) : Text.lowered c = [c.toLower] :=
  if_pos hc

theorem uppered_eq (hc : c.toNat < 0x80) : Text.uppered c = [c.toUpper] :=
  if_pos hc

/-- What holds of the characters with the first 128 codes holds of every ASCII character. -/
@[elab_as_elim]
theorem forall_ascii {P : Char → Prop} {c : Char} (hc : c.toNat < 0x80)
    (hall : ∀ n < 0x80, P (Char.ofNat n)) : P c := by
  have h := hall c.toNat hc
  rwa [Char.ofNat_toNat] at h

/-- What recasing and the case of a first letter come to on letters and digits. -/
theorem recased_isAlphanum (h : c.isAlphanum) :
    c.toLower.isAlphanum ∧ c.toUpper.isAlphanum ∧ (c.toLower.isLower ∨ c.toLower.isDigit) := by
  have hascii := toNat_lt_of_isAlphanum h
  revert h
  exact forall_ascii hascii (by decide +kernel)

theorem toLower_of_isLower (h : c.isLower) : c.toLower = c ∧ ¬ c.isDigit := by
  have hascii := toNat_lt_of_isAlphanum (isAlphanum_of_isLower h)
  revert h
  exact forall_ascii hascii (by decide +kernel)

theorem toLower_of_isDigit (h : c.isDigit) : c.toLower = c := by
  have hascii := toNat_lt_of_isAlphanum (isAlphanum_of_isDigit h)
  revert h
  exact forall_ascii hascii (by decide +kernel)

/-- An upper-case letter or a digit is its own upper case. -/
theorem toUpper_of_isUpper_or_isDigit (h : c.isUpper ∨ c.isDigit) :
    c.isAlphanum ∧ c.toUpper = c := by
  have hc : c.isAlphanum := by
    rcases h with hupper | hdigit
    · simp [Char.isAlphanum, Char.isAlpha, hupper]
    · exact isAlphanum_of_isDigit hdigit
  refine ⟨hc, ?_⟩
  revert h
  exact forall_ascii (toNat_lt_of_isAlphanum hc) (by decide +kernel)

end Characters

section Words

/-- The pieces of a split text hold its characters, without the separators. -/
theorem mem_splitOnP {p : Char → Bool} {text piece : List Char} (h : piece ∈ text.splitOnP p) :
    ∀ c ∈ piece, c ∈ text ∧ p c = false := by
  induction text generalizing piece with
  | nil =>
    rw [List.splitOnP_nil, List.mem_singleton] at h
    rw [h]
    simp
  | cons first rest ih =>
    rw [List.splitOnP_cons_eq_if_modifyHead] at h
    have hrest {w : List Char} (hw : w ∈ rest.splitOnP p) :
        ∀ c ∈ w, c ∈ first :: rest ∧ p c = false := fun c hc =>
      ⟨List.mem_cons_of_mem _ (ih hw c hc).1, (ih hw c hc).2⟩
    split at h
    · rcases List.mem_cons.1 h with rfl | hin
      · simp
      · exact hrest hin
    · rename_i hfirst
      cases hsplit : rest.splitOnP p with
      | nil => exact absurd hsplit (List.splitOnP_ne_nil p rest)
      | cons w ws =>
        rw [hsplit, List.modifyHead_cons] at h
        rcases List.mem_cons.1 h with rfl | hin
        · intro c hc
          rcases List.mem_cons.1 hc with rfl | hc
          · exact ⟨List.mem_cons_self, by simpa using hfirst⟩
          · exact hrest (hsplit ▸ List.mem_cons_self) c hc
        · exact hrest (hsplit ▸ List.mem_cons_of_mem _ hin)

/-- A word of an ASCII text is a letter or digit with letters and digits after it. -/
theorem isAlphanum_of_mem_words {text word : List Char} (htext : IsAscii text)
    (h : word ∈ words text) : word ≠ [] ∧ ∀ c ∈ word, c.isAlphanum := by
  obtain ⟨hsplit, hne⟩ := List.mem_filter.1 h
  refine ⟨by simpa using hne, ?_⟩
  intro c hc
  obtain ⟨hmem, hsep⟩ := mem_splitOnP hsplit c hc
  rw [← isAlphanumeric_eq (htext c hmem)]
  simpa using hsep

theorem words_append_separator {c : Char} (h : ¬ Text.isAlphanumeric c) (front back : List Char) :
    words (front ++ c :: back) = words front ++ words back := by
  rw [words, List.splitOnP_append_cons _ _ (by simpa using h), List.filter_append]
  rfl

theorem words_cons_separator {c : Char} (h : ¬ Text.isAlphanumeric c) (text : List Char) :
    words (c :: text) = words text :=
  words_append_separator h [] text

/-- Letters and numerals alone are one word. -/
theorem words_of_isAlphanumeric {word : List Char} (hne : word ≠ [])
    (h : ∀ c ∈ word, Text.isAlphanumeric c) : words word = [word] := by
  have hsplit : word.splitOnP (fun c => !Text.isAlphanumeric c) = [word] := by
    apply List.splitOnP_eq_singleton
    intro c hc
    rw [h c hc]
    rfl
  rw [words, hsplit]
  simpa using hne

theorem words_of_isAlphanum {word : List Char} (hne : word ≠ []) (h : ∀ c ∈ word, c.isAlphanum) :
    words word = [word] := by
  apply words_of_isAlphanumeric hne
  intro c hc
  rw [isAlphanumeric_eq (toNat_lt_of_isAlphanum (h c hc))]
  exact h c hc

theorem isAlphanum_headRecased_uppered {word : List Char} (h : ∀ c ∈ word, c.isAlphanum) :
    ∀ d ∈ headRecased Text.uppered word, d.isAlphanum := by
  cases word with
  | nil => exact h
  | cons c rest =>
    obtain ⟨hc, hrest⟩ := List.forall_mem_cons.1 h
    rw [headRecased, uppered_eq (toNat_lt_of_isAlphanum hc)]
    exact List.forall_mem_cons.2 ⟨(recased_isAlphanum hc).2.1, hrest⟩

/-- Written in lower camel case, words begin with a lower-case letter or a digit. -/
theorem lowerCamel_cons {c : Char} {rest : List Char} {more : List (List Char)}
    (h : ∀ word ∈ (c :: rest) :: more, ∀ d ∈ word, d.isAlphanum) :
    ∃ tail, lowerCamel ((c :: rest) :: more) = c.toLower :: tail ∧
      (c.toLower.isLower ∨ c.toLower.isDigit) ∧ ∀ d ∈ tail, d.isAlphanum := by
  obtain ⟨hfirst, hmore⟩ := List.forall_mem_cons.1 h
  obtain ⟨hc, hrest⟩ := List.forall_mem_cons.1 hfirst
  refine ⟨rest ++ more.flatMap (headRecased Text.uppered), ?_, (recased_isAlphanum hc).2.2, ?_⟩
  · rw [lowerCamel, headRecased, lowered_eq (toNat_lt_of_isAlphanum hc)]
    rfl
  · intro d hd
    rcases List.mem_append.1 hd with hin | hin
    · exact hrest d hin
    · obtain ⟨word, hword, hd'⟩ := List.mem_flatMap.1 hin
      exact isAlphanum_headRecased_uppered (hmore word hword) d hd'

end Words

/-- The parameter name of a member with an ASCII name is normal. -/
theorem isNormal_ofMember {name : String} (h : IsAscii name.toList) :
    IsNormal (ofMember name).toList := by
  rw [ofMember, String.toList_ofList]
  have hwords := fun word hword => @isAlphanum_of_mem_words name.toList word h hword
  cases hsplit : words name.toList with
  | nil =>
    have htail : ∀ d ∈ ['a', 'l', 'u', 'e'], d.isAlphanum := List.all_eq_true.1 (by decide)
    exact .letter (by decide) htail
  | cons first more =>
    rw [hsplit] at hwords
    cases first with
    | nil => exact absurd rfl (hwords [] List.mem_cons_self).1
    | cons c rest =>
      obtain ⟨tail, hcamel, hhead, htail⟩ := lowerCamel_cons fun word hword => (hwords word hword).2
      rw [hcamel, identifier]
      rcases hhead with hlower | hdigit
      · have hascii := toNat_lt_of_isAlphanum (isAlphanum_of_isLower hlower)
        rw [isNumeral_eq hascii, if_neg (toLower_of_isLower hlower).2]
        exact .letter hlower htail
      · have hascii := toNat_lt_of_isAlphanum (isAlphanum_of_isDigit hdigit)
        rw [isNumeral_eq hascii, if_pos hdigit]
        exact .digit hdigit htail

/-- A normal name is the parameter name of itself. -/
theorem ofMember_of_isNormal {name : String} (h : IsNormal name.toList) : ofMember name = name := by
  rw [ofMember, ← String.toList_inj, String.toList_ofList]
  generalize name.toList = text at h
  cases h with
  | @letter c rest head tail =>
    have hc := isAlphanum_of_isLower head
    have hascii := toNat_lt_of_isAlphanum hc
    obtain ⟨hsame, hno_digit⟩ := toLower_of_isLower head
    rw [words_of_isAlphanum (List.cons_ne_nil _ _) (List.forall_mem_cons.2 ⟨hc, tail⟩), lowerCamel,
      headRecased, lowered_eq hascii, hsame]
    change identifier (c :: (rest ++ [])) = c :: rest
    rw [List.append_nil, identifier, isNumeral_eq hascii, if_neg hno_digit]
  | @digit c rest head tail =>
    have hc := isAlphanum_of_isDigit head
    have hascii := toNat_lt_of_isAlphanum hc
    have hunderscore : words ('_' :: c :: rest) = words (c :: rest) :=
      words_cons_separator (by decide) (c :: rest)
    rw [hunderscore,
      words_of_isAlphanum (List.cons_ne_nil _ _) (List.forall_mem_cons.2 ⟨hc, tail⟩), lowerCamel,
      headRecased, lowered_eq hascii, toLower_of_isDigit head]
    change identifier (c :: (rest ++ [])) = '_' :: c :: rest
    rw [List.append_nil, identifier, isNumeral_eq hascii, if_pos head]

/-- For ASCII names the normal ones are those that a parameter can have, and each of them is the
parameter name of itself; naming a second time changes nothing. -/
theorem ascii_names_normal {name : String} (h : IsAscii name.toList) :
    IsNormal (ofMember name).toList ∧ (ofMember name = name ↔ IsNormal name.toList) ∧
      ofMember (ofMember name) = ofMember name := by
  have hnormal := isNormal_ofMember h
  refine ⟨hnormal, ⟨?_, ofMember_of_isNormal⟩, ofMember_of_isNormal hnormal⟩
  intro hsame
  rwa [hsame] at hnormal

theorem ascii_names_normal_numeral :
    IsAscii "2nd_line".toList ∧ IsNormal (ofMember "2nd_line").toList ∧
      (ofMember "2nd_line" = "2nd_line" ↔ IsNormal "2nd_line".toList) ∧
      ofMember (ofMember "2nd_line") = ofMember "2nd_line" := by
  have hascii : IsAscii "2nd_line".toList := by decide
  exact ⟨hascii, ascii_names_normal hascii⟩

example : ofMember "2nd_line" = "_2ndLine" ∧ ofMember "_2ndLine" = "_2ndLine" := by
  decide +kernel

theorem IsNormal.append {text more : List Char} (h : IsNormal text)
    (hmore : ∀ c ∈ more, c.isAlphanum) : IsNormal (text ++ more) := by
  cases h with
  | letter head tail => exact .letter head (List.forall_mem_append.2 ⟨tail, hmore⟩)
  | digit head tail => exact .digit head (List.forall_mem_append.2 ⟨tail, hmore⟩)

/-- A numeral after a normal name leaves it normal. -/
theorem isNormal_numbered {base : String} (h : IsNormal base.toList) (n : Nat) :
    IsNormal (numbered base n).toList := by
  have hdigits : ∀ c ∈ Nat.toDigits 10 n, c.isAlphanum := fun c hc =>
    isAlphanum_of_isDigit (Nat.isDigit_of_mem_toDigits (by decide) (by decide) hc)
  rw [toList_numbered]
  exact h.append hdigits

end ConstructorPlanning.ParameterName
