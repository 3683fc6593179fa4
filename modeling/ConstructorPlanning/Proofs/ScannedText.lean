import ConstructorPlanning.Proofs.TextReading
/-!
What the scanner finds stands in the text: each token but a stray one is spelled by the characters
that it takes, with nothing but white space in front of them.
-/
namespace ConstructorPlanning.Json

/-- The text spells the token. A stray token only marks a place, and nothing spells it. -/
inductive TokenText : Token → List Char → Prop where
  | leftBrace : TokenText .leftBrace ['\x7b']
  | rightBrace : TokenText .rightBrace ['\x7d']
  | leftBracket : TokenText .leftBracket ['[']
  | rightBracket : TokenText .rightBracket [']']
  | colon : TokenText .colon [':']
  | comma : TokenText .comma [',']
  | null : TokenText .null "null".toList
  | true : TokenText (.boolean true) "true".toList
  | false : TokenText (.boolean false) "false".toList
  | number {n : NumberText} {text : List Char} (h : NumeralText n text) : TokenText (.number n) text
  | string {s : Quoted} {text : List Char} (h : QuotedText s text) : TokenText (.string s) text

/-- The tokens stand in the text one after the other. What a stray one stops at is left open. -/
inductive TokensText : List Token → List Char → Prop where
  | nil {blank : List Char} (h : Blank blank) : TokensText [] blank
  | stray (text : List Char) : TokensText [.stray] text
  | cons {t : Token} {ts : List Token} {blank word rest : List Char} (hblank : Blank blank)
      (h : TokenText t word) (hrest : TokensText ts rest) :
    TokensText (t :: ts) (blank ++ (word ++ rest))

section Numbers

theorem takeWhile_isDigit {text ds : List Char} (h : text.takeWhile Char.isDigit = ds)
    (hsome : ds ≠ []) : IsDigits ds ∧ ∃ rest, text = ds ++ rest := by
  subst h
  exact ⟨⟨hsome, List.all_eq_true.1 List.all_takeWhile⟩, _, List.takeWhile_append_dropWhile.symm⟩

theorem wholeDigits_sound {text whole : List Char} (h : wholeDigits? text = some whole) :
    WholeText whole ∧ ∃ rest, text = whole ++ rest := by
  rw [wholeDigits?] at h
  split at h
  · cases h
  · cases h
  · rename_i digits hsome hzero
    cases h
    obtain ⟨⟨-, hdigits⟩, hrest⟩ := takeWhile_isDigit rfl hsome
    refine ⟨?_, hrest⟩
    cases hwhole : text.takeWhile Char.isDigit with
    | nil => exact absurd hwhole hsome
    | cons d ds =>
      rw [hwhole] at hdigits hzero
      obtain ⟨hd, hds⟩ := List.forall_mem_cons.1 hdigits
      by_cases hlead : d = '0'
      · subst hlead
        cases ds with
        | nil => exact .zero
        | cons e ds => exact absurd rfl (hzero e ds)
      · exact .digits hd hlead hds

theorem fractionDigits_sound {text : List Char} {fraction : Option (List Char)}
    (h : fractionDigits? text = some fraction) :
    ∃ f rest, FractionText fraction f ∧ text = f ++ rest := by
  unfold fractionDigits? at h
  split at h
  · rename_i rest
    cases hdigits : rest.takeWhile Char.isDigit with
    | nil =>
      rw [hdigits] at h
      cases h
    | cons d ds =>
      rw [hdigits] at h
      cases h
      obtain ⟨hall, after, rfl⟩ := takeWhile_isDigit hdigits (List.cons_ne_nil d ds)
      exact ⟨_, after, .present hall, rfl⟩
  · cases h
    exact ⟨[], text, .absent, rfl⟩

theorem exponentSign_sound (text : List Char) :
    ∃ sign negative rest, exponentSign text = (sign, negative, rest) ∧ text = sign ++ rest ∧
      ∀ {mark : Char} {ds : List Char}, mark = 'e' ∨ mark = 'E' → IsDigits ds →
        ExponentText (some (negative, ds)) (mark :: (sign ++ ds)) := by
  unfold exponentSign
  split
  · exact ⟨_, _, _, rfl, rfl, .plus⟩
  · exact ⟨_, _, _, rfl, rfl, .minus⟩
  · exact ⟨_, _, _, rfl, rfl, .bare⟩

theorem exponentDigits_sound {text : List Char} {exponent : Option (Bool × List Char)}
    {length : Nat} (h : exponentDigits? text = some (exponent, length)) :
    ∃ e rest, ExponentText exponent e ∧ text = e ++ rest ∧ length = e.length := by
  cases text with
  | nil =>
    cases h
    exact ⟨[], [], .absent, rfl, rfl⟩
  | cons mark text =>
    obtain ⟨sign, negative, rest, hsign, rfl, hexponent⟩ := exponentSign_sound text
    simp only [exponentDigits?, hsign] at h
    split at h
    · rename_i hmark
      cases hdigits : rest.takeWhile Char.isDigit with
      | nil =>
        rw [hdigits] at h
        cases h
      | cons d ds =>
        rw [hdigits] at h
        cases h
        obtain ⟨hall, after, rfl⟩ := takeWhile_isDigit hdigits (List.cons_ne_nil d ds)
        refine ⟨_, after, hexponent hmark hall, by simp, ?_⟩
        simp only [List.length_cons, List.length_append]
        omega
    · cases h
      exact ⟨[], _, .absent, rfl, rfl⟩

/-- The parts of a number and its sign in front, if there is one, spell it. -/
theorem numeral_sound {text whole f e rest : List Char} {fraction : Option (List Char)}
    {exponent : Option (Bool × List Char)} (hwhole : WholeText whole)
    (hfraction : FractionText fraction f) (hexponent : ExponentText exponent e)
    (htext : (if text.head? = some '-' then text.tail else text) = whole ++ (f ++ (e ++ rest))) :
    ∃ word behind, NumeralText ⟨text.head? = some '-', whole, fraction, exponent⟩ word ∧
      text = word ++ behind ∧
      (if text.head? = some '-' then whole.length + f.length + e.length + 1
        else whole.length + f.length + e.length) = word.length := by
  by_cases hsign : text.head? = some '-'
  · obtain ⟨tail, rfl⟩ := List.head?_eq_some_iff.1 hsign
    cases htext
    refine ⟨_, rest, .negative hwhole hfraction hexponent, by simp, ?_⟩
    simp [Nat.add_assoc]
  · rw [if_neg hsign] at htext
    rw [decide_eq_false hsign, if_neg hsign]
    refine ⟨_, rest, .positive hwhole hfraction hexponent, by simp [htext], ?_⟩
    simp [Nat.add_assoc]

theorem number_sound {text : List Char} {n : NumberText} {length : Nat}
    (h : number? text = some (n, length)) :
    ∃ word rest, NumeralText n word ∧ text = word ++ rest ∧ length = word.length := by
  simp only [number?, bind, Option.bind_eq_some_iff] at h
  obtain ⟨whole, hwhole, fraction, hfraction, ⟨exponent, elength⟩, hexponent, hn⟩ := h
  cases hn
  obtain ⟨hw, behindWhole, htext⟩ := wholeDigits_sound hwhole
  rw [htext, List.drop_left] at hfraction hexponent
  obtain ⟨f, behindFraction, hf, rfl⟩ := fractionDigits_sound hfraction
  cases hf with
  | absent =>
    obtain ⟨e, rest, he, rfl, rfl⟩ := exponentDigits_sound hexponent
    exact numeral_sound hw .absent he htext
  | @present digits hdigits =>
    have hbehind : (('.' :: digits) ++ behindFraction).drop (digits.length + 1) = behindFraction :=
      List.drop_left
    rw [hbehind] at hexponent
    obtain ⟨e, rest, he, rfl, rfl⟩ := exponentDigits_sound hexponent
    exact numeral_sound hw (.present hdigits) he htext

end Numbers

section Strings

theorem stringPieces_sound {text : List Char} {pieces : List Piece} {length : Nat}
    (h : stringPieces? text = some (pieces, length)) :
    ∃ word rest, PiecesText pieces word ∧ text = word ++ '"' :: rest ∧
      length = word.length + 1 := by
  induction text using stringPieces?.induct generalizing pieces length with
  | case1 => cases h
  | case2 rest =>
    cases h
    exact ⟨[], rest, .nil, rfl, rfl⟩
  | case3 a b c d rest ih =>
    simp only [stringPieces?, bind, Option.bind_eq_some_iff] at h
    obtain ⟨code, hcode, ⟨inner, innerLength⟩, hinner, hpieces⟩ := h
    cases hpieces
    obtain ⟨word, behind, hword, rfl, rfl⟩ := ih hinner
    exact ⟨_, behind, .unit hcode hword, rfl, rfl⟩
  | case4 e rest hunit ih =>
    rw [stringPieces?] at h
    · simp only [bind, Option.bind_eq_some_iff] at h
      obtain ⟨c, hc, ⟨inner, innerLength⟩, hinner, hpieces⟩ := h
      cases hpieces
      obtain ⟨word, behind, hword, rfl, rfl⟩ := ih hinner
      exact ⟨_, behind, .escape hc hword, rfl, rfl⟩
    · exact hunit
  | case5 c rest hquote hunit hescape hbad =>
    rw [stringPieces?, if_pos hbad] at h
    · cases h
    all_goals assumption
  | case6 c rest hquote hunit hescape hgood ih =>
    obtain ⟨hcontrol, hslash⟩ := not_or.1 hgood
    rw [stringPieces?, if_neg hgood] at h
    · simp only [bind, Option.bind_eq_some_iff] at h
      obtain ⟨⟨inner, innerLength⟩, hinner, hpieces⟩ := h
      cases hpieces
      obtain ⟨word, behind, hword, rfl, rfl⟩ := ih hinner
      exact ⟨_, behind, .plain hquote hslash (Nat.not_lt.1 hcontrol) hword, rfl, rfl⟩
    all_goals assumption

end Strings

section Tokens

theorem token_sound {text : List Char} {t : Token} {length : Nat}
    (h : token? text = some (t, length)) :
    ∃ word rest, TokenText t word ∧ text = word ++ rest ∧ length = word.length := by
  unfold token? at h
  split at h
  case h_1 rest => cases h; exact ⟨_, rest, .leftBrace, rfl, rfl⟩
  case h_2 rest => cases h; exact ⟨_, rest, .rightBrace, rfl, rfl⟩
  case h_3 rest => cases h; exact ⟨_, rest, .leftBracket, rfl, rfl⟩
  case h_4 rest => cases h; exact ⟨_, rest, .rightBracket, rfl, rfl⟩
  case h_5 rest => cases h; exact ⟨_, rest, .colon, rfl, rfl⟩
  case h_6 rest => cases h; exact ⟨_, rest, .comma, rfl, rfl⟩
  case h_7 rest => cases h; exact ⟨_, rest, .null, rfl, rfl⟩
  case h_8 rest => cases h; exact ⟨_, rest, .true, rfl, rfl⟩
  case h_9 rest => cases h; exact ⟨_, rest, .false, rfl, rfl⟩
  case h_10 rest =>
    obtain ⟨⟨pieces, innerLength⟩, hpieces, hstring⟩ := Option.map_eq_some_iff.1 h
    cases hstring
    obtain ⟨word, behind, hword, rfl, rfl⟩ := stringPieces_sound hpieces
    refine ⟨_, behind, .string (.quoted hword), by simp, by simp⟩
  case h_11 =>
    obtain ⟨⟨n, innerLength⟩, hn, hnumber⟩ := Option.map_eq_some_iff.1 h
    cases hnumber
    obtain ⟨word, behind, hword, rfl, rfl⟩ := number_sound hn
    exact ⟨word, behind, .number hword, rfl, rfl⟩

theorem TokenText.eq_cons {t : Token} {word : List Char} (h : TokenText t word) :
    ∃ c cs, word = c :: cs := by
  cases h with
  | number hnumber =>
    obtain ⟨c, cs, hword, -⟩ := hnumber.eq_cons
    exact ⟨c, cs, hword⟩
  | string hstring =>
    cases hstring
    exact ⟨_, _, rfl⟩
  | _ => exact ⟨_, _, rfl⟩

theorem TokensText.blank {ts : List Token} {c : Char} {text : List Char} (hc : isSpace c)
    (h : TokensText ts text) : TokensText ts (c :: text) := by
  cases h with
  | nil hblank => exact .nil (List.forall_mem_cons.2 ⟨hc, hblank⟩)
  | stray => exact .stray _
  | cons hblank hword hrest =>
    exact .cons (List.forall_mem_cons.2 ⟨hc, hblank⟩) hword hrest

theorem tokensAfter_sound (skip : Nat) (text : List Char) :
    TokensText (tokensAfter skip text) (text.drop skip) := by
  induction text generalizing skip with
  | nil =>
    rw [tokensAfter, List.drop_nil]
    exact .nil (List.forall_mem_nil _)
  | cons c rest ih =>
    cases skip with
    | succ skip => exact ih skip
    | zero =>
      rw [tokensAfter]
      split
      · rename_i hspace
        exact (ih 0).blank hspace
      · split
        · rename_i t length htoken
          obtain ⟨word, behind, hword, htext, rfl⟩ := token_sound htoken
          obtain ⟨_, cs, rfl⟩ := hword.eq_cons
          obtain ⟨rfl, rfl⟩ := List.cons.inj htext
          have hrest := ih cs.length
          rw [List.append_eq, List.drop_left] at hrest
          exact .cons (List.forall_mem_nil _) hword hrest
        · exact .stray _

/-- Up to a stray one, the tokens of a text are the words that it consists of. -/
theorem tokens_sound (text : List Char) : TokensText (tokens text) text :=
  tokensAfter_sound 0 text

end Tokens

end ConstructorPlanning.Json
