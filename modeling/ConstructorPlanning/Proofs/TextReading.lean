import ConstructorPlanning.Json.Shape
import ConstructorPlanning.Proofs.Grammar
/-!
A text that spells a value is read as that value, with nothing behind it. A value's text is scanned
to its end wherever it stands, unless it ends in a number that the text behind it goes on with.
-/
namespace ConstructorPlanning.Json

section Words

theorem tokensAfter_length (word rest : List Char) :
    tokensAfter word.length (word ++ rest) = tokens rest := by
  induction word with
  | nil => rfl
  | cons c word ih => exact ih

/-- Where a word is read as a token, the scan goes on behind it. -/
theorem tokens_word {c : Char} {word rest : List Char} {t : Token} (hspace : isSpace c = false)
    (h : token? (c :: (word ++ rest)) = some (t, word.length + 1)) :
    tokens (c :: (word ++ rest)) = t :: tokens rest := by
  rw [tokens, tokensAfter, hspace, if_neg Bool.false_ne_true, h]
  exact congrArg _ (tokensAfter_length word rest)

theorem tokens_space {c : Char} (h : isSpace c) (rest : List Char) :
    tokens (c :: rest) = tokens rest := by
  rw [tokens, tokensAfter, if_pos h]
  rfl

theorem tokens_blank {blank : List Char} (h : Blank blank) (rest : List Char) :
    tokens (blank ++ rest) = tokens rest := by
  induction blank with
  | nil => rfl
  | cons c blank ih =>
    obtain ⟨hc, hblank⟩ := List.forall_mem_cons.1 h
    rw [List.cons_append, tokens_space hc, ih hblank]

end Words

section Numbers

/-- The text cannot go on with digits that end in front of it. -/
def EndsDigits (text : List Char) : Prop :=
  ∀ c ∈ text.head?, c.isDigit = false

/-- The text cannot go on with a number that ends in front of it. -/
def EndsNumber (text : List Char) : Prop :=
  ∀ c ∈ text.head?, c.isDigit = false ∧ c ≠ '.' ∧ c ≠ 'e' ∧ c ≠ 'E'

theorem endsNumber_nil : EndsNumber [] := nofun

theorem endsNumber_cons {c : Char} {rest : List Char}
    (h : c.isDigit = false ∧ c ≠ '.' ∧ c ≠ 'e' ∧ c ≠ 'E') : EndsNumber (c :: rest) := by
  intro d hd
  obtain rfl := Option.mem_some_iff.1 hd
  exact h

theorem EndsNumber.endsDigits {text : List Char} (h : EndsNumber text) : EndsDigits text :=
  fun c hc => (h c hc).1

theorem endsNumber_blank {blank rest : List Char} (hblank : Blank blank) (h : EndsNumber rest) :
    EndsNumber (blank ++ rest) := by
  cases blank with
  | nil => exact h
  | cons c blank =>
    apply endsNumber_cons
    have hspace := hblank c List.mem_cons_self
    simp only [isSpace, Bool.or_eq_true, decide_eq_true_eq] at hspace
    rcases hspace with ((rfl | rfl) | rfl) | rfl <;> decide

theorem takeWhile_digits {ds rest : List Char} (hds : ∀ c ∈ ds, c.isDigit)
    (hrest : EndsDigits rest) : (ds ++ rest).takeWhile Char.isDigit = ds := by
  rw [List.takeWhile_append_of_pos hds]
  cases rest with
  | nil => exact List.append_nil _
  | cons c rest => rw [List.takeWhile_cons_of_neg (by simp [hrest c rfl]), List.append_nil]

theorem wholeDigits_text {whole rest : List Char} (h : WholeText whole)
    (hrest : EndsDigits rest) : wholeDigits? (whole ++ rest) = some whole := by
  cases h with
  | zero =>
    rw [wholeDigits?, takeWhile_digits (List.forall_mem_singleton.2 rfl) hrest]
    rfl
  | @digits d ds hd hzero hds =>
    rw [wholeDigits?, takeWhile_digits (List.forall_mem_cons.2 ⟨hd, hds⟩) hrest]
    split
    · contradiction
    · rename_i heq
      exact absurd (List.cons.inj heq).1 hzero
    · rfl

theorem fractionDigits_text {fraction : Option (List Char)} {f rest : List Char}
    (h : FractionText fraction f) (hrest : EndsDigits rest) (hpoint : ∀ c ∈ rest.head?, c ≠ '.') :
    fractionDigits? (f ++ rest) = some fraction := by
  cases h with
  | absent =>
    rw [List.nil_append]
    unfold fractionDigits?
    split
    · exact absurd rfl (hpoint '.' rfl)
    · rfl
  | present hds =>
    rw [List.cons_append, fractionDigits?, takeWhile_digits hds.2 hrest]
    split
    · exact absurd rfl hds.1
    · rfl

theorem exponentSign_digits {ds : List Char} (hds : IsDigits ds) (rest : List Char) :
    exponentSign (ds ++ rest) = ([], false, ds ++ rest) := by
  obtain ⟨hsome, hdigits⟩ := hds
  cases ds with
  | nil => exact absurd rfl hsome
  | cons d ds =>
    have hd := hdigits d List.mem_cons_self
    rw [List.cons_append]
    unfold exponentSign
    split
    · rename_i heq
      obtain ⟨rfl, -⟩ := List.cons.inj heq
      cases hd
    · rename_i heq
      obtain ⟨rfl, -⟩ := List.cons.inj heq
      cases hd
    · rfl

/-- Behind a mark, a sign and digits are the exponent. -/
theorem exponentDigits_signed {mark : Char} {sign ds text rest : List Char} {negative : Bool}
    (hmark : mark = 'e' ∨ mark = 'E') (hds : IsDigits ds) (hrest : EndsDigits rest)
    (hsign : exponentSign text = (sign, negative, ds ++ rest)) :
    exponentDigits? (mark :: text) =
      some (some (negative, ds), 1 + sign.length + ds.length) := by
  simp only [exponentDigits?, if_pos hmark, hsign, takeWhile_digits hds.2 hrest]
  split
  · exact absurd rfl hds.1
  · rfl

theorem exponentDigits_text {exponent : Option (Bool × List Char)} {e rest : List Char}
    (h : ExponentText exponent e) (hrest : EndsNumber rest) :
    exponentDigits? (e ++ rest) = some (exponent, e.length) := by
  cases h with
  | absent =>
    cases rest with
    | nil => rfl
    | cons c rest =>
      have hmark : ¬ (c = 'e' ∨ c = 'E') := not_or.2 (hrest c rfl).2.2
      rw [List.nil_append, exponentDigits?, if_neg hmark]
      rfl
  | bare hmark hds =>
    rw [List.cons_append,
      exponentDigits_signed hmark hds hrest.endsDigits (exponentSign_digits hds rest)]
    simp [Nat.add_comm]
  | plus hmark hds =>
    rw [List.cons_append, exponentDigits_signed hmark hds hrest.endsDigits rfl]
    exact congrArg (fun length => some (_, length)) (Nat.add_comm _ _)
  | minus hmark hds =>
    rw [List.cons_append, exponentDigits_signed hmark hds hrest.endsDigits rfl]
    exact congrArg (fun length => some (_, length)) (Nat.add_comm _ _)

/-- An exponent begins with its mark, so that neither digits nor a point go on there. -/
theorem ExponentText.head {exponent : Option (Bool × List Char)} {e rest : List Char}
    (h : ExponentText exponent e) (hrest : EndsNumber rest) :
    ∀ c ∈ (e ++ rest).head?, c.isDigit = false ∧ c ≠ '.' := by
  have hmarked : ∀ {mark : Char}, mark = 'e' ∨ mark = 'E' → mark.isDigit = false ∧ mark ≠ '.' := by
    rintro mark (rfl | rfl) <;> decide
  cases h with
  | absent => exact fun c hc => ⟨(hrest c hc).1, (hrest c hc).2.1⟩
  | bare hmark | plus hmark | minus hmark =>
    intro c hc
    obtain rfl := Option.mem_some_iff.1 hc
    exact hmarked hmark

/-- A fraction begins with its point, so that no digits go on there. -/
theorem FractionText.endsDigits {fraction : Option (List Char)} {f rest : List Char}
    (h : FractionText fraction f) (hrest : EndsDigits rest) : EndsDigits (f ++ rest) := by
  cases h with
  | absent => exact hrest
  | present =>
    intro c hc
    obtain rfl := Option.mem_some_iff.1 hc
    rfl

theorem WholeText.eq_cons {whole : List Char} (h : WholeText whole) :
    ∃ d ds, whole = d :: ds ∧ d.isDigit := by
  cases h with
  | zero => exact ⟨'0', [], rfl, rfl⟩
  | digits hd => exact ⟨_, _, rfl, hd⟩

/-- The parts of a number are found one behind the other. -/
theorem number_parts {whole f e rest : List Char} {fraction : Option (List Char)}
    {exponent : Option (Bool × List Char)} (hwhole : WholeText whole)
    (hfraction : FractionText fraction f) (hexponent : ExponentText exponent e)
    (hrest : EndsNumber rest) :
    wholeDigits? (whole ++ (f ++ (e ++ rest))) = some whole ∧
      fractionDigits? (f ++ (e ++ rest)) = some fraction ∧
      exponentDigits? (e ++ rest) = some (exponent, e.length) := by
  have hhead := hexponent.head hrest
  have hdigits : EndsDigits (e ++ rest) := fun c hc => (hhead c hc).1
  exact ⟨wholeDigits_text hwhole (hfraction.endsDigits hdigits),
    fractionDigits_text hfraction hdigits fun c hc => (hhead c hc).2,
    exponentDigits_text hexponent hrest⟩

theorem number_text {n : NumberText} {text rest : List Char} (h : NumeralText n text)
    (hrest : EndsNumber rest) : number? (text ++ rest) = some (n, text.length) := by
  cases h with
  | @positive whole f e fraction exponent hwhole hfraction hexponent =>
    obtain ⟨hw, hf, he⟩ := number_parts hwhole hfraction hexponent hrest
    have hsign : (whole ++ (f ++ (e ++ rest))).head? ≠ some '-' := by
      obtain ⟨d, ds, rfl, hd⟩ := hwhole.eq_cons
      intro hminus
      cases hminus
      cases hd
    simp only [number?, List.append_assoc, hsign, decide_false, if_false, hw, List.drop_left,
      hf, bind, Option.bind_some, List.length_append]
    cases hfraction <;> simp [he, Nat.add_assoc]
  | @negative whole f e fraction exponent hwhole hfraction hexponent =>
    obtain ⟨hw, hf, he⟩ := number_parts hwhole hfraction hexponent hrest
    simp only [number?, List.cons_append, List.append_assoc, List.head?_cons, decide_true, if_true,
      List.tail_cons, hw, List.drop_left, hf, bind, Option.bind_some, List.length_append,
      List.length_cons]
    cases hfraction <;> simp [he, Nat.add_assoc]

/-- A number begins with a digit or its sign, as no other token does. -/
theorem token_number {c : Char} (h : c = '-' ∨ c.isDigit) (rest : List Char) :
    token? (c :: rest) = (number? (c :: rest)).map fun (n, length) => (.number n, length) := by
  unfold token?
  split <;> first
    | rfl
    | (rename_i heq; obtain ⟨rfl, _⟩ := List.cons.inj heq; rcases h with h | h <;> cases h)

theorem isSpace_number {c : Char} (h : c = '-' ∨ c.isDigit) : isSpace c = false := by
  rw [Bool.eq_false_iff]
  intro hspace
  simp only [isSpace, Bool.or_eq_true, decide_eq_true_eq] at hspace
  rcases hspace with ((rfl | rfl) | rfl) | rfl <;> rcases h with h | h <;> cases h

theorem NumeralText.eq_cons {n : NumberText} {text : List Char} (h : NumeralText n text) :
    ∃ c cs, text = c :: cs ∧ (c = '-' ∨ c.isDigit) := by
  cases h with
  | positive hwhole =>
    obtain ⟨d, ds, rfl, hd⟩ := hwhole.eq_cons
    exact ⟨d, _, rfl, .inr hd⟩
  | negative => exact ⟨'-', _, rfl, .inl rfl⟩

theorem tokens_number {n : NumberText} {text rest : List Char} (h : NumeralText n text)
    (hrest : EndsNumber rest) : tokens (text ++ rest) = .number n :: tokens rest := by
  have hnumber := number_text h hrest
  obtain ⟨c, cs, rfl, hc⟩ := h.eq_cons
  apply tokens_word (isSpace_number hc)
  rw [token_number hc]
  rw [List.cons_append] at hnumber
  rw [hnumber]
  rfl

end Numbers

section Strings

theorem stringPieces_plain {c : Char} (hquote : c ≠ '"') (hslash : c ≠ '\\')
    (hcontrol : 0x20 ≤ c.toNat) (rest : List Char) :
    stringPieces? (c :: rest) = (stringPieces? rest).map fun (pieces, length) =>
      (.char c :: pieces, length + 1) := by
  rw [stringPieces?, if_neg (not_or.2 ⟨Nat.not_lt.2 hcontrol, hslash⟩)]
  · cases stringPieces? rest <;> rfl
  · exact hquote
  · exact fun _ _ _ _ _ h _ => hslash h
  · exact fun _ _ h _ => hslash h

theorem stringPieces_escape {e c : Char} (h : simpleEscape? e = some c) (rest : List Char) :
    stringPieces? ('\\' :: e :: rest) = (stringPieces? rest).map fun (pieces, length) =>
      (.char c :: pieces, length + 2) := by
  have hu : e ≠ 'u' := by
    rintro rfl
    cases h
  rw [stringPieces?, h]
  · cases stringPieces? rest <;> rfl
  · exact fun _ _ _ _ _ he _ => hu he

theorem stringPieces_unit {a b c d : Char} {code : Nat} (h : hexUnit? [a, b, c, d] = some code)
    (rest : List Char) :
    stringPieces? ('\\' :: 'u' :: a :: b :: c :: d :: rest) =
      (stringPieces? rest).map fun (pieces, length) => (.unit code :: pieces, length + 6) := by
  rw [stringPieces?, h]
  cases stringPieces? rest <;> rfl

/-- A string is read up to its closing quote. -/
theorem stringPieces_text {pieces : List Piece} {text : List Char} (h : PiecesText pieces text)
    (rest : List Char) :
    stringPieces? (text ++ '"' :: rest) = some (pieces, text.length + 1) := by
  induction h with
  | nil => rfl
  | plain hquote hslash hcontrol _ ih =>
    rw [List.cons_append, stringPieces_plain hquote hslash hcontrol, ih]
    rfl
  | escape he _ ih =>
    rw [List.cons_append, List.cons_append, stringPieces_escape he, ih]
    rfl
  | unit hcode _ ih =>
    simp only [List.cons_append]
    rw [stringPieces_unit hcode, ih]
    rfl

theorem tokens_quoted {s : Quoted} {text : List Char} (h : QuotedText s text) (rest : List Char) :
    tokens (text ++ rest) = .string s :: tokens rest := by
  cases h with
  | @quoted pieces text hpieces =>
    have hread := stringPieces_text hpieces rest
    refine tokens_word rfl ?_
    rw [List.append_assoc, List.singleton_append, token?, hread, List.length_append]
    rfl

end Strings

section Values

theorem tokens_null (rest : List Char) : tokens ("null".toList ++ rest) = .null :: tokens rest :=
  rfl

theorem tokens_true (rest : List Char) :
    tokens ("true".toList ++ rest) = .boolean true :: tokens rest := rfl

theorem tokens_false (rest : List Char) :
    tokens ("false".toList ++ rest) = .boolean false :: tokens rest := rfl

/-- No text of a value begins with the bracket that ends an array. -/
theorem Spells.head_token {d : Draft} {text rest : List Char} (hrest : EndsNumber rest) :
    Spells d text → ∃ t ts, tokens (text ++ rest) = t :: ts ∧ t ≠ .rightBracket
  | .null => ⟨_, _, tokens_null rest, nofun⟩
  | .true => ⟨_, _, tokens_true rest, nofun⟩
  | .false => ⟨_, _, tokens_false rest, nofun⟩
  | .number h => ⟨_, _, tokens_number h hrest, nofun⟩
  | .string h => ⟨_, _, tokens_quoted h rest, nofun⟩
  | .emptyArray _ | .array _ => ⟨.leftBracket, _, rfl, nofun⟩
  | .emptyObject _ | .object _ => ⟨.leftBrace, _, rfl, nofun⟩
  | .spaced hbefore h hafter => by
    rw [List.append_assoc, List.append_assoc, tokens_blank hbefore]
    exact h.head_token (endsNumber_blank hafter hrest)

theorem SpellsItems.head_token {items : List Draft} {text : List Char} (h : SpellsItems items text)
    (rest : List Char) : ∃ t ts, tokens (text ++ ']' :: rest) = t :: ts ∧ t ≠ .rightBracket := by
  cases h with
  | one h => exact h.head_token (endsNumber_cons (by decide))
  | more h =>
    rw [List.append_assoc]
    exact h.head_token (endsNumber_cons (by decide))

theorem SpellsEntry.head_token {entry : Quoted × Draft} {text : List Char}
    (h : SpellsEntry entry text) (rest : List Char) :
    ∃ key ts, tokens (text ++ rest) = .string key :: ts := by
  cases h with
  | @entry key _ _ _ _ _ hbefore hkey =>
    simp only [List.append_assoc]
    rw [tokens_blank hbefore, tokens_quoted hkey]
    exact ⟨key, _, rfl⟩

/-- A text of entries begins with a key. -/
theorem SpellsEntries.head_token {entries : List (Quoted × Draft)} {text : List Char}
    (h : SpellsEntries entries text) (rest : List Char) :
    ∃ key ts, tokens (text ++ rest) = .string key :: ts := by
  cases h with
  | one h => exact h.head_token rest
  | more h =>
    rw [List.append_assoc]
    exact h.head_token _

end Values

namespace Draft

/-- How reading goes on inside the open containers, once a value is complete. -/
def resume (d : Draft) : List Frame → List Token → Draft × List Token
  | [], ts => (d, ts)
  | .array items :: stack, ts => build (.afterItem (d :: items)) stack ts
  | .object entries key :: stack, ts => build (.afterEntry ((key, d) :: entries)) stack ts

theorem build_itemOrEnd {t : Token} (h : t ≠ .rightBracket) (stack : List Frame)
    (ts : List Token) :
    build .itemOrEnd stack (t :: ts) = build .value (.array [] :: stack) (t :: ts) := by
  cases t with
  | rightBracket => exact absurd rfl h
  | _ => rfl

-- by recursion on the grammar, for all containers open around the value and all text behind it
mutual

theorem build_value {d : Draft} {text : List Char} : Spells d text → ∀ (stack : List Frame)
    {rest : List Char}, EndsNumber rest →
    build .value stack (tokens (text ++ rest)) = d.resume stack (tokens rest)
  | .null, stack, rest, _ => by
    rw [tokens_null]
    rcases stack with _ | ⟨_ | _, stack⟩ <;> rfl
  | .true, stack, rest, _ => by
    rw [tokens_true]
    rcases stack with _ | ⟨_ | _, stack⟩ <;> rfl
  | .false, stack, rest, _ => by
    rw [tokens_false]
    rcases stack with _ | ⟨_ | _, stack⟩ <;> rfl
  | .number h, stack, rest, hrest => by
    rw [tokens_number h hrest]
    rcases stack with _ | ⟨_ | _, stack⟩ <;> rfl
  | .string h, stack, rest, _ => by
    rw [tokens_quoted h]
    rcases stack with _ | ⟨_ | _, stack⟩ <;> rfl
  | .emptyArray h, stack, rest, _ => by
    rw [List.cons_append, List.append_assoc]
    change build .itemOrEnd stack (tokens _) = _
    rw [tokens_blank h]
    rcases stack with _ | ⟨_ | _, stack⟩ <;> rfl
  | .array h, stack, rest, _ => by
    rw [List.cons_append, List.append_assoc, List.singleton_append]
    change build .itemOrEnd stack (tokens _) = _
    obtain ⟨t, ts, hhead, ht⟩ := h.head_token rest
    rw [hhead, build_itemOrEnd ht, ← hhead]
    exact build_items h [] stack rest
  | .emptyObject h, stack, rest, _ => by
    rw [List.cons_append, List.append_assoc]
    change build .keyOrEnd stack (tokens _) = _
    rw [tokens_blank h]
    rcases stack with _ | ⟨_ | _, stack⟩ <;> rfl
  | .object h, stack, rest, _ => by
    rw [List.cons_append, List.append_assoc, List.singleton_append]
    change build .keyOrEnd stack (tokens _) = _
    obtain ⟨key, ts, hhead⟩ := h.head_token ('\x7d' :: rest)
    have hentries := build_entries h [] stack rest
    rw [hhead] at hentries ⊢
    exact hentries
  | .spaced hbefore h hafter, stack, rest, hrest => by
    rw [List.append_assoc, List.append_assoc, tokens_blank hbefore,
      build_value h stack (endsNumber_blank hafter hrest), tokens_blank hafter]

theorem build_items {items : List Draft} {text : List Char} : SpellsItems items text →
    ∀ (read : List Draft) (stack : List Frame) (rest : List Char),
    build .value (.array read :: stack) (tokens (text ++ ']' :: rest)) =
      resume (.array (read.reverse ++ items) .closed) stack (tokens rest)
  | .one h, read, stack, rest => by
    rw [build_value h _ (endsNumber_cons (by decide))]
    change build (.afterItem (_ :: read)) stack (.rightBracket :: tokens rest) = _
    rw [← List.reverse_cons]
    rcases stack with _ | ⟨_ | _, stack⟩ <;> rfl
  | @SpellsItems.more d items text further h hrest, read, stack, rest => by
    rw [List.append_assoc, List.cons_append, build_value h _ (endsNumber_cons (by decide))]
    change build .value (.array (d :: read) :: stack) (tokens _) = _
    rw [build_items hrest, List.reverse_cons, List.append_assoc, List.singleton_append]

theorem build_entry {entry : Quoted × Draft} {text : List Char} : SpellsEntry entry text →
    ∀ (read : List (Quoted × Draft)) (stack : List Frame) {rest : List Char}, EndsNumber rest →
    build (.key read) stack (tokens (text ++ rest)) =
      build (.afterEntry (entry :: read)) stack (tokens rest)
  | .entry hbefore hkey hafter h, read, stack, rest, hrest => by
    simp only [List.append_assoc, List.cons_append]
    rw [tokens_blank hbefore, tokens_quoted hkey, tokens_blank hafter]
    change build .value (.object read _ :: stack) (tokens _) = _
    rw [build_value h _ hrest]
    rfl

theorem build_entries {entries : List (Quoted × Draft)} {text : List Char} :
    SpellsEntries entries text → ∀ (read : List (Quoted × Draft)) (stack : List Frame)
    (rest : List Char),
    build (.key read) stack (tokens (text ++ '\x7d' :: rest)) =
      resume (.object (read.reverse ++ entries) .closed) stack (tokens rest)
  | .one h, read, stack, rest => by
    rw [build_entry h read stack (endsNumber_cons (by decide))]
    change build (.afterEntry (_ :: read)) stack (.rightBrace :: tokens rest) = _
    rw [← List.reverse_cons]
    rcases stack with _ | ⟨_ | _, stack⟩ <;> rfl
  | @SpellsEntries.more entry entries text further h hrest, read, stack, rest => by
    rw [List.append_assoc, List.cons_append, build_entry h read stack (endsNumber_cons (by decide))]
    change build (.key (entry :: read)) stack (tokens _) = _
    rw [build_entries hrest, List.reverse_cons, List.append_assoc, List.singleton_append]

end

end Draft

/-- A text is read as the value that it spells. -/
theorem Document.ofText_spells {text : String} {d : Draft} (h : Spells d text.toList) :
    Document.ofText text = ⟨d, false⟩ := by
  have hbuild := Draft.build_value h [] endsNumber_nil
  rw [List.append_nil] at hbuild
  rw [Document.ofText, Draft.ofTokens, hbuild]
  rfl

/-- What a shape reads from a text is what it reads from the value that the text spells. -/
theorem Reader.ofText_spells {α : Type} {text : String} {d : Draft} (h : Spells d text.toList)
    (read : Reader α) : read.ofText text = read d := by
  rw [Reader.ofText, Document.ofText_spells h]
  exact bind_pure (read d)

end ConstructorPlanning.Json
