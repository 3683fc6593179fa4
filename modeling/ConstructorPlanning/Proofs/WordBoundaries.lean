import ConstructorPlanning.Proofs.NormalName
/-!
What a parameter name keeps of its member's name. It keeps the maximal runs of letters and numerals,
whatever stands between them; and where an upper-case letter or a digit follows within a run, it is
the same as if a new run began there.
-/
namespace ConstructorPlanning.ParameterName

/-- The characters of a text that are letters or numerals, in their maximal runs. -/
inductive Runs : List Char → List (List Char) → Prop where
  | done : Runs [] []
  | separator {c : Char} {rest : List Char} {runs : List (List Char)}
      (outside : ¬ Text.isAlphanumeric c) (later : Runs rest runs) : Runs (c :: rest) runs
  | run {run rest : List Char} {runs : List (List Char)} (nonempty : run ≠ [])
      (inside : ∀ c ∈ run, Text.isAlphanumeric c)
      (maximal : ∀ c ∈ rest.head?, ¬ Text.isAlphanumeric c) (later : Runs rest runs) :
      Runs (run ++ rest) (run :: runs)

section Words

theorem words_append_separators {seps : List Char} (h : ∀ c ∈ seps, ¬ Text.isAlphanumeric c)
    (text : List Char) : words (seps ++ text) = words text := by
  induction seps with
  | nil => rfl
  | cons c seps ih =>
    obtain ⟨hc, hseps⟩ := List.forall_mem_cons.1 h
    rw [List.cons_append, words_cons_separator hc, ih hseps]

/-- A text has no other runs than its words. -/
theorem Runs.words_eq {text : List Char} {runs : List (List Char)} (h : Runs text runs) :
    words text = runs := by
  induction h with
  | done => rfl
  | separator outside _ ih => rw [words_cons_separator outside, ih]
  | @run run rest runs nonempty inside maximal _ ih =>
    have hrun := words_of_isAlphanumeric nonempty inside
    cases rest with
    | nil =>
      rw [List.append_nil, hrun, ← ih]
      rfl
    | cons c rest =>
      have hc := maximal c rfl
      rw [words_cons_separator hc] at ih
      rw [words_append_separator hc, hrun, ih]
      rfl

theorem exists_runs (text : List Char) : ∃ runs, Runs text runs := by
  induction text with
  | nil => exact ⟨[], .done⟩
  | cons c rest ih =>
    obtain ⟨runs, h⟩ := ih
    by_cases hc : Text.isAlphanumeric c
    · have hsingle : ∀ d ∈ [c], Text.isAlphanumeric d := by simpa using hc
      cases h with
      | done =>
        have hrun : Runs ([c] ++ []) [[c]] :=
          .run (List.cons_ne_nil c []) hsingle (by simp) .done
        exact ⟨[[c]], hrun⟩
      | @separator d rest _ outside later =>
        have hmaximal : ∀ e ∈ (d :: rest).head?, ¬ Text.isAlphanumeric e := by simpa using outside
        exact ⟨_, .run (List.cons_ne_nil c []) hsingle hmaximal (.separator outside later)⟩
      | @run run rest runs nonempty inside maximal later =>
        exact ⟨(c :: run) :: runs, .run (List.cons_ne_nil c run)
          (List.forall_mem_cons.2 ⟨hc, inside⟩) maximal later⟩
    · exact ⟨runs, .separator hc h⟩

theorem runs_iff {text : List Char} {runs : List (List Char)} :
    Runs text runs ↔ words text = runs := by
  refine ⟨Runs.words_eq, ?_⟩
  rintro rfl
  obtain ⟨runs, h⟩ := exists_runs text
  rwa [h.words_eq]

end Words

section Insertion

/-- What is added behind a letter or numeral goes on with the last piece of a split text. -/
theorem exists_last_piece {p : Char → Bool} (front : List Char) {a : Char} (ha : p a = false) :
    ∃ pieces last, last ≠ [] ∧ ∀ tail, (front ++ a :: tail).splitOnP p =
      pieces ++ (tail.splitOnP p).modifyHead (last ++ ·) := by
  induction front with
  | nil =>
    refine ⟨[], [a], List.cons_ne_nil a [], ?_⟩
    intro tail
    rw [List.nil_append, List.splitOnP_cons_eq_if_modifyHead, ha]
    rfl
  | cons c front ih =>
    obtain ⟨pieces, last, hne, hsplit⟩ := ih
    cases hc : p c with
    | true =>
      refine ⟨[] :: pieces, last, hne, ?_⟩
      intro tail
      rw [List.cons_append, List.splitOnP_cons_eq_if_modifyHead, hc, if_pos rfl, hsplit]
      rfl
    | false =>
      have hcons (tail : List Char) : (c :: (front ++ a :: tail)).splitOnP p =
          (pieces ++ (tail.splitOnP p).modifyHead (last ++ ·)).modifyHead (c :: ·) := by
        rw [List.splitOnP_cons_eq_if_modifyHead, hc, hsplit]
        rfl
      cases pieces with
      | nil =>
        refine ⟨[], c :: last, List.cons_ne_nil c last, ?_⟩
        intro tail
        rw [List.cons_append, hcons, List.nil_append, List.modifyHead_modifyHead]
        rfl
      | cons piece pieces =>
        refine ⟨(c :: piece) :: pieces, last, hne, ?_⟩
        intro tail
        rw [List.cons_append, hcons]
        rfl

/-- Within a run, the word that ends at one character and the word that begins at the next are one
word. -/
theorem exists_joined_words (front back : List Char) {a b : Char} (ha : Text.isAlphanumeric a)
    (hb : Text.isAlphanumeric b) :
    ∃ before last next after, last ≠ [] ∧ words (front ++ [a]) = before ++ [last] ∧
      words (b :: back) = (b :: next) :: after ∧
      words (front ++ a :: b :: back) = before ++ (last ++ b :: next) :: after := by
  let outside (c : Char) : Bool := !Text.isAlphanumeric c
  have ha' : outside a = false := by simpa [outside] using ha
  have hb' : outside b = false := by simpa [outside] using hb
  obtain ⟨pieces, last, hne, hsplit⟩ := exists_last_piece front ha'
  obtain ⟨next, more, hback⟩ := List.exists_cons_of_ne_nil (List.splitOnP_ne_nil outside back)
  have hnext : (b :: back).splitOnP outside = (b :: next) :: more := by
    rw [List.splitOnP_cons_eq_if_modifyHead, hb', hback]
    rfl
  refine ⟨pieces.filter (!·.isEmpty), last, next, more.filter (!·.isEmpty), hne, ?_, ?_, ?_⟩
  · change ((front ++ [a]).splitOnP outside).filter _ = _
    rw [hsplit, List.splitOnP_nil, List.filter_append]
    simp [hne]
  · change ((b :: back).splitOnP outside).filter _ = _
    rw [hnext]
    rfl
  · change ((front ++ a :: b :: back).splitOnP outside).filter _ = _
    rw [hsplit, hnext, List.modifyHead_cons, List.filter_append, List.filter_cons]
    simp

theorem headRecased_append (recase : Char → List Char) {word : List Char} (h : word ≠ [])
    (more : List Char) :
    headRecased recase (word ++ more) = headRecased recase word ++ more := by
  cases word with
  | nil => exact absurd rfl h
  | cons c rest => exact (List.append_assoc _ _ _).symm

/-- In front of a character that is its own upper case, a word may be cut. -/
theorem lowerCamel_cut {last : List Char} (hlast : last ≠ []) {b : Char}
    (hb : Text.uppered b = [b]) (before after : List (List Char)) (next : List Char) :
    lowerCamel (before ++ last :: (b :: next) :: after) =
      lowerCamel (before ++ (last ++ b :: next) :: after) := by
  have hnext : headRecased Text.uppered (b :: next) = b :: next := by
    rw [headRecased, hb]
    rfl
  cases before with
  | nil =>
    change headRecased _ last ++ List.flatMap _ (_ :: after) =
      headRecased _ (last ++ b :: next) ++ after.flatMap _
    rw [headRecased_append _ hlast, List.flatMap_cons, hnext, List.append_assoc]
  | cons first before =>
    change _ ++ List.flatMap _ (before ++ last :: (b :: next) :: after) =
      _ ++ List.flatMap _ (before ++ (last ++ b :: next) :: after)
    simp only [List.flatMap_append, List.flatMap_cons, headRecased_append _ hlast, hnext,
      List.append_assoc]

/-- Separators that part a run in front of an upper-case letter or a digit leave the words in lower
camel case as they are. -/
theorem lowerCamel_parted (front back : List Char) {a b : Char} {seps : List Char}
    (ha : Text.isAlphanumeric a) (hb : b.isUpper ∨ b.isDigit)
    (hseps : ∀ c ∈ seps, ¬ Text.isAlphanumeric c) :
    lowerCamel (words (front ++ a :: (seps ++ b :: back))) =
      lowerCamel (words (front ++ a :: b :: back)) := by
  obtain ⟨halnum, hsame⟩ := toUpper_of_isUpper_or_isDigit hb
  have hascii := toNat_lt_of_isAlphanum halnum
  have hb' : Text.isAlphanumeric b := by
    rw [isAlphanumeric_eq hascii]
    exact halnum
  have hupper : Text.uppered b = [b] := by rw [uppered_eq hascii, hsame]
  cases seps with
  | nil => rfl
  | cons c seps =>
    obtain ⟨hc, hseps'⟩ := List.forall_mem_cons.1 hseps
    obtain ⟨before, last, next, after, hlast, hfront, hback, hjoined⟩ :=
      exists_joined_words front back ha hb'
    have hparted : words (front ++ a :: (c :: seps ++ b :: back)) =
        before ++ last :: (b :: next) :: after := by
      have hregroup : front ++ a :: (c :: seps ++ b :: back) =
          (front ++ [a]) ++ c :: (seps ++ b :: back) := by
        simp
      rw [hregroup, words_append_separator hc, words_append_separators hseps', hfront, hback,
        List.append_assoc]
      rfl
    rw [hparted, hjoined, lowerCamel_cut hlast hupper]

end Insertion

/-- Every name has one sequence of maximal runs of letters and numerals, and members whose names
have the same one have the same parameter name. Moreover a run may be parted, by any separators, in
front of an upper-case letter or a digit. -/
theorem only_runs_matter :
    (∀ name : String, ∃! runs, Runs name.toList runs) ∧
      (∀ (name name' : String) (runs : List (List Char)), Runs name.toList runs →
        Runs name'.toList runs → ofMember name = ofMember name') ∧
      ∀ (front back seps : List Char) (a b : Char), Text.isAlphanumeric a →
        b.isUpper ∨ b.isDigit → (∀ c ∈ seps, ¬ Text.isAlphanumeric c) →
          ofMember (String.ofList (front ++ a :: (seps ++ b :: back))) =
            ofMember (String.ofList (front ++ a :: b :: back)) := by
  refine ⟨?_, ?_, ?_⟩
  · intro name
    exact ⟨words name.toList, runs_iff.2 rfl, fun runs h => h.words_eq.symm⟩
  · intro name name' runs h h'
    rw [ofMember, ofMember, h.words_eq, h'.words_eq]
  · intro front back seps a b ha hb hseps
    rw [ofMember, ofMember, String.toList_ofList, String.toList_ofList,
      lowerCamel_parted front back ha hb hseps]

theorem only_runs_matter_spellings :
    Runs "Über_Größe".toList ["Über".toList, "Größe".toList] ∧
      Runs "_Über -Größe·".toList ["Über".toList, "Größe".toList] ∧
      ofMember "Über_Größe" = ofMember "_Über -Größe·" ∧
      (Text.isAlphanumeric 't' ∧ 'N'.isUpper ∧ ¬ Text.isAlphanumeric '_') ∧
      ofMember "First_Name" = ofMember "FirstName" := by
  have hruns : Runs "Über_Größe".toList ["Über".toList, "Größe".toList] :=
    runs_iff.2 (by decide +kernel)
  have hruns' : Runs "_Über -Größe·".toList ["Über".toList, "Größe".toList] :=
    runs_iff.2 (by decide +kernel)
  have hinside : Text.isAlphanumeric 't' := by decide
  have hupper : 'N'.isUpper := by decide
  have houtside : ¬ Text.isAlphanumeric '_' := by decide
  obtain ⟨_, hsame, hparted⟩ := only_runs_matter
  have hname := hparted "Firs".toList "ame".toList ['_'] 't' 'N' hinside (.inl hupper)
    (by simpa using houtside)
  exact ⟨hruns, hruns', hsame _ _ _ hruns hruns', ⟨hinside, hupper, houtside⟩, hname⟩

end ConstructorPlanning.ParameterName
