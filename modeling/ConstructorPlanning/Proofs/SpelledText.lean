import ConstructorPlanning.Proofs.ScannedText
import ConstructorPlanning.Proofs.Stages
import ConstructorPlanning.Proofs.WrittenDraft
/-!
A value that is read to its end is spelled by its text. Every state of reading is reached by a text
that spells what is complete by then; a token either completes a value, goes on to another state or
breaks off, and a draft that is broken off anywhere is cut at its root.
-/
namespace ConstructorPlanning.Json

section Lists

theorem SpellsItems.concat {items : List Draft} {d : Draft} {text word : List Char}
    (h' : Spells d word) :
    SpellsItems items text → SpellsItems (items ++ [d]) (text ++ ',' :: word)
  | .one h => .more h (.one h')
  | .more h hrest => by
    rw [List.append_assoc]
    exact .more h (hrest.concat h')

theorem SpellsItems.after {items : List Draft} {text blank : List Char} (hblank : Blank blank) :
    SpellsItems items text → SpellsItems items (text ++ blank)
  | .one h => .one (h.after hblank)
  | .more h hrest => by
    rw [List.append_assoc]
    exact .more h (hrest.after hblank)

theorem SpellsEntries.concat {entries : List (Quoted × Draft)} {entry : Quoted × Draft}
    {text word : List Char} (h' : SpellsEntry entry word) :
    SpellsEntries entries text → SpellsEntries (entries ++ [entry]) (text ++ ',' :: word)
  | .one h => .more h (.one h')
  | .more h hrest => by
    rw [List.append_assoc]
    exact .more h (hrest.concat h')

theorem SpellsEntries.after {entries : List (Quoted × Draft)} {text blank : List Char}
    (hblank : Blank blank) :
    SpellsEntries entries text → SpellsEntries entries (text ++ blank)
  | .one h => .one (h.after hblank)
  | .more h hrest => by
    rw [List.append_assoc]
    exact .more h (hrest.after hblank)

end Lists

namespace Draft

def isWhole : Draft → Bool
  | .broken | .array _ .cut | .object _ .cut => false
  | _ => true

theorem isWhole_cutOff {inner : Draft} (h : inner.isWhole = false) (stack : List Frame) :
    (cutOff inner stack).isWhole = false := by
  induction stack generalizing inner with
  | nil => exact h
  | cons frame stack ih =>
    cases frame with
    | array => exact ih rfl
    | object => exact ih rfl

theorem isWhole_fail (expecting : Expecting) (stack : List Frame) :
    (fail expecting stack).isWhole = false := by
  cases expecting <;> exact isWhole_cutOff rfl stack

/-- What stands of an array up to its next item. -/
inductive BeforeItem : List Draft → List Char → Prop where
  | first {blank : List Char} (hblank : Blank blank) : BeforeItem [] (blank ++ ['['])
  | next {items : List Draft} {blank text : List Char} (hblank : Blank blank)
      (h : SpellsItems items.reverse text) : BeforeItem items (blank ++ '[' :: (text ++ [',']))

/-- What stands of an array up to the end of its last item so far. -/
inductive AfterItem : List Draft → List Char → Prop where
  | items {items : List Draft} {blank text : List Char} (hblank : Blank blank)
      (h : SpellsItems items.reverse text) : AfterItem items (blank ++ '[' :: text)

/-- What stands of an object up to its next key. -/
inductive BeforeEntry : List (Quoted × Draft) → List Char → Prop where
  | first {blank : List Char} (hblank : Blank blank) : BeforeEntry [] (blank ++ ['\x7b'])
  | next {entries : List (Quoted × Draft)} {blank text : List Char} (hblank : Blank blank)
      (h : SpellsEntries entries.reverse text) :
    BeforeEntry entries (blank ++ '\x7b' :: (text ++ [',']))

/-- What stands of an object up to the end of its next key. -/
inductive AfterKey : List (Quoted × Draft) → Quoted → List Char → Prop where
  | key {entries : List (Quoted × Draft)} {key : Quoted} {text before keyText : List Char}
      (h : BeforeEntry entries text) (hbefore : Blank before) (hkey : QuotedText key keyText) :
    AfterKey entries key (text ++ (before ++ keyText))

/-- What stands of an object up to the end of its last entry so far. -/
inductive AfterEntry : List (Quoted × Draft) → List Char → Prop where
  | entries {entries : List (Quoted × Draft)} {blank text : List Char} (hblank : Blank blank)
      (h : SpellsEntries entries.reverse text) : AfterEntry entries (blank ++ '\x7b' :: text)

/-- The text opens the containers, outermost first, up to the place of a value in each. -/
inductive Opens : List Frame → List Char → Prop where
  | nil : Opens [] []
  | array {items : List Draft} {stack : List Frame} {text inner : List Char} (h : Opens stack text)
      (hitems : BeforeItem items inner) : Opens (.array items :: stack) (text ++ inner)
  | object {entries : List (Quoted × Draft)} {key : Quoted} {stack : List Frame}
      {text inner blank : List Char} (h : Opens stack text) (hkey : AfterKey entries key inner)
      (hblank : Blank blank) :
    Opens (.object entries key :: stack) (text ++ (inner ++ (blank ++ [':'])))

/-- The text leads to a state of reading. -/
inductive Reaches : Expecting → List Frame → List Char → Prop where
  | value {stack : List Frame} {text : List Char} (h : Opens stack text) : Reaches .value stack text
  | itemOrEnd {stack : List Frame} {text blank : List Char} (h : Opens stack text)
      (hblank : Blank blank) : Reaches .itemOrEnd stack (text ++ (blank ++ ['[']))
  | keyOrEnd {stack : List Frame} {text blank : List Char} (h : Opens stack text)
      (hblank : Blank blank) : Reaches .keyOrEnd stack (text ++ (blank ++ ['\x7b']))
  | key {entries : List (Quoted × Draft)} {stack : List Frame} {text inner : List Char}
      (h : Opens stack text) (hentries : BeforeEntry entries inner) :
    Reaches (.key entries) stack (text ++ inner)
  | colon {entries : List (Quoted × Draft)} {key : Quoted} {stack : List Frame}
      {text inner : List Char} (h : Opens stack text) (hkey : AfterKey entries key inner) :
    Reaches (.colon entries key) stack (text ++ inner)
  | afterItem {items : List Draft} {stack : List Frame} {text inner : List Char}
      (h : Opens stack text) (hitems : AfterItem items inner) :
    Reaches (.afterItem items) stack (text ++ inner)
  | afterEntry {entries : List (Quoted × Draft)} {stack : List Frame} {text inner : List Char}
      (h : Opens stack text) (hentries : AfterEntry entries inner) :
    Reaches (.afterEntry entries) stack (text ++ inner)

/-- What a token does in a state, where `text` ends with it: it completes a value inside the open
containers, it leads on, or reading breaks off. -/
inductive Advances (expecting : Expecting) (stack : List Frame) (t : Token) (text : List Char) :
    Prop where
  | completes {d : Draft} {outer : List Frame} {before inner : List Char} (h : Opens outer before)
      (hspells : Spells d inner) (htext : text = before ++ inner)
      (hbuild : ∀ ts, build expecting stack (t :: ts) = d.resume outer ts)
  | leadsOn {expecting' : Expecting} {stack' : List Frame} (h : Reaches expecting' stack' text)
      (hbuild : ∀ ts, build expecting stack (t :: ts) = build expecting' stack' ts)
  | breaks {d : Draft} (h : d.isWhole = false)
      (hbuild : ∀ ts, build expecting stack (t :: ts) = (d, []))

section Containers

variable {d : Draft} {text word blank : List Char}

theorem BeforeItem.item {items : List Draft} (h : BeforeItem items text) (hd : Spells d word) :
    AfterItem (d :: items) (text ++ word) := by
  cases h with
  | first hblank =>
    rw [List.append_assoc]
    exact .items hblank (.one hd)
  | next hblank h =>
    simp only [List.append_assoc, List.cons_append, List.nil_append]
    refine .items hblank ?_
    rw [List.reverse_cons]
    exact h.concat hd

theorem AfterItem.comma {items : List Draft} (h : AfterItem items text) (hblank : Blank blank) :
    BeforeItem items (text ++ (blank ++ [','])) := by
  cases h with
  | items hbefore h =>
    rw [List.append_assoc, List.cons_append, ← List.append_assoc _ blank]
    exact .next hbefore (h.after hblank)

theorem AfterItem.bracket {items : List Draft} (h : AfterItem items text) (hblank : Blank blank) :
    Spells (.array items.reverse .closed) (text ++ (blank ++ [']'])) := by
  cases h with
  | items hbefore h =>
    rw [List.append_assoc, List.cons_append, ← List.append_assoc _ blank]
    exact (Spells.array (h.after hblank)).before hbefore

theorem BeforeEntry.entry {entries : List (Quoted × Draft)} {entry : Quoted × Draft}
    (h : BeforeEntry entries text) (hentry : SpellsEntry entry word) :
    AfterEntry (entry :: entries) (text ++ word) := by
  cases h with
  | first hblank =>
    rw [List.append_assoc]
    exact .entries hblank (.one hentry)
  | next hblank h =>
    simp only [List.append_assoc, List.cons_append, List.nil_append]
    refine .entries hblank ?_
    rw [List.reverse_cons]
    exact h.concat hentry

theorem AfterKey.entry {entries : List (Quoted × Draft)} {key : Quoted}
    (h : AfterKey entries key text) (hblank : Blank blank) (hd : Spells d word) :
    AfterEntry ((key, d) :: entries) (text ++ (blank ++ [':']) ++ word) := by
  cases h with
  | key h hbefore hkey =>
    simp only [List.append_assoc, List.cons_append, List.nil_append]
    exact h.entry (.entry hbefore hkey hblank hd)

theorem AfterEntry.comma {entries : List (Quoted × Draft)} (h : AfterEntry entries text)
    (hblank : Blank blank) : BeforeEntry entries (text ++ (blank ++ [','])) := by
  cases h with
  | entries hbefore h =>
    rw [List.append_assoc, List.cons_append, ← List.append_assoc _ blank]
    exact .next hbefore (h.after hblank)

theorem AfterEntry.brace {entries : List (Quoted × Draft)} (h : AfterEntry entries text)
    (hblank : Blank blank) :
    Spells (.object entries.reverse .closed) (text ++ (blank ++ ['\x7d'])) := by
  cases h with
  | entries hbefore h =>
    rw [List.append_assoc, List.cons_append, ← List.append_assoc _ blank]
    exact (Spells.object (h.after hblank)).before hbefore

end Containers

section Steps

variable {t : Token} {stack : List Frame} {text blank word : List Char}

/-- Behind a value the innermost container goes on. -/
theorem Opens.resumes {frame : Frame} {d : Draft} (h : Opens (frame :: stack) text)
    (hd : Spells d word) :
    ∃ expecting outer, Reaches expecting outer (text ++ word) ∧
      ∀ ts, d.resume (frame :: stack) ts = build expecting outer ts := by
  cases h with
  | @array items _ text inner h hitems =>
    rw [List.append_assoc]
    exact ⟨.afterItem (d :: items), stack, .afterItem h (hitems.item hd), fun _ => rfl⟩
  | @object entries key _ text inner blank h hkey hblank =>
    rw [List.append_assoc]
    exact ⟨.afterEntry ((key, d) :: entries), stack, .afterEntry h (hkey.entry hblank hd),
      fun _ => rfl⟩

theorem Opens.advances (h : Opens stack text) (hblank : Blank blank) (hword : TokenText t word) :
    Advances .value stack t (text ++ (blank ++ word)) := by
  cases hword with
  | leftBrace => exact .leadsOn (.keyOrEnd h hblank) fun _ => rfl
  | leftBracket => exact .leadsOn (.itemOrEnd h hblank) fun _ => rfl
  | null =>
    refine .completes h (Spells.null.before hblank) rfl fun ts => ?_
    rcases stack with _ | ⟨_ | _, stack⟩ <;> rfl
  | true =>
    refine .completes h (Spells.true.before hblank) rfl fun ts => ?_
    rcases stack with _ | ⟨_ | _, stack⟩ <;> rfl
  | false =>
    refine .completes h (Spells.false.before hblank) rfl fun ts => ?_
    rcases stack with _ | ⟨_ | _, stack⟩ <;> rfl
  | number hnumber =>
    refine .completes h ((Spells.number hnumber).before hblank) rfl fun ts => ?_
    rcases stack with _ | ⟨_ | _, stack⟩ <;> rfl
  | string hstring =>
    refine .completes h ((Spells.string hstring).before hblank) rfl fun ts => ?_
    rcases stack with _ | ⟨_ | _, stack⟩ <;> rfl
  | _ => exact .breaks (isWhole_cutOff rfl stack) fun _ => rfl

/-- In an array, what is no bracket begins the first item. -/
theorem Advances.first_item (ht : t ≠ .rightBracket)
    (h : Advances .value (.array [] :: stack) t text) : Advances .itemOrEnd stack t text := by
  cases h with
  | completes h hspells htext hbuild =>
    exact .completes h hspells htext fun ts => (build_itemOrEnd ht stack ts).trans (hbuild ts)
  | leadsOn h hbuild =>
    exact .leadsOn h fun ts => (build_itemOrEnd ht stack ts).trans (hbuild ts)
  | breaks h hbuild =>
    exact .breaks h fun ts => (build_itemOrEnd ht stack ts).trans (hbuild ts)

theorem Reaches.advances {expecting : Expecting} (h : Reaches expecting stack text)
    (hblank : Blank blank) (hword : TokenText t word) :
    Advances expecting stack t (text ++ (blank ++ word)) := by
  cases h with
  | value h => exact h.advances hblank hword
  | @itemOrEnd _ text before h hbefore =>
    by_cases ht : t = .rightBracket
    · subst ht
      cases hword
      refine .completes h ((Spells.emptyArray hblank).before hbefore) (by simp) fun ts => ?_
      rcases stack with _ | ⟨_ | _, stack⟩ <;> rfl
    · exact ((Opens.array h (.first hbefore)).advances hblank hword).first_item ht
  | @keyOrEnd _ text before h hbefore =>
    cases hword with
    | rightBrace =>
      refine .completes h ((Spells.emptyObject hblank).before hbefore) (by simp) fun ts => ?_
      rcases stack with _ | ⟨_ | _, stack⟩ <;> rfl
    | string hkey =>
      refine .leadsOn ?_ fun _ => rfl
      rw [List.append_assoc]
      exact .colon h (.key (.first hbefore) hblank hkey)
    | _ => exact .breaks (isWhole_fail _ stack) fun _ => rfl
  | key h hentries =>
    cases hword with
    | string hkey =>
      refine .leadsOn ?_ fun _ => rfl
      rw [List.append_assoc]
      exact .colon h (.key hentries hblank hkey)
    | _ => exact .breaks (isWhole_fail _ stack) fun _ => rfl
  | colon h hkey =>
    cases hword with
    | colon =>
      refine .leadsOn (.value ?_) fun _ => rfl
      rw [List.append_assoc]
      exact .object h hkey hblank
    | _ => exact .breaks (isWhole_fail _ stack) fun _ => rfl
  | afterItem h hitems =>
    cases hword with
    | comma =>
      refine .leadsOn (.value ?_) fun _ => rfl
      rw [List.append_assoc]
      exact .array h (hitems.comma hblank)
    | rightBracket =>
      refine .completes h (hitems.bracket hblank) (List.append_assoc _ _ _) fun ts => ?_
      rcases stack with _ | ⟨_ | _, stack⟩ <;> rfl
    | _ => exact .breaks (isWhole_fail _ stack) fun _ => rfl
  | afterEntry h hentries =>
    cases hword with
    | comma =>
      refine .leadsOn ?_ fun _ => rfl
      rw [List.append_assoc]
      exact .key h (hentries.comma hblank)
    | rightBrace =>
      refine .completes h (hentries.brace hblank) (List.append_assoc _ _ _) fun ts => ?_
      rcases stack with _ | ⟨_ | _, stack⟩ <;> rfl
    | _ => exact .breaks (isWhole_fail _ stack) fun _ => rfl

end Steps

theorem build_stray (expecting : Expecting) (stack : List Frame) :
    (build expecting stack [.stray]).1.isWhole = false := by
  cases expecting with
  | value => exact isWhole_cutOff rfl stack
  | itemOrEnd => exact isWhole_cutOff rfl (.array [] :: stack)
  | _ => exact isWhole_cutOff rfl stack

/-- A value that is read to its end is spelled by the text up to the tokens left over. -/
theorem build_sound {ts rest : List Token} {before text : List Char} {expecting : Expecting}
    {stack : List Frame} {d : Draft} (h : Reaches expecting stack before)
    (htokens : TokensText ts text) (hbuild : build expecting stack ts = (d, rest))
    (hwhole : d.isWhole) :
    ∃ read left, text = read ++ left ∧ Spells d (before ++ read) ∧ TokensText rest left := by
  -- by induction on the tokens, for every state that a text leads to
  induction htokens generalizing expecting stack before with
  | nil =>
    cases hbuild
    rw [isWhole_fail] at hwhole
    cases hwhole
  | stray =>
    have hcut := build_stray expecting stack
    rw [hbuild, hwhole] at hcut
    cases hcut
  | @cons t ts blank word further hblank hword hrest ih =>
    have hnext : ∀ {expecting' : Expecting} {stack' : List Frame},
        Reaches expecting' stack' (before ++ (blank ++ word)) →
        build expecting' stack' ts = (d, rest) →
        ∃ read left, blank ++ (word ++ further) = read ++ left ∧ Spells d (before ++ read) ∧
          TokensText rest left := by
      intro expecting' stack' hreaches hlater
      obtain ⟨read, left, rfl, hspells, hleft⟩ := ih hreaches hlater
      refine ⟨blank ++ (word ++ read), left, by simp, ?_, hleft⟩
      simpa using hspells
    cases h.advances hblank hword with
    | @completes v outer front inner hopens hspells htext hresume =>
      rw [hresume] at hbuild
      cases outer with
      | nil =>
        cases hopens
        cases hbuild
        refine ⟨blank ++ word, further, (List.append_assoc _ _ _).symm, ?_, hrest⟩
        rw [htext]
        exact hspells
      | cons frame outer =>
        obtain ⟨expecting', stack', hreaches, hon⟩ := hopens.resumes hspells
        rw [hon] at hbuild
        rw [← htext] at hreaches
        exact hnext hreaches hbuild
    | leadsOn hreaches hon =>
      rw [hon] at hbuild
      exact hnext hreaches hbuild
    | breaks hcut hend =>
      rw [hend] at hbuild
      cases hbuild
      rw [hcut] at hwhole
      cases hwhole

end Draft

/-- A text is read as a whole value, with nothing behind it, exactly if it spells the value. -/
theorem Document.ofText_eq_iff {text : String} {d : Draft} (hwhole : d.isWhole) :
    Document.ofText text = ⟨d, false⟩ ↔ Spells d text.toList := by
  refine ⟨fun h => ?_, ofText_spells⟩
  cases hbuild : Draft.build .value [] (tokens text.toList) with
  | mk root rest =>
    rw [Document.ofText, Draft.ofTokens, hbuild] at h
    obtain ⟨rfl, hrest⟩ := Document.mk.inj h
    cases rest with
    | cons => cases hrest
    | nil =>
      obtain ⟨read, left, htext, hspells, hleft⟩ :=
        Draft.build_sound (.value .nil) (tokens_sound text.toList) hbuild hwhole
      cases hleft with
      | nil hblank =>
        rw [htext]
        exact hspells.after hblank

/-- A reader that refuses what is cut off reads exactly the texts of the values that it takes. -/
theorem Reader.ofText_eq_ok_iff {α : Type} {read : Reader α} {text : String} {a : α}
    (hread : ∀ d a, read d = .ok a → d.isWhole) :
    read.ofText text = .ok a ↔ ∃ d, Spells d text.toList ∧ read d = .ok a := by
  constructor
  · intro h
    rw [Reader.ofText, bind_eq_ok_iff] at h
    obtain ⟨b, hroot, hb⟩ := h
    cases hdocument : Document.ofText text with
    | mk root hasTrailing =>
      rw [hdocument] at hroot hb
      cases hasTrailing with
      | true => cases hb
      | false =>
        cases hb
        exact ⟨root, (Document.ofText_eq_iff (hread root a hroot)).1 hdocument, hroot⟩
  · rintro ⟨d, hspells, hd⟩
    rw [ofText_spells hspells, hd]

namespace RecordShape

variable {α : Type} {shape : RecordShape α}

theorem eq_closed_of_checkEnding {ending : Ending} {u : Unit}
    (h : Reader.checkEnding ending = .ok u) : ending = .closed := by
  cases ending with
  | closed => rfl
  | cut => cases h

/-- A record is read only from a value that has come to its end. -/
theorem isWhole_of_read {d : Draft} {x : α} (h : shape.read d = .ok x) : d.isWhole := by
  cases d with
  | object entries ending =>
    obtain ⟨_, -, hrest⟩ := bind_eq_ok_iff.1 h
    obtain ⟨_, hending, -⟩ := bind_eq_ok_iff.1 hrest
    rw [eq_closed_of_checkEnding hending]
    rfl
  | array items ending =>
    obtain ⟨_, -, hrest⟩ := bind_eq_ok_iff.1 h
    obtain ⟨_, hending, -⟩ := bind_eq_ok_iff.1 hrest
    rw [eq_closed_of_checkEnding hending]
    rfl
  | _ => cases h

end RecordShape

end ConstructorPlanning.Json
