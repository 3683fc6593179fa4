import Mathlib.Data.List.TakeWhile
import ConstructorPlanning.Command.Report
/-!
Coloured reports without their colours. Deleting the colour sequences from a report leaves the same
text whether it was written in colours or not, whatever the strings of the report hold: a sequence
begins with an escape and has no other, so that a style put around a text, or started anew within
it, never becomes part of a sequence of the text itself.
-/
namespace ConstructorPlanning.Command

section Stripping

def isCode (c : Char) : Bool :=
  c.isDigit || c = ';'

/-- An escape, a bracket, any number of digits and semicolons, and the letter that ends them. -/
inductive IsSequence : List Char → Prop where
  | mk (codes : List Char) (all_codes : ∀ c ∈ codes, isCode c) :
    IsSequence ('\x1b' :: '[' :: codes ++ ['m'])

/-- What follows the sequence that a text begins with. -/
def afterSequence? : List Char → Option (List Char)
  | '\x1b' :: '[' :: rest =>
    match rest.dropWhile isCode with
    | 'm' :: rest => some rest
    | _ => none
  | _ => none

theorem afterSequence_append {sequence : List Char} (h : IsSequence sequence) (rest : List Char) :
    afterSequence? (sequence ++ rest) = some rest := by
  obtain ⟨codes, hcodes⟩ := h
  have hm : isCode 'm' = false := by decide
  simp [afterSequence?, List.dropWhile_append_of_pos hcodes, hm]

theorem afterSequence_eq_some_iff {text rest : List Char} :
    afterSequence? text = some rest ↔
      ∃ sequence, IsSequence sequence ∧ text = sequence ++ rest := by
  constructor
  · intro h
    unfold afterSequence? at h
    split at h
    · rename_i behind
      split at h
      · rename_i hdrop
        cases h
        refine ⟨_, .mk (behind.takeWhile isCode) fun c hc => List.mem_takeWhile_imp hc, ?_⟩
        have hsplit := List.takeWhile_append_dropWhile (p := isCode) (l := behind)
        rw [hdrop] at hsplit
        simpa using hsplit.symm
      · cases h
    · cases h
  · rintro ⟨sequence, hsequence, rfl⟩
    exact afterSequence_append hsequence rest

theorem length_afterSequence {text rest : List Char} (h : afterSequence? text = some rest) :
    rest.length < text.length := by
  obtain ⟨sequence, ⟨codes, _⟩, rfl⟩ := afterSequence_eq_some_iff.1 h
  simp
  omega

/-- The text without its sequences, deleted from left to right. -/
def stripped : List Char → List Char
  | [] => []
  | c :: text =>
    match h : afterSequence? (c :: text) with
    | some rest =>
      have := length_afterSequence h
      stripped rest
    | none => c :: stripped text
termination_by text => text.length
decreasing_by
  · exact this
  · exact Nat.lt_succ_self text.length

theorem stripped_sequence {sequence : List Char} (h : IsSequence sequence) (rest : List Char) :
    stripped (sequence ++ rest) = stripped rest := by
  have hafter := afterSequence_append h rest
  obtain ⟨codes, hcodes⟩ := h
  rw [List.cons_append, List.cons_append, List.cons_append] at hafter ⊢
  rw [stripped]
  split
  · rename_i behind hbehind
    rw [hafter] at hbehind
    cases hbehind
    rfl
  · rename_i hbehind
    rw [hafter] at hbehind
    cases hbehind

theorem stripped_cons {c : Char} {text : List Char} (h : afterSequence? (c :: text) = none) :
    stripped (c :: text) = c :: stripped text := by
  rw [stripped]
  split
  · rename_i hbehind
    rw [h] at hbehind
    cases hbehind
  · rfl

/-- The character stands within a sequence, which the escape does not. -/
def isInner (c : Char) : Bool :=
  c = '[' || isCode c || c = 'm'

/-- The text does not continue a sequence. -/
def BeginsAnew (text : List Char) : Prop :=
  ∀ c ∈ text.head?, isInner c = false

theorem beginsAnew_of_head {text : List Char} (c : Char) (h : text.head? = some c)
    (hc : isInner c = false) : BeginsAnew text := by
  intro d hd
  obtain rfl : c = d := by simpa [h] using hd
  exact hc

theorem IsSequence.isInner {front back : List Char} {c : Char}
    (h : IsSequence (front ++ c :: back)) (hfront : front ≠ []) : isInner c := by
  obtain ⟨d, front, rfl⟩ := List.exists_cons_of_ne_nil hfront
  generalize hwhole : d :: front ++ c :: back = whole at h
  obtain ⟨codes, hcodes⟩ := h
  have hc : c ∈ '[' :: codes ++ ['m'] := by
    have hrest : front ++ c :: back = '[' :: codes ++ ['m'] := (List.cons.inj hwhole).2
    rw [← hrest]
    simp
  rw [List.cons_append, List.mem_cons, List.mem_append, List.mem_singleton] at hc
  rcases hc with rfl | hc | rfl
  · decide
  · simp [Command.isInner, hcodes c hc]
  · decide

/-- A sequence that a text begins with ends in the first part of the text if the second part begins
anew. -/
theorem afterSequence_append_none {c : Char} {front back : List Char} (hback : BeginsAnew back)
    (h : afterSequence? (c :: front) = none) : afterSequence? (c :: front ++ back) = none := by
  cases hwhole : afterSequence? (c :: front ++ back) with
  | none => rfl
  | some rest =>
    obtain ⟨sequence, hsequence, hsplit⟩ := afterSequence_eq_some_iff.1 hwhole
    rcases List.append_eq_append_iff.1 hsplit with ⟨inner, rfl, hrest⟩ | ⟨behind, hfront, -⟩
    · cases inner with
      | nil =>
        rw [List.append_nil] at hsequence
        have hnone := afterSequence_append hsequence []
        rw [List.append_nil, h] at hnone
        cases hnone
      -- the sequence would reach into the second part, with a character that is none of its own
      | cons d inner =>
        have hinner := hsequence.isInner (List.cons_ne_nil c front)
        rw [hback d (by simp [hrest])] at hinner
        cases hinner
    · have hnone := afterSequence_append hsequence behind
      rw [← hfront, h] at hnone
      cases hnone

theorem stripped_append (front : List Char) {back : List Char} (hback : BeginsAnew back) :
    stripped (front ++ back) = stripped front ++ stripped back := by
  fun_induction stripped front with
  | case1 => rfl
  | case2 c front rest h _ ih =>
    obtain ⟨sequence, hsequence, hsplit⟩ := afterSequence_eq_some_iff.1 h
    rw [hsplit, List.append_assoc, stripped_sequence hsequence, ih]
  | case3 c front h ih =>
    have hnone := afterSequence_append_none hback h
    rw [List.cons_append] at hnone ⊢
    rw [stripped_cons hnone, ih, List.cons_append]

theorem IsSequence.beginsAnew {sequence : List Char} (h : IsSequence sequence)
    (rest : List Char) : BeginsAnew (sequence ++ rest) := by
  obtain ⟨codes, hcodes⟩ := h
  simp only [BeginsAnew, List.cons_append, List.head?_cons, Option.mem_some, forall_eq']
  decide

theorem BeginsAnew.append {front back : List Char} (hfront : BeginsAnew front)
    (hback : BeginsAnew back) : BeginsAnew (front ++ back) := by
  cases front with
  | nil => exact hback
  | cons c front => exact hfront

def withoutSequences (text : String) : String :=
  String.ofList (stripped text.toList)

theorem stripped_flatten {texts : List (List Char)} (h : ∀ text ∈ texts, BeginsAnew text) :
    BeginsAnew texts.flatten ∧ stripped texts.flatten = (texts.map stripped).flatten := by
  induction texts with
  | nil => exact ⟨by simp [BeginsAnew], by simp [stripped]⟩
  | cons text texts ih =>
    obtain ⟨hhead, hrest⟩ := List.forall_mem_cons.1 h
    obtain ⟨hbegins, hstripped⟩ := ih hrest
    refine ⟨hhead.append hbegins, ?_⟩
    rw [List.flatten_cons, stripped_append text hbegins, hstripped, List.map_cons,
      List.flatten_cons]

theorem stripped_intercalate_newLine (texts : List (List Char)) :
    stripped (['\n'].intercalate texts) = ['\n'].intercalate (texts.map stripped) := by
  induction texts with
  | nil => simp [stripped]
  | cons text texts ih =>
    cases texts with
    | nil => simp
    | cons next texts =>
      have hnone (behind : List Char) : afterSequence? ('\n' :: behind) = none := by
        simp [afterSequence?]
      rw [List.intercalate_cons_cons, List.append_assoc, List.singleton_append,
        stripped_append text (beginsAnew_of_head '\n' rfl (by decide)), stripped_cons (hnone _), ih]
      simp

end Stripping

namespace Style

theorem isSequence_reset : IsSequence reset :=
  .mk ['0'] (by simp [isCode])

theorem isSequence_boldGreen : IsSequence boldGreen.start :=
  .mk ['1', ';', '3', '2'] (by simp [isCode])

theorem isSequence_dimmed : IsSequence dimmed.start :=
  .mk ['2'] (by simp [isCode])

variable {style : Style}

/-- To start a style anew behind a reset puts a sequence behind a sequence. -/
theorem stripped_resumed (h : IsSequence style.start) (front text back : List Char) :
    stripped (front ++ (style.resumed text ++ back)) = stripped (front ++ (text ++ back)) := by
  -- the text in front is arbitrary, since the characters that are no reset are passed over into it
  fun_induction style.resumed text generalizing front with
  | case1 text ih =>
    have hreset : '\x1b' :: '[' :: '0' :: 'm' :: text = reset ++ text := rfl
    rw [hreset]
    simp only [List.append_assoc]
    rw [stripped_append front (isSequence_reset.beginsAnew _),
      stripped_append front (isSequence_reset.beginsAnew _),
      stripped_sequence isSequence_reset, stripped_sequence isSequence_reset, stripped_sequence h]
    simpa using ih []
  | case2 c text _ ih => simpa using ih (front ++ [c])
  | case3 => rfl

/-- A style around a text that begins anew, with a text behind it that does so as well, comes to
the same as no style. -/
theorem stripped_paintIf (h : IsSequence style.start) (color : Bool) (front back : List Char)
    {text : String} (htext : BeginsAnew text.toList) (hback : BeginsAnew back) :
    stripped (front ++ ((style.paintIf color text).toList ++ back)) =
      stripped front ++ (stripped text.toList ++ stripped back) := by
  cases color with
  | false =>
    change stripped (front ++ (text.toList ++ back)) = _
    rw [stripped_append front (htext.append hback), stripped_append _ hback]
  | true =>
    change stripped (front ++ ((style.paint text).toList ++ back)) = _
    rw [paint, String.toList_ofList]
    simp only [List.append_assoc]
    rw [stripped_append front (h.beginsAnew _), stripped_sequence h]
    have hresumed := stripped_resumed h [] text.toList (reset ++ back)
    rw [List.nil_append, List.nil_append] at hresumed
    rw [hresumed, stripped_append _ (isSequence_reset.beginsAnew _),
      stripped_sequence isSequence_reset]

end Style

namespace Report

theorem beginsAnew_line (text : String) : BeginsAnew (line text).toList :=
  beginsAnew_of_head '\n' (by simp [line]) (by decide)

theorem beginsAnew_title (plan : Plan) (typeName : String) :
    BeginsAnew (plan.title typeName).toList :=
  beginsAnew_of_head 'G' (by simp [Plan.title, toString]) (by decide)

theorem stripped_assignment (color : Bool) (p : GeneratedParameter) :
    stripped (assignment color p).toList = stripped (assignment false p).toList := by
  have hequals : BeginsAnew "=".toList := beginsAnew_of_head '=' (by simp) (by decide)
  have hname : BeginsAnew (" ".toList ++ p.name.toList) :=
    beginsAnew_of_head ' ' (by simp) (by decide)
  have h (color : Bool) := Style.stripped_paintIf Style.isSequence_dimmed color
    ("\n    ".toList ++ (p.member.toList ++ " ".toList)) (" ".toList ++ p.name.toList) hequals hname
  simp only [assignment, line, String.toList_append, List.append_assoc] at h ⊢
  rw [h color, h false]

theorem stripped_delegateCall (color : Bool) (delegate : Constructor)
    (arguments : List DelegateArgument) :
    stripped (delegateCall color delegate arguments).toList =
      stripped (delegateCall false delegate arguments).toList := by
  unfold delegateCall
  extract_lets passed order call
  have hcall : BeginsAnew call.toList :=
    beginsAnew_of_head 't' (by simp [call, toString]) (by decide)
  have h (color : Bool) := Style.stripped_paintIf Style.isSequence_dimmed color "\n    ".toList
    [] hcall (by simp [BeginsAnew])
  simp only [line, String.toList_append, List.append_nil] at h ⊢
  rw [h color, h false]

theorem beginsAnew_body (color : Bool) (plan : Plan) :
    ∀ l ∈ body color plan, BeginsAnew l.toList := by
  intro l hl
  have hline : ∃ text, l = line text := by
    cases plan with
    | noParam => cases hl
    | fieldAssign parameters =>
      obtain ⟨p, -, rfl⟩ := List.mem_map.1 hl
      exact ⟨_, rfl⟩
    | delegateThenAssign delegate parameters arguments residual =>
      rcases List.mem_cons.1 hl with rfl | hl
      · exact ⟨_, rfl⟩
      · obtain ⟨p, -, rfl⟩ := List.mem_map.1 hl
        exact ⟨_, rfl⟩
  obtain ⟨text, rfl⟩ := hline
  exact beginsAnew_line text

theorem stripped_body (color : Bool) (plan : Plan) :
    ((body color plan).map fun l => stripped l.toList) =
      (body false plan).map fun l => stripped l.toList := by
  cases plan with
  | noParam => rfl
  | fieldAssign parameters => simp [body, stripped_assignment color]
  | delegateThenAssign delegate parameters arguments residual =>
    simp [body, stripped_assignment color, stripped_delegateCall color]

theorem stripped_planText (color : Bool) (typeName : String) (plan : Plan) :
    stripped (planText color typeName plan).toList =
      stripped (plan.title typeName).toList ++
        ((body false plan).map fun l => stripped l.toList).flatten := by
  obtain ⟨hbegins, hbody⟩ := @stripped_flatten ((body color plan).map String.toList)
    (by simpa using beginsAnew_body color plan)
  have h := Style.stripped_paintIf Style.isSequence_boldGreen color [] _
    (beginsAnew_title plan typeName) hbegins
  have hbodies := stripped_body color plan
  rw [planText, String.toList_join, List.flatMap_cons, List.flatMap_def]
  rw [List.nil_append, hbody, List.map_map] at h
  rw [h, stripped, List.nil_append]
  exact congrArg (_ ++ List.flatten ·) hbodies

theorem stripped_text (color : Bool) (r : Report) :
    stripped (r.text color).toList = stripped (r.text false).toList := by
  unfold text
  split
  · rfl
  · rw [String.toList_intercalate, String.toList_intercalate]
    change stripped (['\n'].intercalate _) = stripped (['\n'].intercalate _)
    rw [stripped_intercalate_newLine, stripped_intercalate_newLine]
    congr 1
    simp [stripped_planText]

end Report

section Plain

/-- The text holds no escape. -/
def IsPlain (text : String) : Prop :=
  '\x1b' ∉ text.toList

instance (text : String) : Decidable (IsPlain text) :=
  inferInstanceAs (Decidable (¬ _))

theorem stripped_of_isPlain {text : String} (h : IsPlain text) :
    stripped text.toList = text.toList := by
  unfold IsPlain at h
  generalize text.toList = chars at h ⊢
  induction chars with
  | nil => rw [stripped]
  | cons c rest ih =>
    obtain ⟨hc, hrest⟩ := not_or.1 (mt List.mem_cons.2 h)
    have hnone : afterSequence? (c :: rest) = none := by
      unfold afterSequence?
      split
      · rename_i hescape
        exact absurd (List.cons.inj hescape).1.symm hc
      · rfl
    rw [stripped_cons hnone, ih hrest]

@[simp] theorem isPlain_append {front back : String} :
    IsPlain (front ++ back) ↔ IsPlain front ∧ IsPlain back := by
  simp [IsPlain]

theorem isPlain_join {texts : List String} (h : ∀ text ∈ texts, IsPlain text) :
    IsPlain (String.join texts) := by
  simpa [IsPlain, String.toList_join] using h

theorem isPlain_intercalate {separator : String} {texts : List String}
    (hseparator : IsPlain separator) (h : ∀ text ∈ texts, IsPlain text) :
    IsPlain (separator.intercalate texts) := by
  induction texts with
  | nil => exact List.not_mem_nil
  | cons text texts ih =>
    obtain ⟨htext, hrest⟩ := List.forall_mem_cons.1 h
    cases texts with
    | nil => simpa using htext
    | cons next texts =>
      rw [String.intercalate_cons_cons, isPlain_append, isPlain_append]
      exact ⟨⟨htext, hseparator⟩, ih hrest⟩

theorem isPlain_number (n : UInt32) : IsPlain (toString n) := by
  change '\x1b' ∉ (n.toNat.repr).toList
  rw [Nat.toList_repr]
  intro hescape
  have hdigit := Nat.isDigit_of_mem_toDigits (by decide) (by decide) hescape
  cases hdigit

end Plain

/-- The strings that a plan shows in the text of a report. -/
def shownStrings : Plan → List String
  | .noParam => []
  | .fieldAssign parameters => parameters.flatMap fun p => [p.type, p.member, p.name]
  | .delegateThenAssign delegate parameters arguments residual =>
    parameters.map (·.type) ++ delegate.parameters.map (·.type) ++
      arguments.filterMap (·.parameter) ++ residual.flatMap fun p => [p.member, p.name]

namespace Report

def shown (r : Report) : List String :=
  r.typeName :: r.plans.flatMap shownStrings

theorem isPlain_title {plan : Plan} {typeName : String} (hname : IsPlain typeName)
    (hshown : ∀ s ∈ shownStrings plan, IsPlain s) : IsPlain (plan.title typeName) := by
  have htypes : ∀ type ∈ plan.parameters.map (·.type), IsPlain type := by
    intro type htype
    apply hshown
    cases plan with
    | noParam => exact htype
    | fieldAssign parameters =>
      obtain ⟨p, hp, rfl⟩ := List.mem_map.1 htype
      exact List.mem_flatMap.2 ⟨p, hp, by simp⟩
    | delegateThenAssign delegate parameters arguments residual =>
      simp only [shownStrings, List.mem_append]
      exact .inl (.inl (.inl htype))
  have hsignature : IsPlain (", ".intercalate (plan.parameters.map (·.type))) :=
    isPlain_intercalate (by decide) htypes
  have hkind : IsPlain (if plan.isDelegating then "delegating constructor" else "constructor") := by
    split <;> decide
  simp only [Plan.title, isPlain_append]
  and_intros
  all_goals first | assumption | decide

theorem isPlain_assignment {p : GeneratedParameter} (hmember : IsPlain p.member)
    (hname : IsPlain p.name) : IsPlain (assignment false p) := by
  simp [assignment, line, Style.paintIf, hmember, hname]
  decide

theorem isPlain_delegateCall {delegate : Constructor} {arguments : List DelegateArgument}
    (htypes : ∀ type ∈ delegate.parameters.map (·.type), IsPlain type)
    (hpassed : ∀ name ∈ arguments.filterMap (·.parameter), IsPlain name) :
    IsPlain (delegateCall false delegate arguments) := by
  have harguments : ∀ text ∈ arguments.map fun a => a.parameter.getD "default", IsPlain text := by
    intro text htext
    obtain ⟨a, ha, rfl⟩ := List.mem_map.1 htext
    cases hparameter : a.parameter with
    | none => decide
    | some name => exact hpassed name (List.mem_filterMap.2 ⟨a, ha, hparameter⟩)
  have hcall := @isPlain_intercalate ", " _ (by decide) harguments
  have hsignature : IsPlain delegate.signature := isPlain_intercalate (by decide) htypes
  have horder := isPlain_number delegate.declarationOrder
  simp only [delegateCall, line, Style.paintIf, Bool.false_eq_true, if_false, isPlain_append]
  and_intros
  all_goals first | assumption | decide

theorem isPlain_planText {plan : Plan} {typeName : String} (hname : IsPlain typeName)
    (hshown : ∀ s ∈ shownStrings plan, IsPlain s) : IsPlain (planText false typeName plan) := by
  apply isPlain_join
  rw [List.forall_mem_cons]
  refine ⟨isPlain_title hname hshown, ?_⟩
  intro l hl
  cases plan with
  | noParam => cases hl
  | fieldAssign parameters =>
    obtain ⟨p, hp, rfl⟩ := List.mem_map.1 hl
    exact isPlain_assignment (hshown _ (List.mem_flatMap.2 ⟨p, hp, by simp⟩))
      (hshown _ (List.mem_flatMap.2 ⟨p, hp, by simp⟩))
  | delegateThenAssign delegate parameters arguments residual =>
    simp only [shownStrings, List.forall_mem_append] at hshown
    obtain ⟨⟨⟨-, htypes⟩, hpassed⟩, hresidual⟩ := hshown
    rcases List.mem_cons.1 hl with rfl | hl
    · exact isPlain_delegateCall htypes hpassed
    · obtain ⟨p, hp, rfl⟩ := List.mem_map.1 hl
      exact isPlain_assignment (hresidual _ (List.mem_flatMap.2 ⟨p, hp, by simp⟩))
        (hresidual _ (List.mem_flatMap.2 ⟨p, hp, by simp⟩))

theorem isPlain_text {r : Report} (h : ∀ s ∈ r.shown, IsPlain s) : IsPlain (r.text false) := by
  obtain ⟨hname, hplans⟩ := List.forall_mem_cons.1 h
  unfold text
  split
  · simp only [isPlain_append]
    and_intros
    all_goals first | assumption | decide
  · apply isPlain_intercalate (by decide)
    intro text htext
    obtain ⟨plan, hplan, rfl⟩ := List.mem_map.1 htext
    exact isPlain_planText hname fun s hs => hplans s (List.mem_flatMap.2 ⟨plan, hplan, hs⟩)

/-- Without its sequences a report in colours is the same as one without colours. If no string that
it shows holds an escape, that is the report without colours as it stands. -/
theorem colours_strip_away (r : Report) :
    withoutSequences (r.text true) = withoutSequences (r.text false) ∧
      ((∀ s ∈ r.shown, IsPlain s) → withoutSequences (r.text true) = r.text false) := by
  have hsame : withoutSequences (r.text true) = withoutSequences (r.text false) :=
    congrArg String.ofList (stripped_text true r)
  refine ⟨hsame, ?_⟩
  intro hplain
  rw [hsame, withoutSequences, stripped_of_isPlain (isPlain_text hplain), String.ofList_toList]

/-- A report of a plan that leaves one argument of the delegate open. -/
def parcelReport : Report where
  typeName := "Parcel"
  plans := [
    .delegateThenAssign
      { declarationOrder := 7, parameters := [⟨"id", "int", none⟩, ⟨"flags", "long", none⟩],
        assignedMembers := ["Id"] }
      [⟨"id", "int", "Id"⟩, ⟨"weight", "double", "Weight"⟩]
      [⟨0, "id", some "Id", some "id"⟩, ⟨1, "flags", none, none⟩]
      [⟨"weight", "double", "Weight"⟩],
    .noParam]

theorem colours_strip_away_parcel :
    (∀ s ∈ parcelReport.shown, IsPlain s) ∧ parcelReport.text true ≠ parcelReport.text false ∧
      withoutSequences (parcelReport.text true) = parcelReport.text false := by
  have hplain : ∀ s ∈ parcelReport.shown, IsPlain s := by decide
  have hcoloured : parcelReport.text true ≠ parcelReport.text false := by decide +kernel
  exact ⟨hplain, hcoloured, (colours_strip_away parcelReport).2 hplain⟩

/-- A reset within a name ends the style of the title, which is then started anew behind it; what
is no whole sequence stays. -/
example : let r : Report := { typeName := "A\x1b[0mB\x1b[1", plans := [.noParam] }
    r.text true = "\x1b[1;32mGenerate constructor 'A\x1b[0m\x1b[1;32mB\x1b[1()'\x1b[0m" ∧
      withoutSequences (r.text true) = "Generate constructor 'AB\x1b[1()'" := by
  decide +kernel

end Report

end ConstructorPlanning.Command
