import Mathlib
import ConstructorPlanning.Command.Arguments
/-!
What a command line means. It is put together from groups of words, each of which gives a value, a
flag or some more logging in one of its spellings. The words are read one group after the other,
and what is read depends on what the groups give, not on how they are spelled or mixed.
-/
namespace ConstructorPlanning.Command

/-- A flag that is given once or not at all. -/
inductive Toggle where
  | noValidateSelection
  | noDelegation
  | noColor
  deriving DecidableEq, Repr

namespace Toggle

def flag : Toggle → Flag
  | noValidateSelection => .noValidateSelection
  | noDelegation => .noDelegation
  | noColor => .noColor

def name : Toggle → String
  | noValidateSelection => "no-validate-selection"
  | noDelegation => "no-delegation"
  | noColor => "no-color"

theorem name_spec (t : Toggle) : t.name ≠ "" ∧ '=' ∉ t.name.toList := by
  cases t <;> decide

theorem longSwitch_name (t : Toggle) : longSwitch? t.name = some (.flag t.flag) := by
  cases t <;> rfl

end Toggle

namespace Slot

def longName? : Slot → Option String
  | snapshot => none
  | typeName => some "type"
  | member => some "member"
  | format => some "format"
  | config => some "config"

def letter? : Slot → Option Char
  | typeName => some 't'
  | member => some 'm'
  | config => some 'c'
  | snapshot | format => none

theorem longName_spec {slot : Slot} {name : String} (h : slot.longName? = some name) :
    slot ≠ .snapshot ∧ name ≠ "" ∧ '=' ∉ name.toList := by
  cases slot <;> cases h <;> decide

theorem letter_spec {slot : Slot} {letter : Char} (h : slot.letter? = some letter) :
    slot ≠ .snapshot ∧ letter ≠ '-' := by
  cases slot <;> cases h <;> decide

theorem longSwitch_longName {slot : Slot} {name : String} (h : slot.longName? = some name) :
    longSwitch? name = some (.option slot) := by
  cases slot <;> cases h <;> rfl

theorem shortSwitch_letter {slot : Slot} {letter : Char} (h : slot.letter? = some letter) :
    shortSwitch? letter = some (.option slot) := by
  cases slot <;> cases h <;> rfl

end Slot

def OutputFormat.name : OutputFormat → String
  | text => "text"
  | json => "json"

theorem OutputFormat.name_injective : Function.Injective OutputFormat.name := by
  intro f g h
  cases f <;> cases g <;> simp_all [name]

/-- Something that a command line gives. -/
inductive Given where
  | value (slot : Slot) (text : String)
  | toggle (t : Toggle)
  | verbosity (times : Nat)
  deriving DecidableEq, Repr

/-- A word that is not taken for an option. -/
def IsPlainWord (word : String) : Prop :=
  word.toList.head? ≠ some '-'

instance (word : String) : Decidable (IsPlainWord word) :=
  inferInstanceAs (Decidable (_ ≠ _))

namespace Given

/-- The words in which something may be given. -/
inductive Spelled : Given → List String → Prop where
  | positional {path : String} (plain : IsPlainWord path) : Spelled (value .snapshot path) [path]
  | attached {slot : Slot} {name : String} (named : slot.longName? = some name) (text : String) :
    Spelled (value slot text) ["--" ++ name ++ "=" ++ text]
  | apart {slot : Slot} {name text : String} (named : slot.longName? = some name)
      (plain : IsPlainWord text) : Spelled (value slot text) ["--" ++ name, text]
  | letterAttached {slot : Slot} {letter : Char} (named : slot.letter? = some letter)
      (text : String) : Spelled (value slot text) ["-" ++ String.singleton letter ++ "=" ++ text]
  | letterJoined {slot : Slot} {letter : Char} {text : String} (named : slot.letter? = some letter)
      (nonempty : text ≠ "") (inside : text.toList.head? ≠ some '=') :
    Spelled (value slot text) ["-" ++ String.singleton letter ++ text]
  | letterApart {slot : Slot} {letter : Char} {text : String} (named : slot.letter? = some letter)
      (plain : IsPlainWord text) :
    Spelled (value slot text) ["-" ++ String.singleton letter, text]
  | flag (t : Toggle) : Spelled (toggle t) ["--" ++ t.name]
  | verbose : Spelled (verbosity 1) ["--verbose"]
  | letters (more : Nat) :
    Spelled (verbosity (more + 1)) [String.ofList ('-' :: List.replicate (more + 1) 'v')]

def text? (slot : Slot) : Given → Option String
  | value s text => if s = slot then some text else none
  | toggle _ | verbosity _ => none

def times : Given → Nat
  | verbosity times => times
  | value _ _ | toggle _ => 0

end Given

section Words

theorem ofString_plain {word : String} (h : IsPlainWord word) : Word.ofString word = .plain := by
  unfold IsPlainWord at h
  unfold Word.ofString
  -- every other form begins with a dash
  split
  case h_4 => rfl
  all_goals
    rename_i hword
    simp [hword] at h

theorem ofString_letters {word : String} {c : Char} {rest : List Char} (hc : c ≠ '-')
    (h : word.toList = '-' :: c :: rest) : Word.ofString word = .letters (c :: rest) := by
  unfold Word.ofString
  rw [h]
  split <;> simp_all

/-- The value that is attached to a long name by what stands behind the name. -/
def attachment : List Char → Option String
  | [] => none
  | _ :: value => some (String.ofList value)

/-- A long name ends at the first equals sign. -/
theorem ofString_dashes {word : String} {name back : List Char} (hname : name ≠ [])
    (hequals : '=' ∉ name) (hback : ∀ c ∈ back.head?, c = '=')
    (h : word.toList = '-' :: '-' :: (name ++ back)) :
    Word.ofString word = .long (String.ofList name) (attachment back) := by
  have hinside : ∀ c ∈ name, (c != '=') = true := by
    intro c hc
    simpa using ne_of_mem_of_not_mem hc hequals
  have htake : (name ++ back).takeWhile (· != '=') = name := by
    rw [List.takeWhile_append_of_pos hinside]
    cases back <;> simp_all
  have hdrop : (name ++ back).dropWhile (· != '=') = back := by
    rw [List.dropWhile_append_of_pos hinside]
    cases back <;> simp_all
  obtain ⟨c, cs, rfl⟩ := List.exists_cons_of_ne_nil hname
  rw [List.cons_append] at h htake hdrop
  simp only [Word.ofString, h, htake, hdrop]
  cases back <;> rfl

variable {name : String} (hname : name ≠ "") (hequals : '=' ∉ name.toList)
include hname hequals

theorem ofString_long : Word.ofString ("--" ++ name) = .long name none := by
  have hword : ("--" ++ name).toList = '-' :: '-' :: (name.toList ++ []) := by simp
  have hnonempty : name.toList ≠ [] := mt String.toList_eq_nil_iff.1 hname
  rw [ofString_dashes hnonempty hequals (by simp) hword, String.ofList_toList]
  rfl

theorem ofString_attached (text : String) :
    Word.ofString ("--" ++ name ++ "=" ++ text) = .long name (some text) := by
  have hword : ("--" ++ name ++ "=" ++ text).toList =
      '-' :: '-' :: (name.toList ++ '=' :: text.toList) := by
    simp
  have hnonempty : name.toList ≠ [] := mt String.toList_eq_nil_iff.1 hname
  rw [ofString_dashes hnonempty hequals (by simp) hword, String.ofList_toList, attachment,
    String.ofList_toList]

end Words

namespace Taken

def toggled (taken : Taken) : Toggle → Bool
  | .noValidateSelection => taken.noValidateSelection
  | .noDelegation => taken.noDelegation
  | .noColor => taken.noColor

def receive (taken : Taken) : Given → Taken
  | .value .snapshot path => { taken with snapshot := some path }
  | .value .typeName name => { taken with typeName := some name }
  | .value .member name => { taken with members := taken.members ++ [name] }
  | .value .format name => { taken with format := format? name }
  | .value .config path => { taken with config := some path }
  | .toggle .noValidateSelection => { taken with noValidateSelection := true }
  | .toggle .noDelegation => { taken with noDelegation := true }
  | .toggle .noColor => { taken with noColor := true }
  | .verbosity times => { taken with verbose := min (taken.verbose + times) 255 }

/-- There is room for something more: it is no second value or flag of its kind, and no wrong value.
-/
inductive Room (taken : Taken) : Given → Prop where
  | snapshot {path : String} (new : taken.snapshot = none) (nonempty : path ≠ "") :
    Room taken (.value .snapshot path)
  | typeName (name : String) (new : taken.typeName = none) : Room taken (.value .typeName name)
  | member (name : String) : Room taken (.value .member name)
  | format (f : OutputFormat) (new : taken.format = none) : Room taken (.value .format f.name)
  | config {path : String} (new : taken.config = none) (nonempty : path ≠ "") :
    Room taken (.value .config path)
  | toggle {t : Toggle} (new : taken.toggled t = false) : Room taken (.toggle t)
  | verbosity (times : Nat) : Room taken (.verbosity times)

theorem toggled_receive (taken : Taken) (t t' : Toggle) :
    (taken.receive (.toggle t)).toggled t' = (taken.toggled t' || t = t') := by
  cases t <;> cases t' <;> simp [receive, toggled]

theorem snapshot_receive {taken : Taken} {slot : Slot} {text : String} (h : slot ≠ .snapshot) :
    (taken.receive (.value slot text)).snapshot = taken.snapshot := by
  cases slot with
  | snapshot => exact absurd rfl h
  | _ => rfl

namespace Room

variable {taken : Taken}

theorem value {slot : Slot} {text : String} (h : taken.Room (.value slot text)) :
    taken.value text slot = .ok (taken.receive (.value slot text)) := by
  cases h with
  | snapshot new nonempty => simp [Taken.value, receive, nonempty]
  | typeName name new => simp [Taken.value, receive, new]
  | member name => rfl
  | format f new => cases f <;> simp [Taken.value, receive, new, format?, OutputFormat.name]
  | config new nonempty => simp [Taken.value, receive, new, nonempty]

theorem flag {t : Toggle} (h : taken.Room (.toggle t)) :
    taken.flag t.flag = .ok (taken.receive (.toggle t)) := by
  cases h with
  | toggle new => cases t <;> simp_all [Taken.flag, Toggle.flag, receive, toggled]

end Room

end Taken

namespace Progress

variable (p : Progress) {slot : Slot}

theorem long_option {name : String} (h : longSwitch? name = some (.option slot)) :
    p.long name none = p.begin slot ∧ ∀ text, p.long name (some text) = p.attach slot text := by
  simp [long, h]

theorem long_flag {name : String} {f : Flag} (h : longSwitch? name = some (.flag f)) :
    p.long name none = p.flag f := by
  simp [long, h]

theorem letters_option {letter : Char} (h : shortSwitch? letter = some (.option slot)) :
    p.letters [letter] = p.begin slot ∧
      ∀ rest, rest ≠ [] → p.letters (letter :: rest) = p.attach slot (attachedValue rest) := by
  constructor
  · simp [letters, h]
  · intro rest hrest
    simp [letters, h, hrest]

theorem attachedValue_joined {text : String} (h : text.toList.head? ≠ some '=') :
    attachedValue text.toList = text := by
  unfold attachedValue
  split
  · rename_i htext
    simp [htext] at h
  · exact String.ofList_toList

end Progress

/-- What was read so far amounts to what is taken in, with the value begun last checked or not. -/
inductive Progress.Stands : Progress → Taken → Prop where
  | settled (taken : Taken) : Stands { taken, hasSnapshot := taken.snapshot.isSome } taken
  | pending {taken next : Taken} {slot : Slot} {text : String}
      (value : taken.value text slot = .ok next) :
    Stands
      { taken, pending := some (slot, some text), hasSnapshot := next.snapshot.isSome } next

namespace Progress.Stands

variable {p : Progress} {taken : Taken}

theorem settle (h : p.Stands taken) :
    p.settle = .ok { taken, hasSnapshot := taken.snapshot.isSome } := by
  cases h with
  | settled => rfl
  | pending value =>
    simp only [Progress.settle, value]
    rfl

theorem hasSnapshot (h : p.Stands taken) : p.hasSnapshot = taken.snapshot.isSome := by
  cases h <;> rfl

/-- No option waits for its value, so that a plain word is the snapshot. -/
theorem word_plain (h : p.Stands taken) {word : String} (plain : IsPlainWord word) :
    p.word word = p.positional word := by
  cases h <;> simp [Progress.word, ofString_plain plain, Progress.plain]

theorem word_long (h : p.Stands taken) {word name : String} {attached : Option String}
    (form : Word.ofString word = .long name attached) : p.word word = p.long name attached := by
  cases h <;> simp [Progress.word, form]

theorem word_letters (h : p.Stands taken) {word : String} {letters : List Char}
    (form : Word.ofString word = .letters letters) : p.word word = p.letters letters := by
  cases h <;> simp [Progress.word, form]

/-- An option comes with its value in one word. -/
theorem attach (h : p.Stands taken) {slot : Slot} {text : String} (hslot : slot ≠ .snapshot)
    (hroom : taken.Room (.value slot text)) :
    ∃ q, p.attach slot text = .ok q ∧ q.Stands (taken.receive (.value slot text)) := by
  refine ⟨_, ?_, .settled _⟩
  rw [Progress.attach, h.settle, Taken.snapshot_receive hslot]
  change (do let taken ← taken.value text slot; pure _) = _
  rw [hroom.value]
  rfl

/-- An option comes in one word and its value in the next. -/
theorem await (h : p.Stands taken) {slot : Slot} {word text : String} (hslot : slot ≠ .snapshot)
    (hroom : taken.Room (.value slot text)) (plain : IsPlainWord text)
    (hword : p.word word = p.begin slot) :
    ∃ q, [word, text].foldlM Progress.word p = .ok q ∧
      q.Stands (taken.receive (.value slot text)) := by
  refine ⟨_, ?_, .pending hroom.value⟩
  rw [Taken.snapshot_receive hslot, List.foldlM_cons, hword, Progress.begin, h.settle]
  change ([text].foldlM Progress.word _ : Except UsageFault Progress) = _
  rw [List.foldlM_cons, Progress.word, ofString_plain plain]
  rfl

theorem positional (h : p.Stands taken) {path : String}
    (hroom : taken.Room (.value .snapshot path)) :
    ∃ q, p.positional path = .ok q ∧ q.Stands (taken.receive (.value .snapshot path)) := by
  refine ⟨_, ?_, .pending hroom.value⟩
  cases hroom with
  | snapshot new nonempty =>
    have hnew : p.hasSnapshot = false := by
      rw [h.hasSnapshot, new]
      rfl
    rw [Progress.positional, hnew, if_neg Bool.false_ne_true, h.settle]
    rfl

theorem flag (h : p.Stands taken) {f : Flag} {g : Given}
    (hflag : taken.flag f = .ok (taken.receive g))
    (hsame : (taken.receive g).snapshot = taken.snapshot) :
    ∃ q, p.flag f = .ok q ∧ q.Stands (taken.receive g) := by
  refine ⟨_, ?_, .settled _⟩
  rw [Progress.flag, h.settle, hsame]
  change (do let taken ← taken.flag f; pure _) = _
  rw [hflag]
  rfl

/-- Some letters in a row ask for as much more logging. -/
theorem letters (h : p.Stands taken) (more : Nat) :
    ∃ q, p.letters (List.replicate (more + 1) 'v') = .ok q ∧
      q.Stands (taken.receive (.verbosity (more + 1))) := by
  -- the count is capped after every letter, which comes to the same as capping the sum
  induction more generalizing p taken with
  | zero =>
    obtain ⟨q, hq, hstands⟩ := @flag p taken h .verbose (.verbosity 1) rfl rfl
    refine ⟨q, ?_, hstands⟩
    change (do let p ← p.flag .verbose; p.letters []) = _
    rw [hq]
    rfl
  | succ more ih =>
    obtain ⟨q, hq, hstands⟩ := @flag p taken h .verbose (.verbosity 1) rfl rfl
    obtain ⟨r, hr, hstands⟩ := ih hstands
    have hsum : (taken.receive (.verbosity 1)).receive (.verbosity (more + 1)) =
        taken.receive (.verbosity (more + 1 + 1)) := by
      simp only [Taken.receive]
      congr 1
      omega
    refine ⟨r, ?_, hsum ▸ hstands⟩
    change (do let p ← p.flag .verbose; p.letters (List.replicate (more + 1) 'v')) = _
    rw [hq]
    exact hr

end Progress.Stands

/-- However something is given, it is read if there is room for it. -/
theorem Given.Spelled.read {g : Given} {words : List String} (h : g.Spelled words) {p : Progress}
    {taken : Taken} (hp : p.Stands taken) (hroom : taken.Room g) :
    ∃ q, words.foldlM Progress.word p = .ok q ∧ q.Stands (taken.receive g) := by
  have hsingle {word : String} (hword : ∃ q, p.word word = .ok q ∧ q.Stands (taken.receive g)) :
      ∃ q, [word].foldlM Progress.word p = .ok q ∧ q.Stands (taken.receive g) := by
    rw [List.foldlM_cons]
    simpa using hword
  cases h with
  | positional plain =>
    apply hsingle
    rw [hp.word_plain plain]
    exact hp.positional hroom
  | @attached slot name named text =>
    obtain ⟨hslot, hname, hequals⟩ := Slot.longName_spec named
    apply hsingle
    rw [hp.word_long (ofString_attached hname hequals text),
      (p.long_option (Slot.longSwitch_longName named)).2]
    exact hp.attach hslot hroom
  | apart named plain =>
    obtain ⟨hslot, hname, hequals⟩ := Slot.longName_spec named
    apply hp.await hslot hroom plain
    rw [hp.word_long (ofString_long hname hequals),
      (p.long_option (Slot.longSwitch_longName named)).1]
  -- a letter looks at what stands behind it in its own word before it waits for another
  | @letterAttached slot letter named text =>
    obtain ⟨hslot, hletter⟩ := Slot.letter_spec named
    have hform : Word.ofString ("-" ++ String.singleton letter ++ "=" ++ text) =
        .letters (letter :: '=' :: text.toList) := ofString_letters hletter (by simp)
    have hvalue : Progress.attachedValue ('=' :: text.toList) = text := String.ofList_toList
    apply hsingle
    rw [hp.word_letters hform,
      (p.letters_option (Slot.shortSwitch_letter named)).2 _ (List.cons_ne_nil _ _), hvalue]
    exact hp.attach hslot hroom
  | @letterJoined slot letter text named nonempty inside =>
    obtain ⟨hslot, hletter⟩ := Slot.letter_spec named
    have hform : Word.ofString ("-" ++ String.singleton letter ++ text) =
        .letters (letter :: text.toList) := ofString_letters hletter (by simp)
    apply hsingle
    rw [hp.word_letters hform,
      (p.letters_option (Slot.shortSwitch_letter named)).2 _
        (mt String.toList_eq_nil_iff.1 nonempty), Progress.attachedValue_joined inside]
    exact hp.attach hslot hroom
  | @letterApart slot letter text named plain =>
    obtain ⟨hslot, hletter⟩ := Slot.letter_spec named
    have hform : Word.ofString ("-" ++ String.singleton letter) = .letters [letter] :=
      ofString_letters hletter (by simp)
    apply hp.await hslot hroom plain
    rw [hp.word_letters hform, (p.letters_option (Slot.shortSwitch_letter named)).1]
  | flag t =>
    obtain ⟨hname, hequals⟩ := t.name_spec
    apply hsingle
    rw [hp.word_long (ofString_long hname hequals), p.long_flag t.longSwitch_name]
    refine hp.flag hroom.flag ?_
    cases t <;> rfl
  | verbose =>
    have hform : Word.ofString "--verbose" = .long "verbose" none := by decide
    apply hsingle
    rw [hp.word_long hform, @Progress.long_flag p "verbose" .verbose rfl]
    exact hp.flag rfl rfl
  | letters more =>
    apply hsingle
    rw [List.replicate_succ, hp.word_letters (ofString_letters (by decide) String.toList_ofList)]
    exact hp.letters more

/-- Taking in the groups turns one state of what was taken in into another. -/
structure Reaches (groups : List Given) (taken final : Taken) : Prop where
  snapshot : taken.snapshot.toList ++ groups.filterMap (Given.text? .snapshot) =
    final.snapshot.toList
  typeName : taken.typeName.toList ++ groups.filterMap (Given.text? .typeName) =
    final.typeName.toList
  members : taken.members ++ groups.filterMap (Given.text? .member) = final.members
  format : (taken.format.map OutputFormat.name).toList ++
    groups.filterMap (Given.text? .format) = (final.format.map OutputFormat.name).toList
  config : taken.config.toList ++ groups.filterMap (Given.text? .config) = final.config.toList
  toggles : ∀ t, (taken.toggled t).toNat + groups.count (.toggle t) = (final.toggled t).toNat
  verbose : min (taken.verbose + (groups.map Given.times).sum) 255 = final.verbose
  verbose_le : taken.verbose ≤ 255
  snapshot_nonempty : final.snapshot ≠ some ""
  config_nonempty : final.config ≠ some ""

namespace Reaches

variable {taken final : Taken} {g : Given} {groups : List Given}

theorem eq_none_of_toList_append {α : Type} {old new : Option α} {a : α} {rest : List α}
    (h : old.toList ++ a :: rest = new.toList) : old = none ∧ rest = [] ∧ new = some a := by
  cases old <;> cases new <;> simp_all

theorem eq_of_toList_append {α : Type} {old new : Option α} (h : old.toList ++ [] = new.toList) :
    old = new := by
  cases old <;> cases new <;> simp_all

/-- A flag that is given leaves no room for the same one again. -/
theorem toggles_of_cons {t : Toggle}
    (h : ∀ t', (taken.toggled t').toNat + (.toggle t :: groups).count (.toggle t') =
      (final.toggled t').toNat) :
    taken.toggled t = false ∧ ∀ t', ((taken.receive (.toggle t)).toggled t').toNat +
      groups.count (.toggle t') = (final.toggled t').toNat := by
  have hown := h t
  rw [List.count_cons_self] at hown
  have hnew : taken.toggled t = false := by
    have hle : (final.toggled t).toNat ≤ 1 := Bool.toNat_le _
    rw [← Bool.toNat_eq_zero]
    omega
  refine ⟨hnew, ?_⟩
  intro t'
  rw [Taken.toggled_receive]
  by_cases hsame : t = t'
  · subst hsame
    rw [hnew] at hown
    rw [decide_eq_true rfl, Bool.or_true, ← hown, Bool.toNat_true, Bool.toNat_false]
    omega
  · have hother : (Given.toggle t == .toggle t') = false := by simpa using hsame
    have hcount := h t'
    rw [List.count_cons, hother] at hcount
    simpa [hsame] using hcount

theorem eq_of_nil (h : Reaches [] taken final) : taken = final := by
  have hformat : taken.format = final.format :=
    Option.map_injective OutputFormat.name_injective (eq_of_toList_append h.format)
  have htoggles (t : Toggle) : taken.toggled t = final.toggled t := by
    have ht := h.toggles t
    rw [List.count_nil, Nat.add_zero] at ht
    cases hold : taken.toggled t <;> cases hnew : final.toggled t <;> simp_all
  have hverbose : taken.verbose = final.verbose := by
    rw [← h.verbose]
    exact (Nat.min_eq_left h.verbose_le).symm
  have hmembers : taken.members = final.members := by
    rw [← h.members]
    exact (List.append_nil _).symm
  cases taken
  cases final
  congr 1
  · exact eq_of_toList_append h.snapshot
  · exact eq_of_toList_append h.typeName
  · exact eq_of_toList_append h.config
  · exact htoggles .noValidateSelection
  · exact htoggles .noDelegation
  · exact htoggles .noColor

theorem step (h : Reaches (g :: groups) taken final) :
    taken.Room g ∧ Reaches groups (taken.receive g) final := by
  cases g with
  | value slot text =>
    have htoggles : ∀ t, (taken.toggled t).toNat + groups.count (.toggle t) =
        (final.toggled t).toNat := by
      simpa using h.toggles
    have hverbose : min (taken.verbose + (groups.map Given.times).sum) 255 = final.verbose := by
      simpa [Given.times] using h.verbose
    cases slot with
    | snapshot =>
      obtain ⟨hnone, hrest, hfinal⟩ := eq_none_of_toList_append h.snapshot
      refine ⟨.snapshot hnone ?_,
        { h with snapshot := ?_, toggles := htoggles, verbose := hverbose }⟩
      · rintro rfl
        exact h.snapshot_nonempty hfinal
      · rw [hrest, hfinal]
        rfl
    | typeName =>
      obtain ⟨hnone, hrest, hfinal⟩ := eq_none_of_toList_append h.typeName
      refine ⟨.typeName text hnone,
        { h with typeName := ?_, toggles := htoggles, verbose := hverbose }⟩
      rw [hrest, hfinal]
      rfl
    | member =>
      refine ⟨.member text, { h with members := ?_, toggles := htoggles, verbose := hverbose }⟩
      rw [← h.members]
      exact List.append_assoc _ _ _
    | format =>
      obtain ⟨hnone, hrest, hfinal⟩ := eq_none_of_toList_append h.format
      obtain ⟨f, hf, rfl⟩ := Option.map_eq_some_iff.1 hfinal
      refine ⟨.format f (Option.map_eq_none_iff.1 hnone),
        { h with format := ?_, toggles := htoggles, verbose := hverbose }⟩
      rw [hrest, hf]
      cases f <;> rfl
    | config =>
      obtain ⟨hnone, hrest, hfinal⟩ := eq_none_of_toList_append h.config
      refine ⟨.config hnone ?_,
        { h with config := ?_, toggles := htoggles, verbose := hverbose }⟩
      · rintro rfl
        exact h.config_nonempty hfinal
      · rw [hrest, hfinal]
        rfl
  | toggle t =>
    have hverbose : min (taken.verbose + (groups.map Given.times).sum) 255 = final.verbose := by
      simpa [Given.times] using h.verbose
    obtain ⟨hnew, htoggles⟩ := toggles_of_cons h.toggles
    cases t <;> exact ⟨.toggle hnew, { h with toggles := htoggles, verbose := hverbose }⟩
  | verbosity times =>
    have htoggles : ∀ t, (taken.toggled t).toNat + groups.count (.toggle t) =
        (final.toggled t).toNat := by
      simpa using h.toggles
    have hverbose := h.verbose
    rw [List.map_cons, List.sum_cons, Given.times] at hverbose
    refine ⟨.verbosity times, { h with toggles := htoggles, verbose := ?_, verbose_le := ?_ }⟩
    · simp only [Taken.receive]
      omega
    · exact Nat.min_le_right _ _

/-- A command line is read group after group. -/
theorem read {pieces : List (List String)} (hpieces : List.Forall₂ Given.Spelled groups pieces)
    (h : Reaches groups taken final) {p : Progress} (hp : p.Stands taken) :
    ∃ q, pieces.flatten.foldlM Progress.word p = .ok q ∧ q.Stands final := by
  induction hpieces generalizing p taken with
  | nil =>
    obtain rfl := h.eq_of_nil
    exact ⟨p, rfl, hp⟩
  | cons hspelled _ ih =>
    obtain ⟨hroom, hrest⟩ := h.step
    obtain ⟨q, hq, hstands⟩ := hspelled.read hp hroom
    obtain ⟨r, hr, hfinal⟩ := ih hrest hstands
    refine ⟨r, ?_, hfinal⟩
    rw [List.flatten_cons, List.foldlM_append, hq]
    exact hr

end Reaches

structure Intent where
  snapshot : String
  typeName : String
  members : List String := []
  format : Option OutputFormat := none
  config : Option String := none
  toggles : Toggle → Bool
  /-- How often more logging is asked for. -/
  verbosity : Nat := 0
  snapshot_nonempty : snapshot ≠ ""
  config_nonempty : config ≠ some ""

namespace Intent

/-- The arguments that are meant: text where no format is given, and at most 255 times more logging.
-/
def arguments (i : Intent) : Arguments where
  snapshot := i.snapshot
  typeName := i.typeName
  members := i.members
  format := i.format.getD .text
  config := i.config
  noValidateSelection := i.toggles .noValidateSelection
  noDelegation := i.toggles .noDelegation
  noColor := i.toggles .noColor
  verbose := min i.verbosity 255

/-- The groups give what is meant, each single value and flag once and the members in order;
otherwise they stand in any order. -/
structure Conveyed (i : Intent) (groups : List Given) : Prop where
  snapshot : groups.filterMap (Given.text? .snapshot) = [i.snapshot]
  typeName : groups.filterMap (Given.text? .typeName) = [i.typeName]
  members : groups.filterMap (Given.text? .member) = i.members
  format : groups.filterMap (Given.text? .format) = (i.format.map OutputFormat.name).toList
  config : groups.filterMap (Given.text? .config) = i.config.toList
  toggles : ∀ t, groups.count (.toggle t) = (i.toggles t).toNat
  verbosity : (groups.map Given.times).sum = i.verbosity

def taken (i : Intent) : Taken where
  snapshot := some i.snapshot
  typeName := some i.typeName
  members := i.members
  format := i.format
  config := i.config
  noValidateSelection := i.toggles .noValidateSelection
  noDelegation := i.toggles .noDelegation
  noColor := i.toggles .noColor
  verbose := min i.verbosity 255

theorem Conveyed.reaches {i : Intent} {groups : List Given} (h : i.Conveyed groups) :
    Reaches groups {} i.taken where
  snapshot := h.snapshot
  typeName := h.typeName
  members := h.members
  format := h.format
  config := h.config
  toggles := by
    intro t
    rw [h.toggles t]
    cases t <;> exact Nat.zero_add _
  verbose := by
    rw [h.verbosity, Nat.zero_add]
    rfl
  verbose_le := Nat.zero_le _
  snapshot_nonempty := by simpa [taken] using i.snapshot_nonempty
  config_nonempty := i.config_nonempty

/-- A command line says what it is meant to say, in whatever order and spelling its groups come. -/
theorem read_in_any_order (i : Intent) {groups : List Given} {pieces : List (List String)}
    (hconveyed : i.Conveyed groups) (hspelled : List.Forall₂ Given.Spelled groups pieces) :
    Arguments.ofWords pieces.flatten = .ok i.arguments := by
  have hinitial : Progress.Stands {} {} := .settled {}
  obtain ⟨p, hread, hstands⟩ := hconveyed.reaches.read hspelled hinitial
  unfold Arguments.ofWords
  rw [hread]
  change (do let p ← p.settle; p.taken.complete) = _
  rw [hstands.settle]
  rfl

/-- The members of a person, named before the file that describes the type. -/
def personIntent : Intent where
  snapshot := "types.json"
  typeName := "Person"
  members := ["Age", "-Name"]
  toggles := fun t => t = .noColor
  verbosity := 3
  snapshot_nonempty := by decide
  config_nonempty := by decide

def personGroups : List Given :=
  [.value .member "Age", .verbosity 2, .value .snapshot "types.json", .toggle .noColor,
    .value .typeName "Person", .value .member "-Name", .verbosity 1]

theorem read_in_any_order_person :
    Arguments.ofWords ["-m", "Age", "-vv", "types.json", "--no-color", "--type=Person",
      "--member=-Name", "--verbose"] = .ok personIntent.arguments := by
  have hconveyed : personIntent.Conveyed personGroups := by
    constructor
    case toggles =>
      intro t
      cases t <;> rfl
    all_goals rfl
  have hspelled : List.Forall₂ Given.Spelled personGroups
      [["-m", "Age"], ["-vv"], ["types.json"], ["--no-color"], ["--type=Person"],
        ["--member=-Name"], ["--verbose"]] := by
    have hage : Given.Spelled (.value .member "Age") ["-m", "Age"] :=
      @Given.Spelled.letterApart .member 'm' "Age" rfl (by decide)
    have htype : Given.Spelled (.value .typeName "Person") ["--type=Person"] :=
      @Given.Spelled.attached .typeName "type" rfl "Person"
    have hname : Given.Spelled (.value .member "-Name") ["--member=-Name"] :=
      @Given.Spelled.attached .member "member" rfl "-Name"
    refine .cons hage (.cons (.letters 1) (.cons (.positional ?_) ?_))
    · decide
    · exact .cons (.flag .noColor) (.cons htype (.cons hname (.cons .verbose .nil)))
  exact read_in_any_order personIntent hconveyed hspelled

end Intent

end ConstructorPlanning.Command
