import ConstructorPlanning.Main
/-!
What messages show. A quoted text holds nothing that a reader could not see, and no message drops
what its fault holds: each text of a refusal and of a fault in a text stands in its wording, and
each text of a failed run in what is printed of it.
-/
namespace ConstructorPlanning

namespace Text

theorem isLegible_toDigits {n : Nat} {c : Char} (h : c ∈ Nat.toDigits 16 n) : isLegible c := by
  induction n using Nat.strongRecOn with
  | ind n ih =>
    have hdigit : ∀ d < 16, isLegible (Nat.digitChar d) := by decide
    by_cases hsmall : n < 16
    · rw [Nat.toDigits_of_lt_base hsmall, List.mem_singleton] at h
      rw [h]
      exact hdigit n hsmall
    · rw [Nat.toDigits_of_base_le (by decide) (Nat.le_of_not_lt hsmall), List.mem_append] at h
      rcases h with h | h
      · exact ih (n / 16) (by omega) h
      · rw [List.mem_singleton.1 h]
        exact hdigit (n % 16) (Nat.mod_lt n (by decide))

theorem isLegible_codeEscape (code : Nat) : (codeEscape code).all isLegible := by
  have hdigits : (Nat.toDigits 16 code).all isLegible :=
    List.all_eq_true.2 fun _ => isLegible_toDigits
  simp only [codeEscape, List.all_append, hdigits]
  decide

theorem isLegible_escaped (c : Char) : (escaped c).all isLegible := by
  unfold escaped
  split
  any_goals decide
  split
  · rename_i hlegible
    simpa using hlegible
  · exact isLegible_codeEscape c.toNat

/-- All that stands in a quoted text can be seen. -/
theorem isLegible_quoted (text : String) : (quoted text).toList.all isLegible := by
  have hquote : isLegible '"' := by decide
  simp only [quoted, String.toList_ofList, List.all_append, List.all_cons, List.all_flatMap,
    isLegible_escaped, hquote]
  simp

end Text

/-- The text stands somewhere in the message. -/
def Shows (message text : String) : Prop :=
  text.toList <:+: message.toList

namespace Shows

variable {message text : String}

theorem refl (text : String) : Shows text text :=
  List.infix_rfl

theorem trans {line : String} (h : Shows message line) (hline : Shows line text) :
    Shows message text :=
  List.IsInfix.trans hline h

theorem before (h : Shows message text) (rest : String) : Shows (message ++ rest) text := by
  rw [Shows, String.toList_append]
  exact List.IsInfix.trans h (List.prefix_append _ _).isInfix

theorem behind (h : Shows message text) (front : String) : Shows (front ++ message) text := by
  rw [Shows, String.toList_append]
  exact List.IsInfix.trans h (List.suffix_append _ _).isInfix

theorem between (front text rest : String) : Shows (front ++ text ++ rest) text :=
  ((refl text).behind front).before rest

theorem first (front text middle last : String) : Shows (front ++ text ++ middle ++ last) text :=
  (between front text middle).before last

theorem last (front last : String) : Shows (front ++ last) last :=
  (refl last).behind front

theorem inHead {line : String} {lines : List String} (h : Shows line text) :
    ∃ shown ∈ line :: lines, Shows shown text :=
  ⟨line, List.mem_cons_self, h⟩

theorem intercalate {separator : String} {texts : List String} (h : text ∈ texts) :
    Shows (separator.intercalate texts) text := by
  induction texts with
  | nil => cases h
  | cons other texts ih =>
    cases texts with
    | nil =>
      rw [String.intercalate_singleton, List.mem_singleton.1 h]
      exact refl other
    | cons next texts =>
      rw [String.intercalate_cons_cons]
      rcases List.mem_cons.1 h with rfl | h
      · exact ((refl text).before separator).before _
      · exact (ih h).behind _

end Shows

def Refusal.texts : Refusal → List String
  | invalidTarget typeName fault => [typeName, fault.message]
  | nothingToGenerate typeName cause => [typeName, cause.message]
  | invalidSelection member issue => [member, issue.message]
  | unknownType name => [name]
  | cancelled => []

theorem Refusal.shows_texts (reason : Refusal) :
    ∀ text ∈ reason.texts, Shows reason.message text := by
  cases reason with
  | invalidTarget typeName fault =>
    exact List.forall_mem_cons.2 ⟨.first .., List.forall_mem_singleton.2 (.last ..)⟩
  | nothingToGenerate typeName cause =>
    exact List.forall_mem_cons.2 ⟨.first .., List.forall_mem_singleton.2 (.last ..)⟩
  | invalidSelection member issue =>
    exact List.forall_mem_cons.2 ⟨.first .., List.forall_mem_singleton.2 (.last ..)⟩
  | unknownType name => exact List.forall_mem_singleton.2 (.between ..)
  | cancelled => exact List.forall_mem_nil _

namespace Json.Fault

def texts : Fault → List String
  | malformed | surplusItems .. => []
  | missingField name | duplicateField name => [name]
  | unknownField name expected | unknownVariant name expected => name :: expected
  | invalidType found expected | invalidValue found expected => [found.message, expected]
  | invalidLength length expected => [toString length, expected]

theorem shows_nameList {names : List String} {name : String} (h : name ∈ names) :
    Shows (nameList names) name :=
  (Shows.intercalate (List.mem_map_of_mem h)).trans (.between ..)

theorem shows_choice {names : List String} {name : String} (h : name ∈ names) :
    Shows (choice names) name := by
  unfold choice
  split
  · cases h
  · rw [List.mem_singleton.1 h]
    exact .between ..
  · rename_i first second
    rcases List.mem_cons.1 h with rfl | h
    · exact (Shows.first ..).before _
    · rw [List.mem_singleton.1 h]
      exact (Shows.last ..).before _
  · exact (shows_nameList h).behind _

theorem shows_texts (fault : Fault) : ∀ text ∈ fault.texts, Shows fault.chainText text := by
  cases fault with
  | malformed | surplusItems => exact List.forall_mem_nil _
  | missingField name | duplicateField name => exact List.forall_mem_singleton.2 (.between ..)
  | unknownField name expected | unknownVariant name expected =>
    exact List.forall_mem_cons.2 ⟨.first .., fun _ h => (shows_choice h).behind _⟩
  | invalidType found expected | invalidValue found expected =>
    exact List.forall_mem_cons.2 ⟨.first .., List.forall_mem_singleton.2 (.last ..)⟩
  | invalidLength length expected =>
    exact List.forall_mem_cons.2 ⟨.first .., List.forall_mem_singleton.2 (.last ..)⟩

end Json.Fault

namespace Command

def RunFault.texts : RunFault → List String
  | configNotFound path => [path]
  | configUnreadable path fault | snapshotUnreadable path fault => [path, fault.message]
  | configMalformed path fault | snapshotMalformed path fault => path :: fault.texts
  | typeNotFound name path available => name :: path :: available
  | invalidMembers typeName reason => typeName :: reason.texts
  | refused reason => reason.texts

/-- The names of the types at hand, or a word that there are none. -/
theorem shows_available {available : List String} {name : String} (h : name ∈ available) :
    Shows (if (", ".intercalate available).isEmpty then "none" else ", ".intercalate available)
      name := by
  have hshown : Shows (", ".intercalate available) name := .intercalate h
  split
  · rename_i hempty
    rw [String.isEmpty_iff.1 hempty, Shows, String.toList_empty, List.infix_nil] at hshown
    rw [Shows, hshown]
    exact List.nil_infix
  · exact hshown

theorem RunFault.shows_texts (fault : RunFault) :
    ∀ text ∈ fault.texts, ∃ line ∈ fault.chain, Shows line text := by
  cases fault with
  | configNotFound path =>
    exact List.forall_mem_singleton.2 ((Shows.last ..).inHead)
  | configUnreadable path fault | snapshotUnreadable path fault =>
    refine List.forall_mem_cons.2 ⟨(Shows.last ..).inHead, ?_⟩
    refine List.forall_mem_singleton.2 ⟨fault.message, ?_, .refl _⟩
    exact List.mem_cons_of_mem _ List.mem_cons_self
  | configMalformed path fault =>
    refine List.forall_mem_cons.2 ⟨(Shows.last ..).inHead, fun text h => ?_⟩
    exact ⟨fault.chainText, by simp [chain, configChain], fault.shows_texts text h⟩
  | snapshotMalformed path fault =>
    refine List.forall_mem_cons.2 ⟨(Shows.last ..).inHead, fun text h => ?_⟩
    exact ⟨fault.chainText, by simp [chain], fault.shows_texts text h⟩
  | typeNotFound name path available =>
    refine List.forall_mem_cons.2 ⟨?_, List.forall_mem_cons.2 ⟨?_, fun text h => ?_⟩⟩
    · exact ((((Shows.first ..).before _).before _).before _).inHead
    · exact (((Shows.between ..).before _).before _).inHead
    · exact (((shows_available h).behind _).before _).inHead
  | invalidMembers typeName reason =>
    refine List.forall_mem_cons.2 ⟨(Shows.between ..).inHead, fun text h => ?_⟩
    exact ⟨reason.message, by simp [chain], reason.shows_texts text h⟩
  | refused reason =>
    exact fun text h => ⟨reason.message, by simp [chain], reason.shows_texts text h⟩

theorem shows_chainText {lines : List String} {line : String} (h : line ∈ lines) :
    Shows (chainText lines) line := by
  cases lines with
  | nil => cases h
  | cons first causes =>
    rcases List.mem_cons.1 h with rfl | h
    · exact (Shows.intercalate List.mem_cons_self).trans (.last ..)
    · have hcause : "  caused by: " ++ line ∈ causes.map ("  caused by: " ++ ·) :=
        List.mem_map_of_mem h
      exact (Shows.intercalate (List.mem_cons_of_mem _ hcause)).trans (.last ..)

/-- What is printed of a failed run shows all that its fault holds. -/
theorem shows_failure (fault : RunFault) :
    ∀ text ∈ fault.texts, Shows (chainText fault.chain) text := by
  intro text h
  obtain ⟨line, hline, htext⟩ := fault.shows_texts text h
  exact (shows_chainText hline).trans htext

end Command

end ConstructorPlanning
