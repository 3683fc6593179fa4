import Mathlib.Data.List.TakeWhile
import ConstructorPlanning.Command.LogSettings
import ConstructorPlanning.Planning.Note
/-!
What the log settings depend on. The name of a layout counts without its case and the blanks around
it; the environment decides alone unless it is blank; and what comes out of it comes out again if it
is put back. A bare level reaches every record.
-/
namespace ConstructorPlanning

namespace Text

variable {text core : List Char}

/-- The text neither begins nor ends with a blank. -/
structure Tight (text : List Char) : Prop where
  first : ∀ c, text.head? = some c → ¬ isBlank c
  last : ∀ c, text.getLast? = some c → ¬ isBlank c

/-- The text is the core with blanks before and after it. -/
def Pads (core text : List Char) : Prop :=
  ∃ before after, text = before ++ core ++ after ∧ (∀ c ∈ before, isBlank c) ∧
    ∀ c ∈ after, isBlank c

theorem head?_dropWhile_isBlank (text : List Char) (c : Char)
    (h : (text.dropWhile isBlank).head? = some c) : ¬ isBlank c := by
  have hnot := List.head?_dropWhile_not isBlank text
  rw [h] at hnot
  simpa using hnot

theorem dropWhile_isBlank_of_first (h : ∀ c, text.head? = some c → ¬ isBlank c) :
    text.dropWhile isBlank = text := by
  cases text with
  | nil => rfl
  | cons c rest => exact List.dropWhile_cons_of_neg (h c rfl)

theorem trimmed_of_tight (h : Tight text) : trimmed text = text := by
  have hlast : ∀ c, text.reverse.head? = some c → ¬ isBlank c := by
    intro c hc
    exact h.last c (by rwa [List.head?_reverse] at hc)
  rw [trimmed, dropWhile_isBlank_of_first h.first, dropWhile_isBlank_of_first hlast,
    List.reverse_reverse]

theorem pads_trimmed (text : List Char) : Pads (trimmed text) text := by
  refine ⟨text.takeWhile isBlank, ((text.dropWhile isBlank).reverse.takeWhile isBlank).reverse,
    ?_, fun c hc => List.mem_takeWhile_imp hc, fun c hc => ?_⟩
  · rw [trimmed, List.append_assoc, ← List.reverse_append, List.takeWhile_append_dropWhile,
      List.reverse_reverse, List.takeWhile_append_dropWhile]
  · exact List.mem_takeWhile_imp (List.mem_reverse.1 hc)

theorem tight_trimmed (text : List Char) : Tight (trimmed text) where
  first := by
    intro c hc
    -- what is left at the end begins as the text did once its first blanks were gone
    obtain ⟨after, hafter⟩ : trimmed text <+: text.dropWhile isBlank := by
      rw [← List.reverse_suffix, trimmed, List.reverse_reverse]
      exact List.dropWhile_suffix _
    refine head?_dropWhile_isBlank text c ?_
    rw [← hafter, List.head?_append, hc, Option.some_or]
  last := by
    intro c hc
    rw [trimmed, List.getLast?_reverse] at hc
    exact head?_dropWhile_isBlank _ c hc

/-- Blanks around a text are lost on trimming. -/
theorem trimmed_of_pads (h : Pads core text) : trimmed text = trimmed core := by
  obtain ⟨before, after, rfl, hbefore, hafter⟩ := h
  rw [trimmed, trimmed, List.append_assoc, List.dropWhile_append_of_pos hbefore,
    List.dropWhile_append]
  split
  · rename_i hempty
    rw [List.isEmpty_iff.1 hempty, List.dropWhile_eq_nil_iff.2 hafter]
  · rw [List.reverse_append, List.dropWhile_append_of_pos fun c hc =>
      hafter c (List.mem_reverse.1 hc)]

/-- Trimming finds the one core without blanks at its ends. -/
theorem trimmed_eq_iff : trimmed text = core ↔ Tight core ∧ Pads core text := by
  constructor
  · rintro rfl
    exact ⟨tight_trimmed text, pads_trimmed text⟩
  · rintro ⟨htight, hpads⟩
    rw [trimmed_of_pads hpads, trimmed_of_tight htight]

theorem trimmed_eq_nil_iff : trimmed text = [] ↔ ∀ c ∈ text, isBlank c := by
  constructor
  · intro h
    obtain ⟨before, after, htext, hbefore, hafter⟩ := pads_trimmed text
    rw [h, List.append_nil] at htext
    rw [htext]
    exact fun c hc => (List.mem_append.1 hc).elim (hbefore c) (hafter c)
  · intro h
    have hpads : Pads [] text := ⟨text, [], by simp, h, List.forall_mem_nil _⟩
    exact trimmed_of_pads hpads

/-- No blank has another lower case. -/
theorem lowered_of_isBlank {c : Char} (h : isBlank c) : lowered c = [c] := by
  have hcode : ∀ code ∈ List.range' 0x09 5 ++ List.range' 0x2000 11 ++
      [0x20, 0x85, 0xA0, 0x1680, 0x2028, 0x2029, 0x202F, 0x205F, 0x3000],
      lowered (Char.ofNat code) = [Char.ofNat code] := by
    decide +kernel
  have hc := hcode c.toNat ?_
  · rwa [Char.ofNat_toNat] at hc
  · simp only [isBlank, Bool.or_eq_true, Bool.and_eq_true, decide_eq_true_eq,
      List.contains_iff_mem] at h
    simp only [List.mem_append, List.mem_range'_1]
    exact h.imp_left fun hrange => by omega

end Text

theorem Level.label_injective : Function.Injective Level.label := by
  intro a b h
  cases a <;> cases b <;> first | rfl | exact absurd h (by decide)

namespace Command

open Text (isBlank trimmed Tight Pads)

/-- A name is the word, in any case and with blanks around it. -/
def IsCalled (word name : String) : Prop :=
  ∃ core, Pads core name.toList ∧ core.flatMap Text.lowered = word.toList

theorem lowered_trimmed_eq_iff {word name : String} (hword : word.toList.all (!isBlank ·)) :
    (trimmed name.toList).flatMap Text.lowered = word.toList ↔ IsCalled word name := by
  constructor
  · exact fun h => ⟨_, Text.pads_trimmed _, h⟩
  · rintro ⟨core, hpads, hcore⟩
    have hnone : ∀ c ∈ core, ¬ isBlank c := by
      intro c hc hblank
      have hmem : c ∈ word.toList := by
        rw [← hcore, List.mem_flatMap]
        exact ⟨c, hc, by simp [Text.lowered_of_isBlank hblank]⟩
      have hsolid := List.all_eq_true.1 hword c hmem
      rw [hblank] at hsolid
      cases hsolid
    have htight : Tight core :=
      ⟨fun c hc => hnone c (List.mem_of_head? hc), fun c hc => hnone c (List.mem_of_getLast? hc)⟩
    rw [Text.trimmed_eq_iff.2 ⟨htight, hpads⟩, hcore]

/-- The tree and the JSON layout are asked for by their names; whatever else is given stands for
text. -/
theorem LogFormat.ofName_eq_iff {name : String} :
    (ofName name = tree ↔ IsCalled "tree" name) ∧ (ofName name = json ↔ IsCalled "json" name) := by
  rw [← lowered_trimmed_eq_iff (by decide), ← lowered_trimmed_eq_iff (by decide), ofName]
  split
  · rename_i h
    rw [← String.ofList_inj, ← String.ofList_inj, h]
    decide
  · rename_i h
    rw [← String.ofList_inj, ← String.ofList_inj, h]
    decide
  · rename_i htree hjson
    simp only [reduceCtorEq, false_iff]
    exact ⟨fun h => htree (by rw [h]; rfl), fun h => hjson (by rw [h]; rfl)⟩

/-- The environment says nothing about logging. -/
def IsSilent (environment : Option String) : Prop :=
  ∀ c ∈ (environment.getD "").toList, isBlank c

section Directives

variable {environment : Option String} {value : List Char} {verbose : Nat}

theorem filterDirectives_of_silent (h : IsSilent environment) :
    filterDirectives environment verbose = filterDirectives none verbose := by
  unfold filterDirectives
  rw [Text.trimmed_eq_nil_iff.2 h]
  rfl

theorem filterDirectives_of_value (h : trimmed (environment.getD "").toList = value)
    (hsome : value ≠ []) :
    filterDirectives environment verbose =
      some (if value.contains '=' || value.contains ',' then String.ofList value
        else scopedLevel (String.ofList value)) := by
  simp only [filterDirectives, h, List.isEmpty_iff, hsome, if_false]
  split <;> rfl

/-- The environment decides alone unless it is blank. -/
theorem environment_wins (h : ¬ IsSilent environment) (other : Nat) :
    filterDirectives environment verbose = filterDirectives environment other := by
  have hsome := mt Text.trimmed_eq_nil_iff.1 h
  rw [filterDirectives_of_value rfl hsome, filterDirectives_of_value rfl hsome]

/-- Logging stays off where neither side asks for it, and only there. -/
theorem filterDirectives_eq_none_iff :
    filterDirectives environment verbose = none ↔ IsSilent environment ∧ verbose = 0 := by
  by_cases hsilent : IsSilent environment
  · rw [filterDirectives_of_silent hsilent]
    cases verbose with
    | zero => exact ⟨fun _ => ⟨hsilent, rfl⟩, fun _ => rfl⟩
    | succ count =>
      have hsome : filterDirectives none (count + 1) ≠ none := by
        cases count <;> exact Option.some_ne_none _
      exact ⟨fun h => absurd h hsome, fun h => absurd h.2 count.succ_ne_zero⟩
  · rw [filterDirectives_of_value rfl (mt Text.trimmed_eq_nil_iff.1 hsilent)]
    exact ⟨fun h => absurd h (Option.some_ne_none _), fun h => absurd h.1 hsilent⟩

theorem filterDirectives_of_directives {directives : String} (htight : Tight directives.toList)
    (hmark : directives.toList.contains '=' || directives.toList.contains ',') :
    filterDirectives (some directives) verbose = some directives := by
  have hsome : directives.toList ≠ [] := by
    intro h
    rw [h] at hmark
    cases hmark
  have hvalue : trimmed ((some directives).getD "").toList = directives.toList :=
    Text.trimmed_of_tight htight
  rw [filterDirectives_of_value hvalue hsome, if_pos hmark, String.ofList_toList]

theorem scopedLevel_eq (level : String) :
    scopedLevel level = "ctorgen_core=" ++ level ++ "," ++ ("ctorgen_cli=" ++ level) := by
  rfl

/-- A scoped level is directives, which are taken as they are. -/
theorem filterDirectives_scopedLevel {level : String} (htight : Tight level.toList)
    (hsome : level.toList ≠ []) :
    filterDirectives (some (scopedLevel level)) verbose = some (scopedLevel level) := by
  obtain ⟨c, hc⟩ := Option.isSome_iff_exists.1 (List.getLast?_isSome.2 hsome)
  have htext : (scopedLevel level).toList =
      "ctorgen_core=".toList ++ (level.toList ++ ",ctorgen_cli=".toList ++ level.toList) := by
    simp [scopedLevel_eq]
  refine filterDirectives_of_directives ⟨?_, ?_⟩ ?_
  · rw [htext]
    rintro _ ⟨⟩
    decide
  · rw [htext, List.getLast?_append, List.getLast?_append, hc]
    rintro _ ⟨⟩
    exact htight.last c hc
  · rw [htext, Bool.or_eq_true, List.contains_iff_mem]
    exact .inl (List.mem_append_left _ (by decide))

/-- The directives that come out, put into the environment, come out again. -/
theorem filterDirectives_again {directives : String}
    (h : filterDirectives environment verbose = some directives) (other : Nat) :
    filterDirectives (some directives) other = some directives := by
  by_cases hsilent : IsSilent environment
  · rw [filterDirectives_of_silent hsilent] at h
    have hdebug : Tight "debug".toList := ⟨by rintro _ ⟨⟩; decide, by rintro _ ⟨⟩; decide⟩
    have htrace : Tight "trace".toList := ⟨by rintro _ ⟨⟩; decide, by rintro _ ⟨⟩; decide⟩
    cases verbose with
    | zero => cases h
    | succ count =>
      cases count with
      | zero =>
        cases h
        exact filterDirectives_scopedLevel hdebug (by decide)
      | succ count =>
        cases h
        exact filterDirectives_scopedLevel htrace (by decide)
  · have hsome := mt Text.trimmed_eq_nil_iff.1 hsilent
    rw [filterDirectives_of_value rfl hsome, Option.some.injEq] at h
    have htight := Text.tight_trimmed (environment.getD "").toList
    split at h
    · rename_i hmark
      rw [← h]
      exact filterDirectives_of_directives (by rwa [String.toList_ofList])
        (by rwa [String.toList_ofList])
    · rw [← h]
      exact filterDirectives_scopedLevel (by rwa [String.toList_ofList])
        (by rwa [String.toList_ofList])

end Directives

/-- A bare level names the part of the program that a note or a call belongs to. -/
theorem scopedLevel_reaches (level : String) :
    (∀ note : Note, ∃ part path, note.target = part ++ "::" ++ path ∧
      (part ++ "=" ++ level).toList <:+: (scopedLevel level).toList) ∧
    ∀ call : Call, ∃ part path, call.target = part ++ "::" ++ path ∧
      (part ++ "=" ++ level).toList <:+: (scopedLevel level).toList := by
  have hcore : ("ctorgen_core" ++ "=" ++ level).toList <:+: (scopedLevel level).toList :=
    ⟨[], ("," ++ ("ctorgen_cli=" ++ level)).toList, by simp [scopedLevel_eq]⟩
  have hcli : ("ctorgen_cli" ++ "=" ++ level).toList <:+: (scopedLevel level).toList :=
    ⟨("ctorgen_core=" ++ level ++ ",").toList, [], by simp [scopedLevel_eq]⟩
  refine ⟨fun note => ?_, fun call => ?_⟩
  · cases note with
    | collectedViable => exact ⟨_, "members", rfl, hcore⟩
    | disambiguated => exact ⟨_, "naming", rfl, hcore⟩
    | exactMatch | delegationTarget => exact ⟨_, "matcher", rfl, hcore⟩
    | leftUnbound => exact ⟨_, "synthesizer", rfl, hcore⟩
    | cancellationObserved => exact ⟨_, "cancellation", rfl, hcore⟩
    | planningStarted => exact ⟨_, "driver", rfl, hcli⟩
    | _ => exact ⟨"ctorgen_core", "planner", rfl, hcore⟩
  · cases call <;> exact ⟨"ctorgen_core", "planner", rfl, hcore⟩

end Command

end ConstructorPlanning
