import ConstructorPlanning.Command.Config
import ConstructorPlanning.Proofs.ToldRecord
/-!
What a configuration text says: which options it sets, which it leaves on, and which texts are
refused.
-/
namespace ConstructorPlanning

open Json Json.RecordShape

section Options

/-- The value tells the options. One that is left out is on, and whatever else an object holds is
passed over. -/
def Options.ToldBy (o : Options) : Draft → Prop :=
  Told ["validateSelection", "offerDelegation"] false fun values =>
    Carries TellsFlag (some true) (values "validateSelection") o.validateSelection ∧
      Carries TellsFlag (some true) (values "offerDelegation") o.offerDelegation

theorem Options.shape_independent : Options.shape.Independent :=
  List.pairwise_pair.2 (RecordField.commutes_of_read rfl rfl fun _ _ _ => rfl)

theorem Options.reads : Reader.Reads Options.read Options.ToldBy := by
  refine RecordShape.reads (by decide) shape_independent fun o values => ?_
  simp (disch := rfl) only [shape, fills_defaulted reads_boolean true, fills_nil]
  constructor
  · rintro ⟨_, hvalidate, _, hoffer, rfl⟩
    exact ⟨hvalidate, hoffer⟩
  · rintro ⟨hvalidate, hoffer⟩
    exact ⟨_, hvalidate, _, hoffer, rfl⟩

theorem Options.read_draft (o : Options) : Options.read o.toJson.draft = .ok o :=
  RecordShape.read_of_writes (by decide) <|
    .defaulted (Reader.boolean_draft o.validateSelection) <|
    .defaulted (Reader.boolean_draft o.offerDelegation) <| .nil o

theorem Options.text_round_trip (o : Options) : Options.read.ofText o.toJson.compact = .ok o :=
  Reader.ofText_compact (read_draft o)

end Options

namespace Command

/-- The value tells the configuration. There is no key but one, and where it is left out, both
options are on. -/
def Config.ToldBy (c : Config) : Draft → Prop :=
  Told ["planner"] true fun values =>
    Carries Options.ToldBy (some ⟨true, true⟩) (values "planner") c.planner

theorem Config.shape_independent : Config.shape.Independent :=
  List.pairwise_singleton _ _

theorem Config.reads : Reader.Reads Config.shape.read Config.ToldBy := by
  refine RecordShape.reads (by decide) shape_independent fun c values => ?_
  simp (disch := rfl) only [shape, fills_defaulted Options.reads ⟨true, true⟩, fills_nil]
  constructor
  · rintro ⟨_, hplanner, rfl⟩
    exact hplanner
  · intro hplanner
    exact ⟨_, hplanner, rfl⟩

def Config.SpelledBy (c : Config) (text : String) : Prop :=
  ∃ d, Spells d text.toList ∧ c.ToldBy d

theorem Config.ofText_eq_ok_iff {text : String} {c : Config} :
    Config.ofText text = .ok c ↔ c.SpelledBy text := by
  rw [ofText, Reader.ofText_eq_ok_iff fun _ _ => isWhole_of_read]
  simp only [reads _ _, SpelledBy]

example : Config.ofText " \x7b \"planner\": \x7b\"offerDelegation\": false\x7d \x7d\n" =
    .ok ⟨{ validateSelection := true, offerDelegation := false }⟩ := rfl

example : Config.ofText "\x7b\"plan\": \x7b\x7d\x7d" =
    .error (.unknownField "plan" ["planner"]) := rfl

end Command

end ConstructorPlanning
