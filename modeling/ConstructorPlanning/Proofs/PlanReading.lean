import ConstructorPlanning.Command.Report
import ConstructorPlanning.Proofs.EntryOrder
import ConstructorPlanning.Proofs.SnapshotReading
/-!
A written plan is read back as it was: from its own text, and from a report, where it carries its
title. Neither the place of its kind among its entries nor undeclared entries matter.
-/
namespace ConstructorPlanning

open Json Json.Reader

theorem GeneratedParameter.read_draft (p : GeneratedParameter) :
    GeneratedParameter.read p.toJson.draft = .ok p :=
  RecordShape.read_of_writes (by decide) <|
    .required (string_draft p.name) <| .required (string_draft p.type) <|
    .required (string_draft p.member) <| .nil p

theorem DelegateArgument.read_draft {a : DelegateArgument} (h : a.position < UInt64.size) :
    DelegateArgument.read a.toJson.draft = .ok a :=
  RecordShape.read_of_writes (by decide) <|
    .required (position_draft h) <| .required (string_draft a.delegateParameter) <|
    .defaulted (optional_draft a.member) <| .defaulted (optional_draft a.parameter) <| .nil a

namespace Plan

section Holding

variable {depth : Nat}

theorem areHoldable_drafts {items : List Json} (h : ∀ v ∈ items, isHoldable depth v.draft) :
    areHoldable depth (drafts items) := by
  induction items with
  | nil => rfl
  | cons v items ih =>
    obtain ⟨hv, hitems⟩ := List.forall_mem_cons.1 h
    rw [drafts, areHoldable, hv, ih hitems]
    rfl

theorem isHoldable_array {items : List Json} (h : ∀ v ∈ items, isHoldable depth v.draft) :
    isHoldable (depth + 1) (Json.array items).draft := by
  simp [draft, isHoldable, areHoldable_drafts h]

theorem isHoldable_list {α : Type} {write : α → Json} {items : List α}
    (h : ∀ a ∈ items, isHoldable depth (write a).draft) :
    isHoldable (depth + 1) (Json.array (items.map write)).draft := by
  apply isHoldable_array
  intro v hv
  obtain ⟨a, ha, rfl⟩ := List.mem_map.1 hv
  exact h a ha

theorem areHoldableEntries_entryDrafts {entries : List (String × Json)}
    (h : ∀ entry ∈ entries, isHoldable depth entry.2.draft) :
    areHoldableEntries depth (entryDrafts entries) := by
  induction entries with
  | nil => rfl
  | cons entry entries ih =>
    obtain ⟨hentry, hentries⟩ := List.forall_mem_cons.1 h
    rw [entryDrafts, areHoldableEntries, hentry, ih hentries]
    rfl

theorem isHoldable_object {entries : List (String × Json)}
    (h : ∀ entry ∈ entries, isHoldable depth entry.2.draft) :
    isHoldable (depth + 1) (Json.object entries).draft := by
  simp [draft, isHoldable, areHoldableEntries_entryDrafts h]

theorem isHoldable_boolean (b : Bool) : isHoldable depth (Json.boolean b).draft := by
  simp [draft, isHoldable]

theorem isHoldable_string (s : String) : isHoldable depth (Json.string s).draft := by
  simp [draft, isHoldable]

theorem isHoldable_optionalString (s : Option String) :
    isHoldable depth (Json.optionalString s).draft := by
  cases s with
  | none => simp [optionalString, draft, isHoldable]
  | some s => exact isHoldable_string s

theorem isHoldable_natural {n : Nat} (h : n < UInt64.size) :
    isHoldable depth (Json.natural n).draft := by
  simp [draft, isHoldable, Numeric.ofText_numeral h]

theorem isHoldable_word32 (w : UInt32) : isHoldable depth (Json.natural w.toNat).draft :=
  isHoldable_natural (Nat.lt_of_lt_of_le w.toNat_lt (by decide))

theorem isHoldable_generatedParameter (p : GeneratedParameter) :
    isHoldable (depth + 1) p.toJson.draft := by
  apply isHoldable_object
  simp [isHoldable_string]

theorem isHoldable_delegateArgument {a : DelegateArgument} (h : a.position < UInt64.size) :
    isHoldable (depth + 1) a.toJson.draft := by
  apply isHoldable_object
  simp [isHoldable_string, isHoldable_optionalString, isHoldable_natural h]

theorem isHoldable_parameter (p : Parameter) : isHoldable (depth + 1) p.toJson.draft := by
  apply isHoldable_object
  obtain ⟨name, type, member⟩ := p
  cases member <;> simp [isHoldable_string]

theorem isHoldable_constructor (c : Constructor) : isHoldable (depth + 3) c.toJson.draft := by
  have hparameters :
      isHoldable (depth + 2) (Json.array (c.parameters.map Parameter.toJson)).draft :=
    isHoldable_list fun p _ => isHoldable_parameter p
  have hassigned : isHoldable (depth + 2) (Json.strings c.assignedMembers).draft :=
    isHoldable_list fun name _ => isHoldable_string name
  apply isHoldable_object
  simp [isHoldable_word32, isHoldable_boolean, hparameters, hassigned]

/-- An entry that is held back until the kind of the plan is known. -/
def Held (entry : Quoted × Draft) : Prop :=
  entry.1 ≠ some "kind".toList ∧ entry.1.isSome ∧ isHoldable (maxDepth - 1) entry.2

theorem holdEntries_append (kind : Option Kind) {before : List (Quoted × Draft)}
    (h : ∀ entry ∈ before, Held entry) (entries : List (Quoted × Draft)) :
    holdEntries kind (before ++ entries) =
      (fun held => (held.1, before ++ held.2)) <$> holdEntries kind entries := by
  induction before with
  | nil => exact (id_map (holdEntries kind entries)).symm
  | cons entry before ih =>
    obtain ⟨⟨hkind, hkey, hholdable⟩, hbefore⟩ := List.forall_mem_cons.1 h
    rw [List.cons_append, holdEntries, if_neg hkind, hkey, hholdable, ih hbefore]
    cases holdEntries kind entries <;> rfl

theorem holdEntries_kind {before after : List (Quoted × Draft)} {d : Draft} {kind : Kind}
    (hkind : readKind d = .ok kind) (h : ∀ entry ∈ before ++ after, Held entry) :
    holdEntries none (before ++ (some "kind".toList, d) :: after) =
      .ok (some kind, before ++ after) := by
  obtain ⟨hbefore, hafter⟩ := List.forall_mem_append.1 h
  have hrest : holdEntries (some kind) after = .ok (some kind, after) := by
    have hall := holdEntries_append (some kind) hafter []
    rw [List.append_nil] at hall
    rw [hall, holdEntries]
    simp
  rw [holdEntries_append none hbefore, holdEntries, if_pos rfl, hkind]
  change (fun held => (held.1, before ++ held.2)) <$> holdEntries (some kind) after = _
  rw [hrest]
  rfl

end Holding

/-- The positions of the arguments fit into the words that positions are read as. -/
def HasReadablePositions : Plan → Prop
  | delegateThenAssign _ _ arguments _ => ∀ a ∈ arguments, a.position < UInt64.size
  | _ => True

theorem isHoldable_entries {plan : Plan} (h : plan.HasReadablePositions) :
    ∀ entry ∈ plan.entries.tail, isHoldable (maxDepth - 1) entry.2.draft := by
  have hparameters (ps : List GeneratedParameter) :
      isHoldable (maxDepth - 1) (Json.array (ps.map GeneratedParameter.toJson)).draft :=
    isHoldable_list fun p _ => isHoldable_generatedParameter p
  cases plan with
  | noParam => exact nofun
  | fieldAssign ps => simpa [entries] using hparameters ps
  | delegateThenAssign delegate ps args residual =>
    have hdelegate : isHoldable (maxDepth - 1) delegate.toJson.draft :=
      isHoldable_constructor delegate
    have hargs : isHoldable (maxDepth - 1) (Json.array (args.map DelegateArgument.toJson)).draft :=
      isHoldable_list fun a ha => isHoldable_delegateArgument (h a ha)
    simp [entries, hdelegate, hparameters, hargs]

theorem fieldAssignShape_independent : fieldAssignShape.Independent := by
  simp [RecordShape.Independent, fieldAssignShape]

theorem delegatingShape_independent : delegatingShape.Independent := by
  simp only [RecordShape.Independent, delegatingShape, List.pairwise_cons, List.mem_cons,
    forall_eq_or_imp, List.not_mem_nil, false_imp_iff, implies_true, List.Pairwise.nil, and_true]
  -- each two of the fields set different parts of the plan
  and_intros <;> exact RecordField.commutes_of_read rfl rfl fun _ _ _ => rfl

def kind : Plan → Kind
  | fieldAssign _ => .fieldAssign
  | delegateThenAssign .. => .delegateThenAssign
  | noParam => .noParam

theorem readKind_kindName (plan : Plan) :
    readKind (Json.string plan.kindName).draft = .ok plan.kind := by
  rw [draft, readKind, Reader.variant, String.ofList_toList]
  cases plan <;> rfl

theorem kind_notMem_tail (plan : Plan) : "kind" ∉ plan.entries.tail.map (·.1) := by
  cases plan <;> simp [entries]

/-- An entry that the plan does not declare and that can be passed over beside it. -/
def IsExtra (plan : Plan) (entry : String × Json) : Prop :=
  entry.1 ∉ plan.entries.map (·.1) ∧ isHoldable (maxDepth - 1) entry.2.draft

section AmongExtras

variable {plan : Plan} {extras : List (String × Json)} {read : List (Quoted × Draft)}

/-- Once its kind is known, a plan is read from what else it was written with. -/
theorem readHeld_entries (h : plan.HasReadablePositions)
    (hextras : ∀ entry ∈ extras, plan.IsExtra entry)
    (hperm : (entryDrafts (extras ++ plan.entries.tail)).Perm read) :
    readHeld plan.kind (.object read .closed) = .ok plan := by
  cases plan with
  | noParam => rfl
  | fieldAssign ps =>
    have hnames : ∀ entry ∈ extras, entry.1 ∉ fieldAssignShape.fieldNames :=
      fun entry hentry hin => (hextras entry hentry).1 (List.mem_cons_of_mem _ hin)
    have hread := RecordShape.read_of_writes_perm (by decide) rfl fieldAssignShape_independent
      hnames (.required (list_draft fun p _ => p.read_draft) <| .nil ps) hperm
    rw [kind, readHeld, hread]
    rfl
  | delegateThenAssign delegate ps args residual =>
    have hnames : ∀ entry ∈ extras, entry.1 ∉ delegatingShape.fieldNames :=
      fun entry hentry hin => (hextras entry hentry).1 (List.mem_cons_of_mem _ hin)
    have hwrites : delegatingShape.Writes delegatingShape.fields
        (delegateThenAssign delegate ps args residual).entries.tail delegatingShape.blank
        ⟨delegate, ps, args, residual⟩ :=
      .required (Constructor.read_draft delegate) <|
      .required (list_draft fun p _ => p.read_draft) <|
      .required (list_draft fun a ha => DelegateArgument.read_draft (h a ha)) <|
      .required (list_draft fun p _ => p.read_draft) <| .nil _
    have hread := RecordShape.read_of_writes_perm (by decide) rfl delegatingShape_independent
      hnames hwrites hperm
    rw [kind, readHeld, hread]
    rfl

theorem held_of_mem (h : plan.HasReadablePositions)
    (hextras : ∀ entry ∈ extras, plan.IsExtra entry) :
    ∀ entry ∈ entryDrafts (extras ++ plan.entries.tail), Held entry := by
  rw [entryDrafts_eq_map]
  intro held hheld
  obtain ⟨entry, hentry, rfl⟩ := List.mem_map.1 hheld
  have hkind : entry.1 ≠ "kind" ∧ isHoldable (maxDepth - 1) entry.2.draft := by
    rcases List.mem_append.1 hentry with hentry | hentry
    · obtain ⟨hname, hholdable⟩ := hextras entry hentry
      exact ⟨fun heq => hname (heq ▸ List.mem_cons_self), hholdable⟩
    · refine ⟨fun heq => plan.kind_notMem_tail ?_, isHoldable_entries h entry hentry⟩
      exact List.mem_map.2 ⟨entry, hentry, heq⟩
  exact ⟨fun heq => hkind.1 (String.toList_inj.1 (Option.some.inj heq)), rfl, hkind.2⟩

/-- A plan is read from its entries in any order and among undeclared ones. -/
theorem read_of_perm (h : plan.HasReadablePositions)
    (hextras : ∀ entry ∈ extras, plan.IsExtra entry)
    (hperm : (entryDrafts (extras ++ plan.entries)).Perm read) :
    Plan.read (.object read .closed) = .ok plan := by
  have hentries : plan.entries = ("kind", .string plan.kindName) :: plan.entries.tail := rfl
  have hmiddle : (entryDrafts (extras ++ plan.entries)).Perm
      ((some "kind".toList, (Json.string plan.kindName).draft) ::
        entryDrafts (extras ++ plan.entries.tail)) := by
    rw [hentries, entryDrafts_eq_map, entryDrafts_eq_map]
    exact List.perm_middle.map _
  -- the kind is found wherever it stands, and the entries on both sides of it are held
  obtain ⟨before, after, rfl⟩ := List.append_of_mem
    ((hmiddle.symm.trans hperm).subset List.mem_cons_self)
  have hheld : (entryDrafts (extras ++ plan.entries.tail)).Perm (before ++ after) :=
    ((hmiddle.symm.trans hperm).trans List.perm_middle).cons_inv
  have hall : ∀ entry ∈ before ++ after, Held entry := fun entry hentry =>
    held_of_mem h hextras entry (hheld.symm.subset hentry)
  rw [Plan.read, holdEntries_kind plan.readKind_kindName hall]
  exact readHeld_entries h hextras hheld

end AmongExtras

end Plan

namespace Command.Report

/-- An item of a list of plans that shows a plan for a type: it carries the plan's title, and it is
read as the plan, in whatever order its entries stand. -/
def Shows (typeName : String) (plan : Plan) (item : Draft) : Prop :=
  ∃ entries, item = .object entries .closed ∧
    (some "title".toList, .string (some (plan.title typeName).toList)) ∈ entries ∧
    ∀ entries', entries.Perm entries' → Plan.read (.object entries' .closed) = .ok plan

theorem shows_planJson (typeName : String) {plan : Plan} (h : plan.HasReadablePositions) :
    Shows typeName plan (planJson typeName plan).draft := by
  have htitle : plan.IsExtra ("title", .string (plan.title typeName)) := by
    refine ⟨?_, Plan.isHoldable_string _⟩
    cases plan <;> simp [Plan.entries]
  refine ⟨_, rfl, List.mem_cons_self, fun entries' hperm => ?_⟩
  exact Plan.read_of_perm h (List.forall_mem_singleton.2 htitle) hperm

end Command.Report

theorem plan_text_round_trip :
    (∀ plan : Plan, plan.HasReadablePositions →
      Plan.read.ofText plan.toJson.compact = .ok plan) ∧
    ∀ report : Command.Report, (∀ plan ∈ report.plans, plan.HasReadablePositions) →
      ∃ items : List Draft,
        Document.ofText report.json =
          ⟨.object [(some "typeName".toList, .string (some report.typeName.toList)),
            (some "plans".toList, .array items .closed)] .closed, false⟩ ∧
        List.Forall₂ (Command.Report.Shows report.typeName) report.plans items := by
  constructor
  · intro plan h
    exact Reader.ofText_compact (Plan.read_of_perm h (List.forall_mem_nil _) (List.Perm.refl _))
  · intro report h
    refine ⟨(report.plans.map (Command.Report.planJson report.typeName)).map draft, ?_, ?_⟩
    · rw [Command.Report.json, Document.ofText_pretty, ← drafts_eq_map]
      rfl
    · rw [List.map_map, List.forall₂_map_right_iff, List.forall₂_same]
      exact fun plan hplan => Command.Report.shows_planJson report.typeName (h plan hplan)

/-- A plan that passes a default value to its delegate. -/
def shipmentDelegation : Plan :=
  .delegateThenAssign
    ⟨0, [⟨"id", "int", some "Id"⟩, ⟨"note", "string", none⟩], ["Id"], false⟩
    [⟨"id", "int", "Id"⟩, ⟨"mass", "decimal", "Mass"⟩]
    [⟨0, "id", some "Id", some "id"⟩, ⟨1, "note", none, none⟩] [⟨"mass", "decimal", "Mass"⟩]

def shipmentReport : Command.Report where
  typeName := "Shipment"
  plans := [.fieldAssign shipmentDelegation.parameters, shipmentDelegation, .noParam]

theorem plan_text_round_trip_shipment :
    (shipmentDelegation.HasReadablePositions ∧
      Plan.read.ofText shipmentDelegation.toJson.compact = .ok shipmentDelegation) ∧
    (∀ plan ∈ shipmentReport.plans, plan.HasReadablePositions) ∧
      ∃ items : List Draft,
        Document.ofText shipmentReport.json =
          ⟨.object [(some "typeName".toList, .string (some "Shipment".toList)),
            (some "plans".toList, .array items .closed)] .closed, false⟩ ∧
        List.Forall₂ (Command.Report.Shows "Shipment") shipmentReport.plans items := by
  have hdelegation : shipmentDelegation.HasReadablePositions := by
    simp [shipmentDelegation, Plan.HasReadablePositions, UInt64.size]
  have hplans : ∀ plan ∈ shipmentReport.plans, plan.HasReadablePositions :=
    List.forall_mem_cons.2 ⟨trivial, List.forall_mem_cons.2
      ⟨hdelegation, List.forall_mem_singleton.2 trivial⟩⟩
  exact ⟨⟨hdelegation, plan_text_round_trip.1 _ hdelegation⟩, hplans,
    plan_text_round_trip.2 shipmentReport hplans⟩

end ConstructorPlanning
