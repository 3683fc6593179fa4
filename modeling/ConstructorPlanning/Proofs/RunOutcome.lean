import ConstructorPlanning.Command.Execution
import ConstructorPlanning.Proofs.CatalogReading
import ConstructorPlanning.Proofs.ConfigReading
import ConstructorPlanning.Proofs.FileLookup
import ConstructorPlanning.Proofs.PickedCall
import ConstructorPlanning.Proofs.Stages
/-!
What a run of the command comes to, by the first thing that is wrong with its input. Whatever the
planner refuses is no failure of the run.
-/
namespace ConstructorPlanning

section Lookup

variable {α : Type}

/-- `a` is the first entry of the list under the name. -/
def IsFirstNamed (name : α → String) (l : List α) (wanted : String) (a : α) : Prop :=
  name a = wanted ∧ ∃ before after, l = before ++ a :: after ∧ ∀ b ∈ before, name b ≠ wanted

theorem find?_name_eq_some_iff {name : α → String} {l : List α} {wanted : String} {a : α} :
    l.find? (fun b => name b = wanted) = some a ↔ IsFirstNamed name l wanted a := by
  simp [IsFirstNamed, List.find?_eq_some_iff_append]

theorem find?_name_eq_none_iff {name : α → String} {l : List α} {wanted : String} :
    l.find? (fun b => name b = wanted) = none ↔ ∀ a ∈ l, name a ≠ wanted := by
  simp

end Lookup

namespace TypeSnapshot

variable {t : TypeSnapshot}

theorem selectMembers_cons (name : String) (names : List String) :
    t.selectMembers (name :: names) =
      match t.member? name with
      | some m => (m :: ·) <$> t.selectMembers names
      | none => .error (.invalidSelection name .notFound) := by
  rw [selectMembers, List.mapM_cons]
  cases t.member? name with
  | none => rfl
  | some m =>
    change (t.selectMembers names >>= fun ms => _) = _
    cases t.selectMembers names <;> rfl

theorem selectMembers_eq_ok_iff {names : List String} {members : List Member} :
    t.selectMembers names = .ok members ↔
      List.Forall₂ (IsFirstNamed Member.name t.members) names members := by
  rw [selectMembers, mapM_eq_ok_iff]
  constructor
  · refine List.Forall₂.imp fun name m h => find?_name_eq_some_iff.1 ?_
    change t.member? name = some m
    cases hname : t.member? name with
    | none => simp [hname] at h
    | some other => simpa [hname] using h
  · refine List.Forall₂.imp fun name m h => ?_
    have hname : t.member? name = some m := find?_name_eq_some_iff.2 h
    simp [hname]

/-- The name is the first of the list that no member has. -/
def IsFirstUnknown (t : TypeSnapshot) (names : List String) (name : String) : Prop :=
  ∃ before after, names = before ++ name :: after ∧
    (∀ b ∈ before, ∃ m ∈ t.members, m.name = b) ∧ ∀ m ∈ t.members, m.name ≠ name

theorem member?_eq_none_iff {name : String} :
    t.member? name = none ↔ ∀ m ∈ t.members, m.name ≠ name :=
  find?_name_eq_none_iff

theorem isFirstUnknown_cons {name wanted : String} {names : List String} :
    t.IsFirstUnknown (name :: names) wanted ↔
      (t.member? name = none ∧ wanted = name) ∨
        (∃ m, t.member? name = some m) ∧ t.IsFirstUnknown names wanted := by
  constructor
  · rintro ⟨before, after, hsplit, hknown, hunknown⟩
    cases before with
    | nil =>
      obtain ⟨rfl, -⟩ := List.cons.inj hsplit
      exact .inl ⟨member?_eq_none_iff.2 hunknown, rfl⟩
    | cons b before =>
      obtain ⟨rfl, rfl⟩ := List.cons.inj hsplit
      obtain ⟨⟨m, hm, hname⟩, hknown⟩ := List.forall_mem_cons.1 hknown
      refine .inr ⟨?_, before, after, rfl, hknown, hunknown⟩
      rw [← Option.ne_none_iff_exists']
      exact fun hnone => member?_eq_none_iff.1 hnone m hm hname
  · rintro (⟨hnone, rfl⟩ | ⟨⟨m, hm⟩, before, after, rfl, hknown, hunknown⟩)
    · exact ⟨[], names, rfl, nofun, member?_eq_none_iff.1 hnone⟩
    · have hfound : ∃ m ∈ t.members, m.name = name :=
        ⟨m, List.mem_of_find?_eq_some hm, by simpa using List.find?_some hm⟩
      exact ⟨name :: before, after, rfl, List.forall_mem_cons.2 ⟨hfound, hknown⟩, hunknown⟩

theorem selectMembers_eq_error_iff {names : List String} {r : Refusal} :
    t.selectMembers names = .error r ↔
      ∃ name, t.IsFirstUnknown names name ∧ r = .invalidSelection name .notFound := by
  induction names with
  | nil =>
    change Except.ok [] = _ ↔ _
    simp [IsFirstUnknown]
  | cons name names ih =>
    rw [selectMembers_cons]
    simp only [isFirstUnknown_cons]
    cases hname : t.member? name with
    | none => simp [eq_comm]
    | some m =>
      have hrest : ((m :: ·) <$> t.selectMembers names : Except Refusal _) = .error r ↔
          t.selectMembers names = .error r := by
        cases t.selectMembers names <;> simp
      simp [hrest, ih]

end TypeSnapshot

namespace Command

variable {args : Arguments} {files : Files} {cwd : String}

/-- The configuration file of a run: the named one, which has to be a regular file, or else
`ctorgen.json` in the working directory if that is one. -/
inductive UsesConfig (args : Arguments) (files : Files) (cwd : String) : Option String → Prop where
  | named {path full : String} (hnamed : args.config = some path) (hseen : SeenFrom cwd path full)
      (hfile : RegularFile (files full)) : UsesConfig args files cwd full
  | default {full : String} (hunnamed : args.config = none)
      (hseen : SeenFrom cwd "ctorgen.json" full) (hfile : RegularFile (files full)) :
    UsesConfig args files cwd full
  | none {full : String} (hunnamed : args.config = none) (hseen : SeenFrom cwd "ctorgen.json" full)
      (hmissing : ¬ RegularFile (files full)) : UsesConfig args files cwd none

/-- The configuration that a file holds, if there is one. -/
inductive LoadsConfig (files : Files) : Option String → Option Config → Prop where
  | loaded {path text : String} {config : Config} (hread : HoldsText (files path) text)
      (hspelled : config.SpelledBy text) : LoadsConfig files (some path) (some config)
  | none : LoadsConfig files none none

/-- The options of a run are on, unless the configuration or a flag has turned them off. -/
structure Effective (args : Arguments) (config : Option Config) (o : Options) : Prop where
  validateSelection : o.validateSelection ↔
    (∀ c ∈ config, c.planner.validateSelection) ∧ ¬ args.noValidateSelection
  offerDelegation : o.offerDelegation ↔
    (∀ c ∈ config, c.planner.offerDelegation) ∧ ¬ args.noDelegation

def Configured (args : Arguments) (files : Files) (cwd : String) (o : Options) : Prop :=
  ∃ path config, UsesConfig args files cwd path ∧ LoadsConfig files path config ∧
    Effective args config o

/-- The run has got its options, and its catalog from the file at a path. -/
def Supplied (args : Arguments) (files : Files) (cwd : String) (o : Options) (full : String)
    (catalog : TypeCatalog) : Prop :=
  Configured args files cwd o ∧ SeenFrom cwd args.snapshot full ∧
    ∃ text, HoldsText (files full) text ∧ catalog.SpelledBy text

/-- What the planner answers about a type, for the members that are named or for all. -/
inductive Asks (o : Options) (t : TypeSnapshot) :
    List String → Except Refusal (List Plan) → Prop where
  | all : Asks o t [] (tryPlanWithPicker o t .all .never).result
  | named {names : List String} {members : List Member} (hsome : names ≠ [])
      (hmembers : List.Forall₂ (IsFirstNamed Member.name t.members) names members) :
    Asks o t names (tryPlan o t members .never).result

/-- What a run comes to. Each cause of a failure is looked for where those before it are not found.
-/
inductive Outcome (args : Arguments) (files : Files) (cwd : String) :
    Except RunFault Report → Prop where
  | configNotFound {path full : String} (hnamed : args.config = some path)
      (hseen : SeenFrom cwd path full) (hmissing : ¬ RegularFile (files full)) :
    Outcome args files cwd (.error (.configNotFound full))
  | configUnreadable {path : String} {fault : ReadFault} (hused : UsesConfig args files cwd path)
      (hunread : Unreadable (files path) fault) :
    Outcome args files cwd (.error (.configUnreadable path fault))
  | configMalformed {path text : String} {fault : Json.Fault}
      (hused : UsesConfig args files cwd path) (hread : HoldsText (files path) text)
      (hmalformed : ¬ ∃ config : Config, config.SpelledBy text)
      (hfault : Config.ofText text = .error fault) :
    Outcome args files cwd (.error (.configMalformed path fault))
  | snapshotUnreadable {o : Options} {full : String} {fault : ReadFault}
      (hconfigured : Configured args files cwd o) (hseen : SeenFrom cwd args.snapshot full)
      (hunread : Unreadable (files full) fault) :
    Outcome args files cwd (.error (.snapshotUnreadable full fault))
  | snapshotMalformed {o : Options} {full text : String} {fault : Json.Fault}
      (hconfigured : Configured args files cwd o) (hseen : SeenFrom cwd args.snapshot full)
      (hread : HoldsText (files full) text)
      (hmalformed : ¬ ∃ catalog : TypeCatalog, catalog.SpelledBy text)
      (hfault : TypeCatalog.ofText text = .error fault) :
    Outcome args files cwd (.error (.snapshotMalformed full fault))
  | typeNotFound {o : Options} {full : String} {catalog : TypeCatalog}
      (hsupplied : Supplied args files cwd o full catalog)
      (hunknown : ∀ t ∈ catalog.types, t.name ≠ args.typeName) :
    Outcome args files cwd (.error (.typeNotFound args.typeName full catalog.typeNames))
  | invalidMember {o : Options} {full : String} {catalog : TypeCatalog} {t : TypeSnapshot}
      {name : String} (hsupplied : Supplied args files cwd o full catalog)
      (htype : IsFirstNamed TypeSnapshot.name catalog.types args.typeName t)
      (hunknown : t.IsFirstUnknown args.members name) :
    Outcome args files cwd
      (.error (.invalidMembers args.typeName (.invalidSelection name .notFound)))
  | planned {o : Options} {full : String} {catalog : TypeCatalog} {t : TypeSnapshot}
      {plans : List Plan} (hsupplied : Supplied args files cwd o full catalog)
      (htype : IsFirstNamed TypeSnapshot.name catalog.types args.typeName t)
      (hanswer : Asks o t args.members (.ok plans)) :
    Outcome args files cwd (.ok ⟨args.typeName, plans⟩)
  | nothingOffered {o : Options} {full : String} {catalog : TypeCatalog} {t : TypeSnapshot}
      {r : Refusal} (hsupplied : Supplied args files cwd o full catalog)
      (htype : IsFirstNamed TypeSnapshot.name catalog.types args.typeName t)
      (hanswer : Asks o t args.members (.error r)) (hcause : NoOffer t r) :
    Outcome args files cwd (.ok ⟨args.typeName, []⟩)

theorem find_eq_ok_iff {path : Option String} :
    Config.find files cwd args.config = .ok path ↔ UsesConfig args files cwd path := by
  constructor
  · intro h
    cases hconfig : args.config with
    | some named =>
      have hseen : SeenFrom cwd named _ := joined_eq_iff.1 rfl
      simp only [hconfig, Config.find] at h
      split at h
      · rename_i hfile
        cases h
        exact .named hconfig hseen (isFile_iff.1 hfile)
      · cases h
    | none =>
      have hseen : SeenFrom cwd Config.defaultFile _ := joined_eq_iff.1 rfl
      simp only [hconfig, Config.find] at h
      split at h
      · rename_i hfile
        cases h
        exact .default hconfig hseen (isFile_iff.1 hfile)
      · rename_i hmissing
        cases h
        exact .none hconfig hseen (mt isFile_iff.2 hmissing)
  · intro h
    cases h with
    | named hnamed hseen hfile =>
      rw [hnamed, Config.find, joined_eq_iff.2 hseen, if_pos (isFile_iff.2 hfile)]
    | default hunnamed hseen hfile =>
      have hjoined : joined cwd Config.defaultFile = _ := joined_eq_iff.2 hseen
      simp only [hunnamed, Config.find, hjoined, if_pos (isFile_iff.2 hfile)]
    | none hunnamed hseen hmissing =>
      have hjoined : joined cwd Config.defaultFile = _ := joined_eq_iff.2 hseen
      simp only [hunnamed, Config.find, hjoined, if_neg (mt isFile_iff.1 hmissing)]

/-- A file is read as text, and then the text is read. -/
theorem reading_eq_ok_iff {α : Type} {entry : Entry} {parse : String → Except Json.Fault α}
    {unreadable : ReadFault → RunFault} {malformed : Json.Fault → RunFault} {a : α} :
    (entry.text.mapError unreadable >>= fun text => (parse text).mapError malformed) = .ok a ↔
      ∃ text, HoldsText entry text ∧ parse text = .ok a := by
  simp only [bind_eq_ok_iff, mapError_eq_ok_iff, text_eq_ok_iff]

theorem reading_eq_error_iff {α : Type} {entry : Entry} {parse : String → Except Json.Fault α}
    {unreadable : ReadFault → RunFault} {malformed : Json.Fault → RunFault} {fault : RunFault} :
    (entry.text.mapError unreadable >>= fun text => (parse text).mapError malformed) =
        .error fault ↔
      (∃ cause, Unreadable entry cause ∧ unreadable cause = fault) ∨
        ∃ text, HoldsText entry text ∧ ∃ cause, parse text = .error cause ∧
          malformed cause = fault := by
  simp only [bind_eq_error_iff, mapError_eq_ok_iff, mapError_eq_error_iff, text_eq_ok_iff,
    text_eq_error_iff]

theorem find_eq_error {fault : RunFault} (h : Config.find files cwd args.config = .error fault) :
    Outcome args files cwd (.error fault) := by
  cases hconfig : args.config with
  | none =>
    rw [hconfig] at h
    cases h
  | some named =>
    simp only [hconfig, Config.find] at h
    split at h
    · cases h
    · rename_i hmissing
      cases h
      exact .configNotFound hconfig (joined_eq_iff.1 rfl) (mt isFile_iff.2 hmissing)

theorem mapM_load_eq_ok_iff {path : Option String} {config : Option Config} :
    path.mapM (Config.load files) = .ok config ↔ LoadsConfig files path config := by
  cases path with
  | none =>
    constructor
    · rintro ⟨⟩
      exact .none
    · rintro ⟨⟩
      rfl
  | some path =>
    rw [Option.mapM_some, map_eq_pure_bind, bind_eq_ok_iff]
    constructor
    · rintro ⟨c, hload, ⟨⟩⟩
      obtain ⟨text, hread, hparsed⟩ := reading_eq_ok_iff.1 hload
      exact .loaded hread (Config.ofText_eq_ok_iff.1 hparsed)
    · rintro ⟨hread, hspelled⟩
      exact ⟨_, reading_eq_ok_iff.2 ⟨_, hread, Config.ofText_eq_ok_iff.2 hspelled⟩, rfl⟩

theorem mapM_load_eq_error_iff {path : Option String} {fault : RunFault} :
    path.mapM (Config.load files) = .error fault ↔
      ∃ found, path = some found ∧ Config.load files found = .error fault := by
  cases path with
  | none => exact iff_of_false nofun nofun
  | some found =>
    rw [Option.mapM_some, map_eq_pure_bind, bind_eq_error_iff]
    constructor
    · rintro (hload | ⟨_, _, ⟨⟩⟩)
      exact ⟨found, rfl, hload⟩
    · rintro ⟨_, ⟨⟩, hload⟩
      exact .inl hload

theorem effective_resolveOptions (args : Arguments) (config : Option Config) :
    Effective args config (resolveOptions args config) := by
  cases config <;> constructor <;> simp [resolveOptions]

theorem Effective.unique {config : Option Config} {o o' : Options} (h : Effective args config o)
    (h' : Effective args config o') : o = o' := by
  have hvalidate := Bool.eq_iff_iff.2 (h.validateSelection.trans h'.validateSelection.symm)
  have hoffer := Bool.eq_iff_iff.2 (h.offerDelegation.trans h'.offerDelegation.symm)
  cases o
  cases o'
  congr

theorem Asks.noOffer {o : Options} {t : TypeSnapshot} {names : List String} {r : Refusal}
    (h : Asks o t names (.error r)) : NoOffer t r := by
  generalize hanswer : Except.error r = answer at h
  cases h with
  | all =>
    have hquiet := Procedure.run_never_result (planPicked o t) .all fun _ _ => rfl
    exact refused_planPicked o t .all r (hquiet.symm.trans hanswer.symm)
  | named =>
    rw [tryPlan_never_result] at hanswer
    exact refused_planExplicit o t .all _ r hanswer.symm

def plansOf : Except Refusal (List Plan) → List Plan
  | .ok plans => plans
  | .error _ => []

theorem ofRun_folded (name : String) {call : Run (List Plan)}
    (h : ∀ r, call.result = .error r → r ≠ .cancelled) :
    (Execution.ofRun name call.folded).result = .ok ⟨name, plansOf call.result⟩ := by
  rw [Execution.ofRun, Run.folded_result]
  cases hresult : call.result with
  | ok plans => rfl
  | error r =>
    have hne := h r hresult
    cases r <;> first | rfl | exact absurd rfl hne

theorem planMembers_of_asks {o : Options} {t : TypeSnapshot} {names : List String}
    {answer : Except Refusal (List Plan)} (h : Asks o t names answer) :
    (Execution.planMembers o t names).result = .ok ⟨t.name, plansOf answer⟩ := by
  have huncancelled : ∀ r, answer = .error r → r ≠ .cancelled := by
    rintro _ rfl rfl
    cases h.noOffer
  cases h with
  | all => exact ofRun_folded t.name huncancelled
  | @named names members hsome hmembers =>
    rw [Execution.planMembers, if_neg (by simpa using hsome),
      TypeSnapshot.selectMembers_eq_ok_iff.2 hmembers]
    exact ofRun_folded t.name huncancelled

theorem planMembers_of_unknown {o : Options} {t : TypeSnapshot} {names : List String}
    {name : String} (h : t.IsFirstUnknown names name) :
    (Execution.planMembers o t names).result =
      .error (.invalidMembers t.name (.invalidSelection name .notFound)) := by
  have hsome : names ≠ [] := by
    obtain ⟨before, after, rfl, -⟩ := h
    simp
  rw [Execution.planMembers, if_neg (by simpa using hsome),
    TypeSnapshot.selectMembers_eq_error_iff.2 ⟨name, h, rfl⟩]

theorem asks_or_unknown (o : Options) (t : TypeSnapshot) (names : List String) :
    (∃ answer, Asks o t names answer) ∨ ∃ name, t.IsFirstUnknown names name := by
  by_cases hsome : names = []
  · rw [hsome]
    exact .inl ⟨_, .all⟩
  · cases hselect : t.selectMembers names with
    | ok members =>
      exact .inl ⟨_, .named hsome (TypeSnapshot.selectMembers_eq_ok_iff.1 hselect)⟩
    | error r =>
      obtain ⟨name, hunknown, -⟩ := TypeSnapshot.selectMembers_eq_error_iff.1 hselect
      exact .inr ⟨name, hunknown⟩

section Preparation

variable {o : Options} {full : String} {catalog : TypeCatalog} {fault : RunFault}

theorem prepare_of_unfound (h : Config.find files cwd args.config = .error fault) :
    Execution.prepare args files cwd = .error fault := by
  rw [Execution.prepare, h]
  rfl

theorem prepare_of_unloaded {path : String} (hused : UsesConfig args files cwd path)
    (h : Config.load files path = .error fault) :
    Execution.prepare args files cwd = .error fault := by
  have hload := mapM_load_eq_error_iff.2 ⟨path, rfl, h⟩
  rw [Execution.prepare, find_eq_ok_iff.2 hused]
  change ((some path).mapM (Config.load files) >>= fun config => _) = _
  rw [hload]
  rfl

/-- Once the options are known, what is left is to look the type up. -/
theorem prepare_of_configured (h : Configured args files cwd o)
    (hseen : SeenFrom cwd args.snapshot full) :
    ∃ path, Execution.prepare args files cwd =
      (Execution.loadCatalog files full >>= fun catalog =>
        match catalog.get? args.typeName with
        | some type => .ok ⟨path, o, type⟩
        | none => .error (.typeNotFound args.typeName full catalog.typeNames)) := by
  obtain ⟨path, config, hused, hloaded, heffective⟩ := h
  obtain rfl := joined_eq_iff.2 hseen
  refine ⟨path, ?_⟩
  rw [Execution.prepare, find_eq_ok_iff.2 hused]
  change (path.mapM (Config.load files) >>= fun config => _) = _
  rw [mapM_load_eq_ok_iff.2 hloaded,
    heffective.unique (effective_resolveOptions args config)]
  rfl

theorem prepare_of_uncatalogued (hconfigured : Configured args files cwd o)
    (hseen : SeenFrom cwd args.snapshot full)
    (h : Execution.loadCatalog files full = .error fault) :
    Execution.prepare args files cwd = .error fault := by
  obtain ⟨path, hprepare⟩ := prepare_of_configured hconfigured hseen
  rw [hprepare, h]
  rfl

theorem loadCatalog_eq_ok_iff :
    Execution.loadCatalog files full = .ok catalog ↔
      ∃ text, HoldsText (files full) text ∧ catalog.SpelledBy text := by
  simp only [Execution.loadCatalog, reading_eq_ok_iff, TypeCatalog.ofText_eq_ok_iff]

theorem prepare_of_untyped (hsupplied : Supplied args files cwd o full catalog)
    (hunknown : ∀ t ∈ catalog.types, t.name ≠ args.typeName) :
    Execution.prepare args files cwd =
      .error (.typeNotFound args.typeName full catalog.typeNames) := by
  obtain ⟨hconfigured, hseen, hloaded⟩ := hsupplied
  have hget : catalog.get? args.typeName = none := find?_name_eq_none_iff.2 hunknown
  obtain ⟨path, hprepare⟩ := prepare_of_configured hconfigured hseen
  rw [hprepare, loadCatalog_eq_ok_iff.2 hloaded]
  simp only [bind, Except.bind, hget]

theorem prepare_of_typed {t : TypeSnapshot} (hsupplied : Supplied args files cwd o full catalog)
    (htype : IsFirstNamed TypeSnapshot.name catalog.types args.typeName t) :
    ∃ path, Execution.prepare args files cwd = .ok ⟨path, o, t⟩ := by
  obtain ⟨hconfigured, hseen, hloaded⟩ := hsupplied
  have hget : catalog.get? args.typeName = some t := find?_name_eq_some_iff.2 htype
  obtain ⟨path, hprepare⟩ := prepare_of_configured hconfigured hseen
  rw [hprepare, loadCatalog_eq_ok_iff.2 hloaded]
  exact ⟨path, by simp only [bind, Except.bind, hget]⟩

theorem not_spelledBy_config {text : String} {cause : Json.Fault}
    (h : Config.ofText text = .error cause) : ¬ ∃ config : Config, config.SpelledBy text := by
  rintro ⟨config, hspelled⟩
  rw [Config.ofText_eq_ok_iff.2 hspelled] at h
  cases h

theorem not_spelledBy_catalog {text : String} {cause : Json.Fault}
    (h : TypeCatalog.ofText text = .error cause) :
    ¬ ∃ catalog : TypeCatalog, catalog.SpelledBy text := by
  rintro ⟨catalog, hspelled⟩
  rw [TypeCatalog.ofText_eq_ok_iff.2 hspelled] at h
  cases h

/-- Either the options of a run are found, or finding them is how the run fails. -/
theorem configured_or_outcome (args : Arguments) (files : Files) (cwd : String) :
    (∃ o, Configured args files cwd o) ∨
      ∃ fault, Execution.prepare args files cwd = .error fault ∧
        Outcome args files cwd (.error fault) := by
  cases hfind : Config.find files cwd args.config with
  | error fault => exact .inr ⟨fault, prepare_of_unfound hfind, find_eq_error hfind⟩
  | ok path =>
    have hused := find_eq_ok_iff.1 hfind
    cases hload : path.mapM (Config.load files) with
    | error fault =>
      obtain ⟨found, rfl, hfault⟩ := mapM_load_eq_error_iff.1 hload
      refine .inr ⟨fault, prepare_of_unloaded hused hfault, ?_⟩
      rcases reading_eq_error_iff.1 hfault with
        ⟨cause, hunread, rfl⟩ | ⟨text, hread, cause, hmalformed, rfl⟩
      · exact .configUnreadable hused hunread
      · exact .configMalformed hused hread (not_spelledBy_config hmalformed) hmalformed
    | ok config =>
      exact .inl ⟨_, path, config, hused, mapM_load_eq_ok_iff.1 hload,
        effective_resolveOptions args config⟩

end Preparation

theorem execute_of_error {fault : RunFault} (h : Execution.prepare args files cwd = .error fault) :
    (execute args files cwd).result = .error fault := by
  rw [execute, h]

theorem execute_of_typed {o : Options} {full : String} {catalog : TypeCatalog} {t : TypeSnapshot}
    (hsupplied : Supplied args files cwd o full catalog)
    (htype : IsFirstNamed TypeSnapshot.name catalog.types args.typeName t) :
    (execute args files cwd).result = (Execution.planMembers o t args.members).result := by
  obtain ⟨path, hprepare⟩ := prepare_of_typed hsupplied htype
  rw [execute, hprepare]

theorem outcome_execute (args : Arguments) (files : Files) (cwd : String) :
    Outcome args files cwd (execute args files cwd).result := by
  -- stage by stage; where a stage finds something wrong, that is the outcome
  rcases configured_or_outcome args files cwd with ⟨o, hconfigured⟩ | ⟨fault, hprepare, houtcome⟩
  · have hseen : SeenFrom cwd args.snapshot (joined cwd args.snapshot) := joined_eq_iff.1 rfl
    cases hcatalog : Execution.loadCatalog files (joined cwd args.snapshot) with
    | error fault =>
      rw [execute_of_error (prepare_of_uncatalogued hconfigured hseen hcatalog)]
      rcases reading_eq_error_iff.1 hcatalog with
        ⟨cause, hunread, rfl⟩ | ⟨text, hread, cause, hmalformed, rfl⟩
      · exact .snapshotUnreadable hconfigured hseen hunread
      · exact .snapshotMalformed hconfigured hseen hread (not_spelledBy_catalog hmalformed)
          hmalformed
    | ok catalog =>
      have hsupplied : Supplied args files cwd o _ catalog :=
        ⟨hconfigured, hseen, loadCatalog_eq_ok_iff.1 hcatalog⟩
      cases hget : catalog.get? args.typeName with
      | none =>
        have hunknown := find?_name_eq_none_iff.1 hget
        rw [execute_of_error (prepare_of_untyped hsupplied hunknown)]
        exact .typeNotFound hsupplied hunknown
      | some t =>
        have htype := find?_name_eq_some_iff.1 hget
        rw [execute_of_typed hsupplied htype]
        rcases asks_or_unknown o t args.members with ⟨answer, hasks⟩ | ⟨name, hunknown⟩
        · rw [planMembers_of_asks hasks, htype.1]
          cases answer with
          | ok plans => exact .planned hsupplied htype hasks
          | error r => exact .nothingOffered hsupplied htype hasks hasks.noOffer
        · rw [planMembers_of_unknown hunknown, htype.1]
          exact .invalidMember hsupplied htype hunknown
  · rw [execute_of_error hprepare]
    exact houtcome

/-- A run comes to its outcome and to no other one: the cause that is found first decides. -/
theorem run_outcome (args : Arguments) (files : Files) (cwd : String)
    (r : Except RunFault Report) :
    (execute args files cwd).result = r ↔ Outcome args files cwd r := by
  constructor
  · rintro rfl
    exact outcome_execute args files cwd
  · intro h
    cases h with
    | @configNotFound _ full hnamed hseen hmissing =>
      have hfind : Config.find files cwd args.config = .error (.configNotFound full) := by
        rw [hnamed, Config.find, joined_eq_iff.2 hseen, if_neg (mt isFile_iff.1 hmissing)]
      exact execute_of_error (prepare_of_unfound hfind)
    | configUnreadable hused hunread =>
      exact execute_of_error (prepare_of_unloaded hused
        (reading_eq_error_iff.2 (.inl ⟨_, hunread, rfl⟩)))
    | configMalformed hused hread _ hfault =>
      exact execute_of_error (prepare_of_unloaded hused
        (reading_eq_error_iff.2 (.inr ⟨_, hread, _, hfault, rfl⟩)))
    | snapshotUnreadable hconfigured hseen hunread =>
      exact execute_of_error (prepare_of_uncatalogued hconfigured hseen
        (reading_eq_error_iff.2 (.inl ⟨_, hunread, rfl⟩)))
    | snapshotMalformed hconfigured hseen hread _ hfault =>
      exact execute_of_error (prepare_of_uncatalogued hconfigured hseen
        (reading_eq_error_iff.2 (.inr ⟨_, hread, _, hfault, rfl⟩)))
    | typeNotFound hsupplied hunknown =>
      exact execute_of_error (prepare_of_untyped hsupplied hunknown)
    | invalidMember hsupplied htype hunknown =>
      rw [execute_of_typed hsupplied htype, planMembers_of_unknown hunknown, htype.1]
    | planned hsupplied htype hanswer =>
      rw [execute_of_typed hsupplied htype, planMembers_of_asks hanswer, htype.1]
      rfl
    | nothingOffered hsupplied htype hanswer _ =>
      rw [execute_of_typed hsupplied htype, planMembers_of_asks hanswer, htype.1]
      rfl

section Tag

def tagText : String :=
  "\x7b\"types\": [\x7b\"name\": \"Tag\", \"kind\": \"class\", \"members\": [" ++
    "\x7b\"name\": \"Id\", \"type\": \"int\", \"kind\": \"field\", " ++
    "\"declarationOrder\": 0\x7d]\x7d]\x7d"

/-- A directory with a configuration that lets a member be named twice. -/
def tagTree : FileTree := [
  (["work", "ctorgen.json"],
    some "\x7b\"planner\": \x7b\"validateSelection\": false\x7d\x7d".toUTF8),
  (["work", "tag.json"], some tagText.toUTF8)]

example : (execute { snapshot := "tag.json", typeName := "Tag", members := ["Id", "Id"] }
    tagTree.files "/work").result = .ok ⟨"Tag", [.fieldAssign [⟨"id", "int", "Id"⟩]]⟩ := by
  decide +kernel

example : (execute { snapshot := "/work/tag.json", typeName := "Tag", config := some "../on.json" }
    tagTree.files "/work").result = .error (.configNotFound "/work/../on.json") := by
  decide +kernel

end Tag

end Command

end ConstructorPlanning
