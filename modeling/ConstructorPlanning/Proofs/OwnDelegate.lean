import ConstructorPlanning.Proofs.NormalName
import ConstructorPlanning.Proofs.PairedSlots
import ConstructorPlanning.Proofs.PlanningOutcome
/-!
Delegating to a constructor that was itself planned, for some of the members now selected. Its
parameters have no annotations, and those that took a number match no member by name; each is handed
the parameter of its own member nevertheless.
-/
namespace ConstructorPlanning

namespace Selection

variable {s s₀ : Selection}

/-- The members that a selection shares with a part of it are that part. -/
theorem filter_members_of_sublist (h : s₀.members.Sublist s.members) :
    s.members.filter (fun m => s₀.names.contains m.name) = s₀.members := by
  let inPart (m : Member) : Bool := s₀.names.contains m.name
  have hpart : s₀.members.filter inPart = s₀.members := by
    rw [List.filter_eq_self]
    intro m hm
    exact List.contains_iff_mem.2 (List.mem_map_of_mem hm)
  have hsublist := h.filter inPart
  rw [hpart] at hsublist
  have hnodup : ((s.members.filter inPart).map (·.name)).Nodup :=
    (List.filter_sublist.map _).nodup s.nodup_names
  have hsubset : (s.members.filter inPart).map (·.name) ⊆ s₀.names := by
    intro name hname
    obtain ⟨m, hm, rfl⟩ := List.mem_map.1 hname
    exact List.contains_iff_mem.1 (List.mem_filter.1 hm).2
  have hle := (hnodup.subperm hsubset).length_le
  rw [List.length_map, names, List.length_map] at hle
  exact (hsublist.eq_of_length_le hle).symm

/-- The parameters that a selection has for the members of a part of it. -/
def ownParameters (s₀ s : Selection) : List GeneratedParameter :=
  s.parameters.filter fun p => s₀.names.contains p.member

theorem candidates_eq_own {c : Constructor} (hassigned : c.assigned = s₀.nameSet) :
    Delegation.candidates c s.parameters = (s₀.ownParameters s).zipIdx := by
  have hsame (name : String) : c.assignedMembers.contains name = s₀.names.contains name := by
    rw [Bool.eq_iff_iff, List.contains_iff_mem, List.contains_iff_mem, ← Constructor.mem_assigned,
      hassigned, mem_nameSet]
  simp only [Delegation.candidates, hsame, ownParameters]

theorem map_ownParameters (h : s₀.members.Sublist s.members) :
    ((s₀.ownParameters s).map fun p => (p.member, p.type)) =
      s₀.parameters.map fun p => (p.member, p.type) := by
  rw [ownParameters, map_filter_parameters s s₀.names.contains, filter_members_of_sublist h,
    map_parameters]

theorem length_ownParameters (h : s₀.members.Sublist s.members) :
    (s₀.ownParameters s).length = s₀.parameters.length := by
  have hlength := congrArg List.length (map_ownParameters h)
  rwa [List.length_map, List.length_map] at hlength

/-- The parameters of a constructor made for the part, paired with those that the whole selection
has for the same members. -/
def ownRows (s₀ s : Selection) : List (Parameter × GeneratedParameter) :=
  (s₀.parameters.map (·.accepted false)).zip (s₀.ownParameters s)

theorem getElem?_ownRows (h : s₀.members.Sublist s.members) {i : Nat}
    {row : Parameter × GeneratedParameter} (hrow : (s₀.ownRows s)[i]? = some row) :
    ∃ q, s₀.parameters[i]? = some q ∧ row.1 = q.accepted false ∧ row.2 ∈ s.parameters ∧
      row.2.member = q.member ∧ row.2.type = q.type := by
  obtain ⟨hfst, hsnd⟩ := List.getElem?_zip_eq_some.1 hrow
  rw [List.getElem?_map] at hfst
  obtain ⟨q, hq, hq'⟩ := Option.map_eq_some_iff.1 hfst
  have hpair := congrArg (·[i]?) (map_ownParameters h)
  simp only [List.getElem?_map, hsnd, hq, Option.map_some, Option.some.injEq,
    Prod.mk.injEq] at hpair
  exact ⟨q, hq, hq'.symm, (List.mem_filter.1 (List.mem_of_getElem? hsnd)).1, hpair⟩

theorem isNormal_name (hascii : ∀ name ∈ s.names, ParameterName.IsAscii name.toList)
    {p : GeneratedParameter} (hp : p ∈ s.parameters) : ParameterName.IsNormal p.name.toList := by
  have hmember : p.member ∈ s.names := by
    rw [← map_member_parameters]
    exact List.mem_map_of_mem hp
  have hbase := ParameterName.isNormal_ofMember (hascii p.member hmember)
  rcases bare_or_numbered hp with hbare | ⟨n, hnumbered⟩
  · rw [hbare]
    exact hbase
  · rw [hnumbered]
    exact ParameterName.isNormal_numbered hbase n

/-- Where the names are ASCII, a parameter fits by name only members of its own base, and only if it
took no number: a numbered name is its own base, and no selected member's. -/
theorem bare_of_named (hascii : ∀ name ∈ s.names, ParameterName.IsAscii name.toList)
    {p q : GeneratedParameter} (hp : p ∈ s.parameters) (hq : q ∈ s.parameters)
    (h : p.name = q.member ∨ p.name = ParameterName.ofMember q.member) :
    p.name = ParameterName.ofMember p.member ∧
      ParameterName.ofMember q.member = ParameterName.ofMember p.member := by
  have hbase : p.name = ParameterName.ofMember q.member := by
    rcases h with hmember | hbase
    -- The name is normal, so the member called like it has it as its base.
    · rw [← hmember, ParameterName.ofMember_of_isNormal (isNormal_name hascii hp)]
    · exact hbase
  have hbare := bare_of_name_eq hp hq hbase
  exact ⟨hbare, hbase.symm.trans hbare⟩

theorem isTarget_of_sublist (h : s₀.members.Sublist s.members) (hsome : ¬ s₀.isEmpty)
    (hproper : s₀.members ≠ s.members) {c : Constructor} (hassigned : c.assigned = s₀.nameSet) :
    s.IsTarget c := by
  have hnames : s₀.nameSet ⊆ s.nameSet := by
    intro name hname
    rw [mem_nameSet] at hname ⊢
    exact (h.map _).subset hname
  rw [IsTarget, hassigned]
  refine ⟨?_, hnames.ssubset_of_ne ?_⟩
  · rw [Finset.nonempty_iff_ne_empty]
    exact fun hempty => hsome (s₀.isEmpty_iff_nameSet.2 hempty)
  · intro heq
    have hsize : s₀.size = s.size := by rw [size_eq_card, size_eq_card, heq]
    exact hproper (h.eq_of_length hsize)

end Selection

open Delegation

/-- The call of a constructor with the parameters of `s₀` that passes on, at each position, the
parameter that `s` has for the same member. -/
structure Wires (s₀ s : Selection) (args : List DelegateArgument) : Prop where
  length : args.length = s₀.size
  passes : ∀ (i : Nat) (m : Member), s₀.members[i]? = some m →
    ∃ q p, s₀.parameters[i]? = some q ∧ p ∈ s.parameters ∧ p.member = m.name ∧
      args[i]? = some ⟨i, q.name, some m.name, some p.name⟩

theorem getElem?_arguments_own {s s₀ : Selection} (h : s₀.members.Sublist s.members)
    (hascii : ∀ name ∈ s₀.names, ParameterName.IsAscii name.toList) {c : Constructor}
    (hparameters : c.parameters = s₀.parameters.map (·.accepted false))
    (hassigned : c.assigned = s₀.nameSet) (i : Nat) :
    (arguments c s.parameters)[i]? = (s₀.ownRows s)[i]?.map fun row =>
      ⟨i, row.1.name, some row.2.member, some row.2.name⟩ := by
  have hlength : (s₀.parameters.map (·.accepted false)).length = (s₀.ownParameters s).length := by
    rw [List.length_map, Selection.length_ownParameters h]
  apply arguments_own
  · rw [hparameters, Selection.ownRows, List.map_fst_zip hlength.le]
  · rw [Selection.candidates_eq_own hassigned, Selection.ownRows, List.map_snd_zip hlength.ge]
  · intro row hrow
    obtain ⟨j, hj⟩ := List.getElem?_of_mem hrow
    obtain ⟨q, _, hq, _⟩ := Selection.getElem?_ownRows h hj
    rw [hq]
    rfl
  · intro row hrow
    obtain ⟨j, hj⟩ := List.getElem?_of_mem hrow
    obtain ⟨q, _, hq, _, _, htype⟩ := Selection.getElem?_ownRows h hj
    rw [hq, htype]
    rfl
  · intro j k row row' hj hk hnamed
    obtain ⟨q, hq, hrow, _, hmember, _⟩ := Selection.getElem?_ownRows h hj
    obtain ⟨q', hq', _, _, hmember', _⟩ := Selection.getElem?_ownRows h hk
    have hname : q.name = q'.member ∨ q.name = ParameterName.ofMember q'.member := by
      simpa [isNamedFor, hrow, hmember', GeneratedParameter.accepted] using hnamed
    obtain ⟨hbare, hsame⟩ := Selection.bare_of_named hascii (List.mem_of_getElem? hq)
      (List.mem_of_getElem? hq') hname
    refine ⟨?_, Selection.le_of_bare hq hq' hbare hsame⟩
    simp [isNamedFor, hrow, hmember, GeneratedParameter.accepted, hbare]

theorem wires_arguments {s s₀ : Selection} (h : s₀.members.Sublist s.members)
    (hascii : ∀ name ∈ s₀.names, ParameterName.IsAscii name.toList) {c : Constructor}
    (hparameters : c.parameters = s₀.parameters.map (·.accepted false))
    (hassigned : c.assigned = s₀.nameSet) : Wires s₀ s (arguments c s.parameters) := by
  refine ⟨?_, ?_⟩
  · rw [length_arguments, hparameters, List.length_map, s₀.length_parameters]
  · intro i m hm
    have hpair := congrArg (·[i]?) s₀.map_parameters
    simp only [List.getElem?_map, hm, Option.map_some] at hpair
    obtain ⟨q, hq, hqm⟩ := Option.map_eq_some_iff.1 hpair
    obtain ⟨hi, _⟩ := List.getElem?_eq_some_iff.1 hq
    have hrow : i < (s₀.ownRows s).length := by
      rw [Selection.ownRows, List.length_zip, List.length_map, Selection.length_ownParameters h,
        Nat.min_self]
      exact hi
    obtain ⟨q', hq', hfst, hp, hmember, _⟩ :=
      Selection.getElem?_ownRows h (List.getElem?_eq_getElem hrow)
    obtain rfl := Option.some.inj (hq.symm.trans hq')
    have hname : q.member = m.name := congrArg Prod.fst hqm
    refine ⟨q, _, hq, hp, hmember.trans hname, ?_⟩
    rw [getElem?_arguments_own h hascii hparameters hassigned, List.getElem?_eq_getElem hrow,
      Option.map_some, hfst, hmember, hname]
    rfl

/-- A constructor planned for some of the selected members and accepted without annotations is
delegated to as it was planned: at each position it gets the parameter for the member that its own
parameter there initializes. Where it is the type's only constructor, the plans are the assigning
one and the one that delegates so. -/
theorem own_delegate_wired {s s₀ : Selection} (hpart : s₀.members.Sublist s.members)
    (hsome : ¬ s₀.isEmpty) (hproper : s₀.members ≠ s.members)
    (hascii : ∀ name ∈ s₀.names, ParameterName.IsAscii name.toList) {c : Constructor}
    (hparameters : c.parameters = s₀.parameters.map (·.accepted false))
    (hassigned : c.assigned = s₀.nameSet) :
    Wires s₀ s (arguments c s.parameters) ∧
      ∀ (o : Options) (t : TypeSnapshot) (explicit : List Member), o.offerDelegation →
        t.constructors = [c] → Selection.resolution o t explicit = .ok s →
        (tryPlan o t explicit .never).result =
          .ok [.fieldAssign s.parameters,
            .delegateThenAssign c s.parameters (arguments c s.parameters)
              (s.parameters.filter (·.member ∉ s₀.names))] := by
  refine ⟨wires_arguments hpart hascii hparameters hassigned, ?_⟩
  intro o t explicit hoffer honly hresolved
  have htarget := Selection.isTarget_of_sublist hpart hsome hproper hassigned
  have hmem (d : Constructor) : d ∈ t.constructors ↔ d = c := by
    rw [honly, List.mem_singleton]
  have hplanned := tryPlan_planned hresolved
  generalize (tryPlan o t explicit .never).result = answer at hplanned
  cases hplanned with
  | parameterless empty =>
    rw [Selection.isEmpty, List.isEmpty_iff] at empty
    rw [empty, List.sublist_nil] at hpart
    exact absurd (List.isEmpty_iff.2 hpart) hsome
  | present _ mem same =>
    rw [(hmem _).1 mem] at same
    exact absurd same htarget.2.ne
  | assigning _ _ no_delegate => exact absurd htarget (no_delegate hoffer c ((hmem c).2 rfl))
  | @delegating i _ _ _ _ =>
    have hi : t.constructors[i] = c := (hmem _).1 (List.getElem_mem i.isLt)
    rw [hi, Selection.delegation]
    simp only [← Constructor.mem_assigned, hassigned, List.contains_eq_mem, Selection.mem_nameSet,
      decide_not]

/-- A constructor planned for the first and the last member of a ticket. -/
def ticketDelegate : Constructor where
  declarationOrder := 0
  parameters := [⟨"id", "int", none⟩, ⟨"id2", "int", none⟩]
  assignedMembers := ["Id", "_id"]

/-- A type all of whose members get the same parameter name, and with it other numbers than they
have in the constructor for two of them. -/
def ticket : TypeSnapshot where
  name := "Ticket"
  kind := .structType
  members := [
    { name := "Id", type := "int", kind := .field, declarationOrder := 0 },
    { name := "id", type := "int", kind := .field, declarationOrder := 1 },
    { name := "_id", type := "int", kind := .field, declarationOrder := 2 }]
  constructors := [ticketDelegate]

theorem own_delegate_wired_ticket :
    Wires (.ofMembers (ticket.members.eraseIdx 1)) (.ofMembers ticket.members)
        (arguments ticketDelegate (Selection.ofMembers ticket.members).parameters) ∧
      Selection.resolution {} ticket [] = .ok (.ofMembers ticket.members) ∧
      (tryPlan {} ticket [] .never).result =
        .ok [.fieldAssign (Selection.ofMembers ticket.members).parameters,
          .delegateThenAssign ticketDelegate (Selection.ofMembers ticket.members).parameters
            (arguments ticketDelegate (Selection.ofMembers ticket.members).parameters)
            ((Selection.ofMembers ticket.members).parameters.filter
              (·.member ∉ (Selection.ofMembers (ticket.members.eraseIdx 1)).names))] := by
  have hpart : (Selection.ofMembers (ticket.members.eraseIdx 1)).members.Sublist
      (Selection.ofMembers ticket.members).members := by decide
  have hsome : ¬ (Selection.ofMembers (ticket.members.eraseIdx 1)).isEmpty := by decide
  have hproper : (Selection.ofMembers (ticket.members.eraseIdx 1)).members ≠
      (Selection.ofMembers ticket.members).members := by decide
  have hascii : ∀ name ∈ (Selection.ofMembers (ticket.members.eraseIdx 1)).names,
      ParameterName.IsAscii name.toList := by decide
  have hparameters : ticketDelegate.parameters =
      (Selection.ofMembers (ticket.members.eraseIdx 1)).parameters.map (·.accepted false) := by
    cbv
  have hassigned : ticketDelegate.assigned =
      (Selection.ofMembers (ticket.members.eraseIdx 1)).nameSet := by decide
  have hresolved : Selection.resolution {} ticket [] = .ok (.ofMembers ticket.members) := by cbv
  obtain ⟨hwires, hplans⟩ :=
    own_delegate_wired hpart hsome hproper hascii hparameters hassigned
  exact ⟨hwires, hresolved, hplans {} ticket [] rfl rfl hresolved⟩

example : (arguments ticketDelegate (Selection.ofMembers ticket.members).parameters).map
    (fun a => (a.delegateParameter, a.parameter)) = [("id", some "id"), ("id2", some "id3")] := by
  cbv

end ConstructorPlanning
