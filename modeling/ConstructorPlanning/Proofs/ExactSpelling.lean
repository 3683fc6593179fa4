import Mathlib
import ConstructorPlanning.Proofs.BindingPreference
import ConstructorPlanning.Proofs.Parameters
/-!
Delegates whose parameters carry no annotations. Such a parameter gets the first member of its name
that is left when it is reached, and a member has two names: its own, and that in lower camel case.
So a parameter that is spelled exactly like a member can miss it in two ways, and only in these.
-/
namespace ConstructorPlanning.Delegation

/-- One of the delegate's parameters before place `i` is called `name`, and `p` goes to it. -/
def GoesBefore (delegate : Constructor) (args : List DelegateArgument) (i : Nat) (name : String)
    (p : GeneratedParameter) : Prop :=
  ∃ j < i, ∃ q, delegate.parameters[j]? = some q ∧ q.name = name ∧ Passes args j p

/-- The delegate assigns the member of `r`, which in lower camel case is spelled like that of `p`.
-/
def IsRival (delegate : Constructor) (p r : GeneratedParameter) : Prop :=
  r.member ∈ delegate.assigned ∧ ParameterName.ofMember r.member = p.member

variable {delegate : Constructor} {ps : List GeneratedParameter}

/-- The search for a candidate ends before one that fits, or everything before that one is used. -/
theorem firstFit_cases {fits : Parameter → GeneratedParameter → Bool} (cs more : List Candidate)
    {used : List Nat} {q : Parameter} {c : Candidate} (hc : fits q c.1) :
    (∃ d ∈ cs, d.2 ∉ used ∧ fits q d.1 ∧ firstFit fits (cs ++ c :: more) used q = some d) ∨
      (∀ d ∈ cs, fits q d.1 → d.2 ∈ used) ∧
        (firstFit fits (cs ++ c :: more) used q = some c ↔ c.2 ∉ used) := by
  have happend : firstFit fits (cs ++ c :: more) used q =
      (firstFit fits cs used q).or (firstFit fits (c :: more) used q) := List.find?_append
  rw [happend]
  cases hfirst : firstFit fits cs used q with
  | some d =>
    obtain ⟨hd, hleft, hfits⟩ := firstFit_some fits cs hfirst
    exact .inl ⟨d, hd, hleft, hfits, rfl⟩
  | none =>
    refine .inr ⟨fun d hd hfits => firstFit_none fits cs hfirst hd hfits, ?_⟩
    rw [Option.none_or]
    constructor
    · intro hsome
      exact (firstFit_some fits _ hsome).2.1
    · intro hleft
      apply List.find?_cons_of_pos
      simpa [hc] using hleft

/-- The candidates from the front of a list come first among those from the whole of it. -/
theorem candidates_split (front back : List GeneratedParameter) {p : GeneratedParameter}
    (hassigned : p.member ∈ delegate.assignedMembers) :
    ∃ n more, candidates delegate (front ++ p :: back) =
      candidates delegate front ++ (p, n) :: more := by
  have hp : delegate.assignedMembers.contains p.member := List.contains_iff_mem.2 hassigned
  simp only [candidates, List.filter_append, List.filter_cons, hp, if_true, List.zipIdx_append,
    List.zipIdx_cons]
  exact ⟨_, _, rfl⟩

theorem exists_candidate_of_assigned {r : GeneratedParameter} (hr : r ∈ ps)
    (hassigned : r.member ∈ delegate.assigned) : ∃ d ∈ candidates delegate ps, d.1 = r := by
  obtain ⟨n, hn⟩ := exists_candidate hr (Constructor.mem_assigned.1 hassigned)
  exact ⟨(r, n), hn, rfl⟩

/-- Where the delegate's parameters have distinct names, a name says which one it is. -/
theorem eq_of_parameter_name (named_apart : (delegate.parameters.map (·.name)).Nodup) {i j : Nat}
    {q q' : Parameter} (hq : delegate.parameters[i]? = some q)
    (hq' : delegate.parameters[j]? = some q') (h : q.name = q'.name) : i = j := by
  have hi : i < (delegate.parameters.map (·.name)).length := by
    rw [List.length_map]
    exact (List.getElem?_eq_some_iff.1 hq).1
  apply (List.getElem?_inj hi named_apart).1
  rw [List.getElem?_map, List.getElem?_map, hq, hq', Option.map_some, Option.map_some, h]

section ByName

variable (plain : ∀ q ∈ delegate.parameters, q.member = none)
include plain

theorem annotatedSlots_of_plain : annotatedSlots delegate ps = openSlots delegate := by
  apply List.ext_getElem?
  intro i
  rw [annotatedSlots, settled_bindPass]
  cases hslot : (openSlots delegate)[i]? with
  | none => rfl
  | some slot =>
    obtain ⟨q, hq, rfl⟩ := List.mem_map.1 (List.mem_of_getElem? hslot)
    have hnone (used : List Nat) :
        firstFit isAnnotatedFor (candidates delegate ps) used q = none := by
      apply List.find?_eq_none.2
      intro c _
      simp [isAnnotatedFor, plain q hq]
    rw [Option.map_some, Slot.settled, hnone]
    rfl

/-- In the pass by name each parameter gets the first candidate of its name that is left. -/
theorem getElem?_namedSlots (ps : List GeneratedParameter) {i : Nat} {q : Parameter}
    (hq : delegate.parameters[i]? = some q) :
    (namedSlots delegate ps)[i]? = some ⟨q, firstFit isNamedFor (candidates delegate ps)
      (taken ((namedSlots delegate ps).take i)) q⟩ := by
  have hopen : (annotatedSlots delegate ps)[i]? = some ⟨q, none⟩ := by
    rw [annotatedSlots_of_plain plain, openSlots, List.getElem?_map, hq]
    rfl
  have htaken : taken (annotatedSlots delegate ps) = [] := by
    rw [annotatedSlots_of_plain plain, taken_openSlots]
  have hsettled := settled_bindPass isNamedFor (candidates delegate ps)
    (annotatedSlots delegate ps) i
  rwa [hopen, htaken, List.nil_append] at hsettled

theorem named_of_bound {j : Nat} {slot : Slot} {c : Candidate}
    (h : (namedSlots delegate ps)[j]? = some slot) (hbound : slot.bound = some c) :
    delegate.parameters[j]? = some slot.parameter ∧ c ∈ candidates delegate ps ∧
      isNamedFor slot.parameter c.1 := by
  have hparameter := slot_of_parameter.2 ⟨slot, bindSlots_of_named h hbound, rfl⟩
  obtain ⟨hc, hable⟩ :=
    (wired_namedSlots delegate ps).bound_able slot (List.mem_of_getElem? h) c hbound
  have hnone := plain _ (List.mem_of_getElem? hparameter)
  exact ⟨hparameter, hc, by simpa [isAnnotatedFor, hnone] using hable⟩

variable (distinct : (ps.map (·.member)).Nodup)
include distinct

/-- A candidate goes to a parameter of its name only in the pass by name. -/
theorem passes_iff_named {j : Nat} {q : Parameter} (hq : delegate.parameters[j]? = some q)
    {c : Candidate} (hc : c ∈ candidates delegate ps) (hnamed : isNamedFor q c.1) :
    Passes (arguments delegate ps) j c.1 ↔
      firstFit isNamedFor (candidates delegate ps) (taken ((namedSlots delegate ps).take j)) q =
        some c := by
  have hslot := getElem?_namedSlots plain ps hq
  generalize firstFit isNamedFor (candidates delegate ps) _ q = bound at hslot ⊢
  rw [passes_iff distinct (candidate_mem hc).1]
  constructor
  · rintro ⟨slot, n, hj, hslotbound⟩
    have hd := ((wired_bindSlots delegate ps).bound_able slot (List.mem_of_getElem? hj) _
      hslotbound).1
    rw [eq_of_parameter (List.Nodup.of_map _ distinct) hd hc rfl] at hslotbound
    cases bound with
    | some d =>
      have hkept := bindSlots_of_named hslot rfl
      obtain rfl := Option.some.inj (hj.symm.trans hkept)
      exact hslotbound
    | none =>
      -- the slot that had the candidate after the pass by name is another one
      have htaken := (bindPass_open hslot rfl).2 _ hc hnamed
      obtain ⟨k, other, hk, hother, _⟩ :=
        (wired_namedSlots delegate ps).bound_of_taken hc htaken
      have hsame := (wired_bindSlots delegate ps).once k j other slot _ _
        (bindSlots_of_named hk hother) hj hother hslotbound rfl
      rw [hsame, hslot] at hk
      obtain rfl := Option.some.inj hk
      cases hother
  · rintro rfl
    exact ⟨_, c.2, bindSlots_of_named hslot rfl, rfl⟩

/-- What is taken by name before a place are the candidates that go to earlier parameters of their
name. -/
theorem mem_taken_named {i : Nat} {c : Candidate} (hc : c ∈ candidates delegate ps) :
    c.2 ∈ taken ((namedSlots delegate ps).take i) ↔
      ∃ j < i, ∃ q, delegate.parameters[j]? = some q ∧ NameMatches q c.1 ∧
        Passes (arguments delegate ps) j c.1 := by
  constructor
  · intro htaken
    obtain ⟨slot, hslot, d, hbound, hplace⟩ := mem_taken.1 htaken
    obtain ⟨j, hj⟩ := List.getElem?_of_mem hslot
    rw [List.getElem?_take] at hj
    split at hj
    · rename_i hlt
      obtain ⟨hq, hd, hnamed⟩ := named_of_bound plain hj hbound
      obtain rfl := eq_of_place hd hc hplace
      refine ⟨j, hlt, slot.parameter, hq, (isNamedFor_iff.1 hnamed).2, ?_⟩
      exact (passes_iff distinct (candidate_mem hd).1).2
        ⟨slot, d.2, bindSlots_of_named hj hbound, hbound⟩
    · cases hj
  · rintro ⟨j, hlt, q, hq, hname, hpasses⟩
    have hnamed : isNamedFor q c.1 :=
      isNamedFor_iff.2 ⟨plain q (List.mem_of_getElem? hq), hname⟩
    have hfirst := (passes_iff_named plain distinct hq hc hnamed).1 hpasses
    have hslot := getElem?_namedSlots plain ps hq
    rw [hfirst, ← List.getElem?_take_of_lt hlt] at hslot
    exact mem_taken.2 ⟨_, List.mem_of_getElem? hslot, c, rfl, rfl⟩

/-- Where no two parameters share a name, a candidate that the parameter at place `i` is named after
can have gone to an earlier one only under its other name. -/
theorem mem_taken_iff_goesBefore (named_apart : (delegate.parameters.map (·.name)).Nodup) {i : Nat}
    {q : Parameter} (hq : delegate.parameters[i]? = some q) {c : Candidate}
    (hc : c ∈ candidates delegate ps) (other : String)
    (hnames : ∀ q' : Parameter, NameMatches q' c.1 ↔ q'.name = q.name ∨ q'.name = other) :
    c.2 ∈ taken ((namedSlots delegate ps).take i) ↔
      GoesBefore delegate (arguments delegate ps) i other c.1 := by
  rw [mem_taken_named plain distinct hc]
  constructor
  · rintro ⟨j, hlt, q', hq', hname, hpasses⟩
    refine ⟨j, hlt, q', hq', ((hnames q').1 hname).resolve_left ?_, hpasses⟩
    intro hsame
    exact Nat.ne_of_lt hlt (eq_of_parameter_name named_apart hq' hq hsame)
  · rintro ⟨j, hlt, q', hq', hname, hpasses⟩
    exact ⟨j, hlt, q', hq', (hnames q').2 (.inr hname), hpasses⟩

end ByName

section Spelled

variable {s : Selection} {front back : List GeneratedParameter} {p : GeneratedParameter} {i : Nat}
  {q : Parameter}

theorem member_notMem_front (hsplit : s.parameters = front ++ p :: back) :
    p.member ∉ front.map (·.member) := by
  have hnodup := s.nodup_member_parameters
  rw [hsplit, List.map_append, List.map_cons, List.nodup_middle, List.nodup_cons] at hnodup
  exact fun hin => hnodup.1 (List.mem_append_left _ hin)

theorem member_eq_of_passes {args : List DelegateArgument} {r : GeneratedParameter}
    (hp : Passes args i p) (hr : Passes args i r) : p.member = r.member := by
  have hsame := Option.some.inj (hp.symm.trans hr)
  exact Option.some.inj (congrArg Prod.fst hsame)

/-- When the parameter that is spelled like the member of `p` is reached, either a rival is left
before `p`, and such a rival goes to it, or it gets `p` if `p` is left. -/
theorem rival_or_spelled (named_apart : (delegate.parameters.map (·.name)).Nodup)
    (plain : ∀ q ∈ delegate.parameters, q.member = none)
    (hsplit : s.parameters = front ++ p :: back) (hassigned : p.member ∈ delegate.assigned)
    (hq : delegate.parameters[i]? = some q) (hspelled : q.name = p.member) :
    (∃ r ∈ front, IsRival delegate p r ∧
      ¬ GoesBefore delegate (arguments delegate s.parameters) i r.member r ∧
        Passes (arguments delegate s.parameters) i r) ∨
      (∀ r ∈ front, IsRival delegate p r →
        GoesBefore delegate (arguments delegate s.parameters) i r.member r) ∧
        (Passes (arguments delegate s.parameters) i p ↔
          ¬ GoesBefore delegate (arguments delegate s.parameters) i
            (ParameterName.ofMember p.member) p) := by
  have distinct := s.nodup_member_parameters
  have hfree := plain q (List.mem_of_getElem? hq)
  obtain ⟨n, more, hcandidates⟩ :=
    candidates_split front back (Constructor.mem_assigned.1 hassigned)
  rw [← hsplit] at hcandidates
  have hp : (p, n) ∈ candidates delegate s.parameters := by
    rw [hcandidates]
    exact List.mem_append_right _ List.mem_cons_self
  have hmem {d : Candidate} (hd : d ∈ candidates delegate front) :
      d ∈ candidates delegate s.parameters := by
    rw [hcandidates]
    exact List.mem_append_left _ hd
  have hself := mem_taken_iff_goesBefore plain distinct named_apart hq hp
    (ParameterName.ofMember p.member) fun q' => by rw [hspelled]; rfl
  have hrival {d : Candidate} (hd : d ∈ candidates delegate front) (hr : IsRival delegate p d.1) :=
    mem_taken_iff_goesBefore plain distinct named_apart hq (hmem hd) d.1.member
      fun q' => by rw [hspelled, ← hr.2]; exact or_comm
  have hnamed : isNamedFor q p := isNamedFor_iff.2 ⟨hfree, .inl hspelled⟩
  have hpasses := passes_iff_named plain distinct hq hp hnamed
  rw [hcandidates] at hpasses
  rcases firstFit_cases (candidates delegate front) more (c := (p, n)) hnamed with
    ⟨d, hd, hleft, hnamed', hfirst⟩ | ⟨hgone, hfirst⟩
  · left
    obtain ⟨hin, hassigned'⟩ := candidate_mem hd
    have hname := (isNamedFor_iff.1 hnamed').2.resolve_left fun hsame =>
      member_notMem_front hsplit (List.mem_map.2 ⟨d.1, hin, hsame.symm.trans hspelled⟩)
    have hr : IsRival delegate p d.1 :=
      ⟨Constructor.mem_assigned.2 hassigned', hname.symm.trans hspelled⟩
    refine ⟨d.1, hin, hr, fun hbefore => hleft ((hrival hd hr).2 hbefore), ?_⟩
    rw [passes_iff_named plain distinct hq (hmem hd) hnamed', hcandidates]
    exact hfirst
  · right
    refine ⟨?_, hpasses.trans (hfirst.trans (not_congr hself))⟩
    intro r hin hr
    obtain ⟨d, hd, rfl⟩ := exists_candidate_of_assigned hin hr.1
    have hnamed' : isNamedFor q d.1 := isNamedFor_iff.2 ⟨hfree, .inr (hspelled.trans hr.2.symm)⟩
    exact (hrival hd hr).1 (hgone d hd hnamed')

end Spelled

/-- Where the delegate's parameters have distinct names and no annotations, one that is spelled
exactly like the member of `p` gets `p`, unless `p` has gone to an earlier one that is spelled like
the member in lower camel case, or a rival selected before `p` has not gone to an earlier one that
is spelled exactly like the rival. In the second case such a rival gets its place. -/
theorem exact_spelling_decided (s : Selection)
    (named_apart : (delegate.parameters.map (·.name)).Nodup)
    (plain : ∀ q ∈ delegate.parameters, q.member = none)
    {front back : List GeneratedParameter} {p : GeneratedParameter}
    (hsplit : s.parameters = front ++ p :: back) (hassigned : p.member ∈ delegate.assigned)
    {i : Nat} {q : Parameter} (hq : delegate.parameters[i]? = some q)
    (hspelled : q.name = p.member) :
    (Passes (arguments delegate s.parameters) i p ↔
      ¬ GoesBefore delegate (arguments delegate s.parameters) i
          (ParameterName.ofMember p.member) p ∧
        ∀ r ∈ front, IsRival delegate p r →
          GoesBefore delegate (arguments delegate s.parameters) i r.member r) ∧
      ∀ r ∈ front, IsRival delegate p r →
        ¬ GoesBefore delegate (arguments delegate s.parameters) i r.member r →
          ∃ r' ∈ front, IsRival delegate p r' ∧ Passes (arguments delegate s.parameters) i r' := by
  rcases rival_or_spelled named_apart plain hsplit hassigned hq hspelled with
    ⟨r, hin, hr, hleft, hpasses⟩ | ⟨hgone, hpasses⟩
  · refine ⟨⟨?_, fun h => absurd (h.2 r hin hr) hleft⟩, fun _ _ _ _ => ⟨r, hin, hr, hpasses⟩⟩
    intro hp
    have hsame := member_eq_of_passes hp hpasses
    exact absurd (List.mem_map.2 ⟨r, hin, hsame.symm⟩) (member_notMem_front hsplit)
  · refine ⟨⟨fun hp => ⟨hpasses.1 hp, hgone⟩, fun h => hpasses.2 h.1⟩, ?_⟩
    intro r hin hr hleft
    exact absurd (hgone r hin hr) hleft

/-- Members of which the second is spelled like the first in lower camel case. -/
def badge : Selection :=
  .ofMembers [
    { name := "Id", type := "int", kind := .field, declarationOrder := 0 },
    { name := "id", type := "string", kind := .property, declarationOrder := 1 },
    { name := "Owner", type := "string", kind := .field, declarationOrder := 2 }]

theorem parameters_badge : badge.parameters =
    [⟨"id", "int", "Id"⟩, ⟨"id2", "string", "id"⟩, ⟨"owner", "string", "Owner"⟩] := by
  cbv

def badgeDelegate : Constructor where
  declarationOrder := 0
  parameters := [⟨"Id", "int", none⟩, ⟨"id", "string", none⟩]
  assignedMembers := ["Id", "id"]

theorem exact_spelling_decided_badge :
    (badgeDelegate.parameters.map (·.name)).Nodup ∧
      (∀ q ∈ badgeDelegate.parameters, q.member = none) ∧
      badge.parameters =
        [⟨"id", "int", "Id"⟩] ++ ⟨"id2", "string", "id"⟩ :: [⟨"owner", "string", "Owner"⟩] ∧
      "id" ∈ badgeDelegate.assigned ∧
      badgeDelegate.parameters[1]? = some ⟨"id", "string", none⟩ ∧
      Passes (arguments badgeDelegate badge.parameters) 1 ⟨"id2", "string", "id"⟩ := by
  have named_apart : (badgeDelegate.parameters.map (·.name)).Nodup := by decide
  have plain : ∀ q ∈ badgeDelegate.parameters, q.member = none := by decide
  have hassigned : "id" ∈ badgeDelegate.assigned := by decide
  have hsplit : badge.parameters =
      [⟨"id", "int", "Id"⟩] ++ ⟨"id2", "string", "id"⟩ :: [⟨"owner", "string", "Owner"⟩] :=
    parameters_badge
  refine ⟨named_apart, plain, hsplit, hassigned, rfl, ?_⟩
  refine (exact_spelling_decided badge named_apart plain hsplit hassigned (i := 1) rfl rfl).1.2
    ⟨?_, ?_⟩
  · rintro ⟨j, hlt, q, hq, hname, _⟩
    obtain rfl := Nat.lt_one_iff.1 hlt
    obtain rfl := Option.some.inj hq
    have hlower : ParameterName.ofMember "id" = "id" := by decide +kernel
    rw [hlower] at hname
    exact absurd hname (by decide)
  · intro r hr _
    obtain rfl := List.mem_singleton.1 hr
    have hfirst : Passes (arguments badgeDelegate badge.parameters) 0 ⟨"id", "int", "Id"⟩ := by
      rw [parameters_badge]
      cbv
    exact ⟨0, Nat.one_pos, _, rfl, rfl, hfirst⟩

/-- Without a parameter for the first of the members, the one that is spelled like the second takes
the first. -/
theorem not_every_exact_spelling_wins :
    ¬ ∀ (s : Selection) (delegate : Constructor), (delegate.parameters.map (·.name)).Nodup →
      (∀ q ∈ delegate.parameters, q.member = none) →
      ∀ (i : Nat) (q : Parameter) (p : GeneratedParameter), delegate.parameters[i]? = some q →
        IsCandidate delegate s.parameters p → q.name = p.member →
          Passes (arguments delegate s.parameters) i p := by
  intro hall
  let loneDelegate : Constructor :=
    { badgeDelegate with parameters := [⟨"id", "string", none⟩] }
  have hcandidate : IsCandidate loneDelegate badge.parameters ⟨"id2", "string", "id"⟩ := by
    rw [parameters_badge]
    exact ⟨by decide, by decide⟩
  have hpasses := hall badge loneDelegate (by decide) (by decide) 0 _ _ rfl hcandidate rfl
  have harguments : arguments loneDelegate badge.parameters =
      [⟨0, "id", some "Id", some "id"⟩] := by
    rw [parameters_badge]
    cbv
  rw [harguments] at hpasses
  exact absurd hpasses (by simp [Passes])

end ConstructorPlanning.Delegation
