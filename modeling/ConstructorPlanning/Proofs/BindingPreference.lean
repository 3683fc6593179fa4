import ConstructorPlanning.Proofs.Binding
import ConstructorPlanning.Proofs.NameSet
/-!
Which generated parameter goes where in a delegating call. An annotation comes before a name and a
name before a type, wherever in the list of the delegate's parameters they stand; and no parameter
of the delegate is left open that something could still be passed for.
-/
namespace ConstructorPlanning.Delegation

/-- The generated parameter stands for a member that the delegate assigns. -/
def IsCandidate (delegate : Constructor) (ps : List GeneratedParameter) (p : GeneratedParameter) :
    Prop :=
  p ∈ ps ∧ p.member ∈ delegate.assigned

/-- The delegate's parameter is called like the member, or like the parameter for it alone. -/
def NameMatches (q : Parameter) (p : GeneratedParameter) : Prop :=
  q.name = p.member ∨ q.name = ParameterName.ofMember p.member

/-- The argument at place `i` passes the generated parameter on. -/
def Passes (args : List DelegateArgument) (i : Nat) (p : GeneratedParameter) : Prop :=
  args[i]?.map (fun a => (a.member, a.parameter)) = some (some p.member, some p.name)

/-- There is an argument at place `i`, and it passes nothing on. -/
def LeavesOpen (args : List DelegateArgument) (i : Nat) : Prop :=
  args[i]?.map (fun a => (a.member, a.parameter)) = some (none, none)

variable {delegate : Constructor} {ps : List GeneratedParameter}

section Rules

theorem isAnnotatedFor_iff {q : Parameter} {p : GeneratedParameter} :
    isAnnotatedFor q p ↔ q.member = some p.member :=
  decide_eq_true_iff

theorem isNamedFor_iff {q : Parameter} {p : GeneratedParameter} :
    isNamedFor q p ↔ q.member = none ∧ NameMatches q p := by
  simp [isNamedFor, NameMatches]

theorem isTypedFor_iff {q : Parameter} {p : GeneratedParameter} :
    isTypedFor q p ↔ q.member = none ∧ q.type = p.type := by
  simp [isTypedFor]

theorem canTake_of_unannotated {q : Parameter} {p : GeneratedParameter} (h : q.member = none) :
    canTake q p ↔ NameMatches q p ∨ q.type = p.type := by
  simp [canTake_iff, isAnnotatedFor_iff, isNamedFor_iff, isTypedFor_iff, h]

theorem canTake_of_annotated {q : Parameter} {p : GeneratedParameter} {m : String}
    (h : q.member = some m) : canTake q p ↔ p.member = m := by
  simp only [canTake_iff, isAnnotatedFor_iff, isNamedFor_iff, isTypedFor_iff, h,
    Option.some.injEq, reduceCtorEq, false_and, or_false]
  exact eq_comm

end Rules

section Candidates

theorem isCandidate_iff {p : GeneratedParameter} :
    IsCandidate delegate ps p ↔ ∃ n, (p, n) ∈ candidates delegate ps := by
  constructor
  · rintro ⟨hp, hassigned⟩
    exact exists_candidate hp (Constructor.mem_assigned.1 hassigned)
  · rintro ⟨n, hn⟩
    obtain ⟨hp, hassigned⟩ := candidate_mem hn
    exact ⟨hp, Constructor.mem_assigned.2 hassigned⟩

theorem leavesOpen_iff {i : Nat} : LeavesOpen (arguments delegate ps) i ↔
    ∃ slot, (bindSlots delegate ps)[i]? = some slot ∧ slot.bound = none := by
  rw [LeavesOpen, getElem?_arguments, Option.map_map, Option.map_eq_some_iff]
  simp [argument]

variable (distinct : (ps.map (·.member)).Nodup)
include distinct

theorem eq_of_member {p q : GeneratedParameter} (hp : p ∈ ps) (hq : q ∈ ps)
    (h : p.member = q.member) : p = q :=
  List.inj_on_of_nodup_map distinct hp hq h

theorem passes_iff {i : Nat} {p : GeneratedParameter} (hp : p ∈ ps) :
    Passes (arguments delegate ps) i p ↔
      ∃ slot n, (bindSlots delegate ps)[i]? = some slot ∧ slot.bound = some (p, n) := by
  rw [Passes, getElem?_arguments, Option.map_map, Option.map_eq_some_iff]
  constructor
  · rintro ⟨slot, hslot, hsays⟩
    obtain ⟨c, hbound, hmember⟩ := Option.map_eq_some_iff.1 (congrArg Prod.fst hsays)
    obtain ⟨hc, _⟩ :=
      (wired_bindSlots delegate ps).bound_able slot (List.mem_of_getElem? hslot) c hbound
    obtain rfl := eq_of_member distinct (candidate_mem hc).1 hp hmember
    exact ⟨slot, c.2, hslot, hbound⟩
  · rintro ⟨slot, n, hslot, hbound⟩
    exact ⟨slot, hslot, by simp [argument, hbound]⟩

end Candidates

section Slots

theorem bindSlots_of_named {i : Nat} {slot : Slot} {c : Candidate}
    (h : (namedSlots delegate ps)[i]? = some slot) (hbound : slot.bound = some c) :
    (bindSlots delegate ps)[i]? = some slot :=
  bindPass_of_bound h hbound

theorem map_parameter_annotatedSlots (delegate : Constructor) (ps : List GeneratedParameter) :
    (annotatedSlots delegate ps).map (·.parameter) = delegate.parameters := by
  rw [annotatedSlots, map_parameter_bindPass, openSlots, List.map_map]
  exact List.map_id _

/-- A slot that passes a candidate over in the first pass, though annotated for it, comes behind
another one that is annotated for it. -/
theorem annotated_before {i : Nat} {slot : Slot} (h : (annotatedSlots delegate ps)[i]? = some slot)
    (hopen : slot.bound = none) {c : Candidate} (hc : c ∈ candidates delegate ps)
    (hannotated : isAnnotatedFor slot.parameter c.1) :
    ∃ j < i, ∃ q, delegate.parameters[j]? = some q ∧ isAnnotatedFor q c.1 := by
  have hwired := wired_annotatedSlots delegate ps
  rcases (bindPass_passed h hopen).2 c hc hannotated with htaken | htaken
  · rw [taken_openSlots] at htaken
    cases htaken
  · obtain ⟨other, hother, d, hbound, hplace⟩ := mem_taken.1 htaken
    obtain ⟨hd, hable⟩ := hwired.bound_able other (List.mem_of_mem_take hother) d hbound
    obtain rfl := eq_of_place hd hc hplace
    obtain ⟨j, hj⟩ := List.getElem?_of_mem hother
    rw [List.getElem?_take] at hj
    split at hj
    · rename_i hlt
      refine ⟨j, hlt, other.parameter, ?_, hable⟩
      rw [← map_parameter_annotatedSlots delegate ps, List.getElem?_map]
      exact congrArg (Option.map (·.parameter)) hj
    · cases hj

/-- The first of the delegate's parameters that are annotated with a candidate's member gets the
candidate. -/
theorem bound_of_first_annotated (distinct : (ps.map (·.member)).Nodup) {i : Nat} {c : Candidate}
    (hc : c ∈ candidates delegate ps)
    (hfirst : delegate.parameters.findIdx? (fun q => q.member = some c.1.member) = some i) :
    ∃ slot, (bindSlots delegate ps)[i]? = some slot ∧ slot.bound = some c := by
  obtain ⟨hi, hmatch, hbefore⟩ := List.findIdx?_eq_some_iff_getElem.1 hfirst
  have hslots := congrArg (·[i]?) (map_parameter_annotatedSlots delegate ps)
  rw [List.getElem?_map, List.getElem?_eq_getElem hi] at hslots
  obtain ⟨slot, hslot, hparameter⟩ := Option.map_eq_some_iff.1 hslots
  have hannotated : isAnnotatedFor slot.parameter c.1 := by
    rw [hparameter]
    exact hmatch
  cases hbound : slot.bound with
  | none =>
    obtain ⟨j, hlt, q, hq, hannotated'⟩ := annotated_before hslot hbound hc hannotated
    obtain ⟨hj, rfl⟩ := List.getElem?_eq_some_iff.1 hq
    exact absurd hannotated' (hbefore j hlt)
  | some d =>
    -- The slot can only have taken what it is annotated for, and that is one candidate.
    obtain ⟨hd, hannotated'⟩ := (wired_annotatedSlots delegate ps).bound_able slot
      (List.mem_of_getElem? hslot) d hbound
    rw [isAnnotatedFor_iff] at hannotated hannotated'
    have hmember : d.1.member = c.1.member := Option.some.inj (hannotated'.symm.trans hannotated)
    have hsame : d.1 = c.1 :=
      eq_of_member distinct (candidate_mem hd).1 (candidate_mem hc).1 hmember
    obtain rfl := eq_of_parameter (List.Nodup.of_map _ distinct) hd hc hsame
    exact ⟨slot, bindSlots_of_named (bindPass_of_bound hslot hbound) hbound, hbound⟩

/-- A slot that is bound by its type alone was open after the pass by name, so that the candidates
of its name had gone to other slots. -/
theorem named_elsewhere {i : Nat} {slot : Slot} {c d : Candidate}
    (h : (bindSlots delegate ps)[i]? = some slot) (hbound : slot.bound = some c)
    (hother : ¬ (isAnnotatedFor slot.parameter c.1 || isNamedFor slot.parameter c.1))
    (hd : d ∈ candidates delegate ps) (hnamed : isNamedFor slot.parameter d.1) :
    ∃ (j : Nat) (slot' : Slot), j ≠ i ∧ (bindSlots delegate ps)[j]? = some slot' ∧
      slot'.bound = some d ∧
        (isAnnotatedFor slot'.parameter d.1 ∨ isNamedFor slot'.parameter d.1) := by
  have hwired := wired_namedSlots delegate ps
  have hbefore : (namedSlots delegate ps)[i]? = some ⟨slot.parameter, none⟩ := by
    apply bindPass_open_before h
    intro hslot
    exact hother (hwired.bound_able slot (List.mem_of_getElem? hslot) c hbound).2
  have htaken := (bindPass_open hbefore rfl).2 d hd hnamed
  obtain ⟨j, slot', hj, hbound', hable⟩ := hwired.bound_of_taken hd htaken
  refine ⟨j, slot', ?_, bindSlots_of_named hj hbound', hbound', Bool.or_eq_true_iff.1 hable⟩
  rintro rfl
  rw [hbefore] at hj
  cases hj
  cases hbound'

end Slots

/-- How the arguments of a call to the delegate use the parameters `ps`. -/
structure BindsByPreference (delegate : Constructor) (ps : List GeneratedParameter)
    (args : List DelegateArgument) : Prop where
  passes_or_open : ∀ (i : Nat) q, delegate.parameters[i]? = some q →
    LeavesOpen args i ∨ ∃ p, IsCandidate delegate ps p ∧ Passes args i p
  annotated_first : ∀ p, IsCandidate delegate ps p → ∀ i,
    delegate.parameters.findIdx? (fun q => q.member = some p.member) = some i → Passes args i p
  annotated_only : ∀ (i : Nat) q m, delegate.parameters[i]? = some q → q.member = some m →
    LeavesOpen args i ∨ ∃ p, IsCandidate delegate ps p ∧ p.member = m ∧ Passes args i p
  typed : ∀ (i : Nat) q p, delegate.parameters[i]? = some q → q.member = none →
    IsCandidate delegate ps p → Passes args i p → ¬ NameMatches q p →
    q.type = p.type ∧ ∀ p', IsCandidate delegate ps p' → NameMatches q p' →
      ∃ j ≠ i, Passes args j p' ∧ ∃ q', delegate.parameters[j]? = some q' ∧
        (q'.member = some p'.member ∨ q'.member = none ∧ NameMatches q' p')
  open_iff : ∀ (i : Nat) q, delegate.parameters[i]? = some q → q.member = none →
    (LeavesOpen args i ↔ ∀ p, IsCandidate delegate ps p → NameMatches q p ∨ q.type = p.type →
      ∃ j ≠ i, Passes args j p)

section Preference

variable (distinct : (ps.map (·.member)).Nodup)
include distinct

/-- An argument passes on a candidate that the delegate's parameter can take, or is left open. -/
theorem open_or_passes {i : Nat} {q : Parameter} (hq : delegate.parameters[i]? = some q) :
    LeavesOpen (arguments delegate ps) i ∨ ∃ p, IsCandidate delegate ps p ∧ canTake q p ∧
      Passes (arguments delegate ps) i p := by
  obtain ⟨slot, hslot, rfl⟩ := slot_of_parameter.1 hq
  cases hbound : slot.bound with
  | none => exact .inl (leavesOpen_iff.2 ⟨slot, hslot, hbound⟩)
  | some c =>
    obtain ⟨hc, hcan⟩ :=
      (wired_bindSlots delegate ps).bound_able slot (List.mem_of_getElem? hslot) c hbound
    have hcandidate : IsCandidate delegate ps c.1 := isCandidate_iff.2 ⟨c.2, hc⟩
    exact .inr ⟨c.1, hcandidate, hcan,
      (passes_iff distinct hcandidate.1).2 ⟨slot, c.2, hslot, hbound⟩⟩

theorem canTake_of_passes {i : Nat} {q : Parameter} {p : GeneratedParameter}
    (hq : delegate.parameters[i]? = some q) (hp : p ∈ ps)
    (h : Passes (arguments delegate ps) i p) : canTake q p := by
  obtain ⟨slot, n, hslot, hbound⟩ := (passes_iff distinct hp).1 h
  obtain ⟨slot', hslot', rfl⟩ := slot_of_parameter.1 hq
  obtain rfl := Option.some.inj (hslot'.symm.trans hslot)
  exact ((wired_bindSlots delegate ps).bound_able _ (List.mem_of_getElem? hslot) _ hbound).2

theorem passes_once {i j : Nat} {p : GeneratedParameter} (hp : p ∈ ps)
    (hi : Passes (arguments delegate ps) i p)
    (hj : Passes (arguments delegate ps) j p) : i = j := by
  obtain ⟨a, n, ha, han⟩ := (passes_iff distinct hp).1 hi
  obtain ⟨b, m, hb, hbm⟩ := (passes_iff distinct hp).1 hj
  have hwired := wired_bindSlots delegate ps
  obtain ⟨hc, _⟩ := hwired.bound_able a (List.mem_of_getElem? ha) _ han
  obtain ⟨hd, _⟩ := hwired.bound_able b (List.mem_of_getElem? hb) _ hbm
  have hsame := eq_of_parameter (List.Nodup.of_map _ distinct) hc hd rfl
  exact hwired.once i j a b _ _ ha hb han hbm (congrArg Prod.snd hsame)

/-- An argument that is left open leaves nothing behind: what the delegate's parameter could take
is passed on elsewhere. -/
theorem leavesOpen_iff_elsewhere {i : Nat} {q : Parameter}
    (hq : delegate.parameters[i]? = some q) :
    LeavesOpen (arguments delegate ps) i ↔ ∀ p, IsCandidate delegate ps p → canTake q p →
      ∃ j ≠ i, Passes (arguments delegate ps) j p := by
  constructor
  · intro hopen p hp hcan
    obtain ⟨slot, hslot, hbound⟩ := leavesOpen_iff.1 hopen
    obtain ⟨n, hn⟩ := isCandidate_iff.1 hp
    obtain ⟨slot', hslot', rfl⟩ := slot_of_parameter.1 hq
    obtain rfl := Option.some.inj (hslot'.symm.trans hslot)
    have htaken := bindSlots_open hslot hbound hn hcan
    obtain ⟨j, other, hj, hother, _⟩ := (wired_bindSlots delegate ps).bound_of_taken hn htaken
    refine ⟨j, ?_, (passes_iff distinct hp.1).2 ⟨other, n, hj, hother⟩⟩
    -- the slot that has the candidate is not the open one
    rintro rfl
    obtain rfl := Option.some.inj (hslot.symm.trans hj)
    rw [hbound] at hother
    cases hother
  · intro helsewhere
    rcases open_or_passes distinct hq with hopen | ⟨p, hp, hcan, hpasses⟩
    · exact hopen
    · obtain ⟨j, hne, hj⟩ := helsewhere p hp hcan
      exact absurd (passes_once distinct hp.1 hj hpasses) hne

/-- Where no member has two parameters, the arguments are bound by preference: a candidate goes to
the first parameter of the delegate that is annotated with its member, an annotated parameter takes
no other member, a parameter takes a candidate of its type alone only if those of its name went
elsewhere by annotation or by name, and it stays open exactly if all that it could take is passed on
elsewhere. -/
theorem arguments_by_preference : BindsByPreference delegate ps (arguments delegate ps) where
  passes_or_open := by
    intro i q hq
    rcases open_or_passes distinct hq with hopen | ⟨p, hp, _, hpasses⟩
    · exact .inl hopen
    · exact .inr ⟨p, hp, hpasses⟩
  annotated_first := by
    intro p hp i hfirst
    obtain ⟨n, hn⟩ := isCandidate_iff.1 hp
    obtain ⟨slot, hslot, hbound⟩ := bound_of_first_annotated distinct hn hfirst
    exact (passes_iff distinct hp.1).2 ⟨slot, n, hslot, hbound⟩
  annotated_only := by
    intro i q m hq hannotated
    rcases open_or_passes distinct hq with hopen | ⟨p, hp, hcan, hpasses⟩
    · exact .inl hopen
    · exact .inr ⟨p, hp, (canTake_of_annotated hannotated).1 hcan, hpasses⟩
  typed := by
    intro i q p hq hfree hp hpasses hname
    have hcan := canTake_of_passes distinct hq hp.1 hpasses
    refine ⟨((canTake_of_unannotated hfree).1 hcan).resolve_left hname, ?_⟩
    intro p' hp' hname'
    obtain ⟨n, hn⟩ := isCandidate_iff.1 hp'
    obtain ⟨slot, k, hslot, hbound⟩ := (passes_iff distinct hp.1).1 hpasses
    obtain ⟨slot', hslot', rfl⟩ := slot_of_parameter.1 hq
    obtain rfl := Option.some.inj (hslot'.symm.trans hslot)
    have hother : ¬ (isAnnotatedFor slot'.parameter p || isNamedFor slot'.parameter p) := by
      rw [Bool.or_eq_true, isAnnotatedFor_iff, isNamedFor_iff, hfree]
      simp [hname]
    obtain ⟨j, other, hne, hj, hbound', hable⟩ :=
      named_elsewhere hslot hbound hother hn (isNamedFor_iff.2 ⟨hfree, hname'⟩)
    refine ⟨j, hne, (passes_iff distinct hp'.1).2 ⟨other, n, hj, hbound'⟩, other.parameter,
      slot_of_parameter.2 ⟨other, hj, rfl⟩, ?_⟩
    exact hable.imp isAnnotatedFor_iff.1 isNamedFor_iff.1
  open_iff := by
    intro i q hq hfree
    rw [leavesOpen_iff_elsewhere distinct hq]
    simp only [canTake_of_unannotated hfree]

end Preference

/-- A constructor whose parameters compete: the first could take the tax by its type, the second and
the fourth are named after the same two members, of which the third is annotated with one. -/
def entryDelegate : Constructor where
  declarationOrder := 0
  parameters := [⟨"amount", "decimal", none⟩, ⟨"id", "int", none⟩, ⟨"key", "string", some "Id"⟩,
    ⟨"id", "int", none⟩, ⟨"tax", "string", none⟩]
  assignedMembers := ["Tax", "Total", "id", "Id"]

def entryParameters : List GeneratedParameter :=
  [⟨"id", "int", "Id"⟩, ⟨"id2", "int", "id"⟩, ⟨"total", "int", "Total"⟩, ⟨"tax", "decimal", "Tax"⟩]

theorem arguments_by_preference_entry :
    (entryParameters.map (·.member)).Nodup ∧
      BindsByPreference entryDelegate entryParameters
        (arguments entryDelegate entryParameters) := by
  have hdistinct : (entryParameters.map (·.member)).Nodup := by decide
  exact ⟨hdistinct, arguments_by_preference hdistinct⟩

example : (arguments entryDelegate entryParameters).map (·.member) =
    [none, some "id", some "Id", some "Total", some "Tax"] := by
  cbv

end ConstructorPlanning.Delegation
