import ConstructorPlanning.Proofs.Binding
import ConstructorPlanning.Proofs.PlanningOutcome
/-!
What becomes of each generated parameter in a delegating plan: it is passed on, assigned or left
out, and never used twice. It is left out where the delegate assigns its member but has no parameter
free to take it.
-/
namespace ConstructorPlanning

namespace Delegation

def passedNames (arguments : List DelegateArgument) : List String :=
  arguments.filterMap (·.parameter)

/-- How often a delegating call and the assignments after it use a parameter. -/
def uses (arguments : List DelegateArgument) (residual : List GeneratedParameter)
    (p : GeneratedParameter) : Nat :=
  (passedNames arguments).count p.name + residual.count p

section Passed

variable {delegate : Constructor} {ps : List GeneratedParameter}

theorem getElem?_arguments_eq_some {i : Nat} {a : DelegateArgument} :
    (arguments delegate ps)[i]? = some a ↔
      ∃ slot, (bindSlots delegate ps)[i]? = some slot ∧ argument slot i = a := by
  rw [getElem?_arguments, Option.map_eq_some_iff]

/-- What is passed on are the bound candidates, slot by slot. -/
theorem passedNames_arguments (delegate : Constructor) (ps : List GeneratedParameter) :
    passedNames (arguments delegate ps) =
      ((bindSlots delegate ps).filterMap (·.bound)).map (·.1.name) := by
  have hslots := List.filterMap_map (f := Prod.fst) (l := (bindSlots delegate ps).zipIdx)
    (g := fun slot => slot.bound.map (·.1.name))
  rw [List.zipIdx_map_fst] at hslots
  rw [passedNames, arguments, List.filterMap_map, List.map_filterMap]
  exact hslots.symm

variable (hnames : (ps.map (·.name)).Nodup)
include hnames

theorem eq_of_name {p q : GeneratedParameter} (hp : p ∈ ps) (hq : q ∈ ps) (h : p.name = q.name) :
    p = q :=
  List.inj_on_of_nodup_map hnames hp hq h

theorem mem_passedNames {p : GeneratedParameter} (hp : p ∈ ps) :
    p.name ∈ passedNames (arguments delegate ps) ↔
      ∃ slot ∈ bindSlots delegate ps, ∃ n, slot.bound = some (p, n) := by
  rw [passedNames_arguments, List.mem_map]
  constructor
  · rintro ⟨⟨q, n⟩, hpassed, hname⟩
    obtain ⟨slot, hslot, hbound⟩ := List.mem_filterMap.1 hpassed
    obtain ⟨hcandidate, _⟩ := (wired_bindSlots delegate ps).bound_able slot hslot _ hbound
    obtain rfl := eq_of_name hnames (candidate_mem hcandidate).1 hp hname
    exact ⟨slot, hslot, n, hbound⟩
  · rintro ⟨slot, hslot, n, hbound⟩
    exact ⟨(p, n), List.mem_filterMap.2 ⟨slot, hslot, hbound⟩, rfl⟩

theorem assigned_of_mem_passedNames {p : GeneratedParameter} (hp : p ∈ ps)
    (h : p.name ∈ passedNames (arguments delegate ps)) : p.member ∈ delegate.assignedMembers := by
  obtain ⟨slot, hslot, n, hbound⟩ := (mem_passedNames hnames hp).1 h
  obtain ⟨hcandidate, _⟩ := (wired_bindSlots delegate ps).bound_able slot hslot _ hbound
  exact (candidate_mem hcandidate).2

/-- No parameter is passed on at two positions. -/
theorem nodup_passedNames : (passedNames (arguments delegate ps)).Nodup := by
  have hwired := wired_bindSlots delegate ps
  have hbound : ((bindSlots delegate ps).filterMap (·.bound)).Nodup := by
    have htaken := hwired.nodup_taken
    rw [taken, ← List.map_filterMap] at htaken
    exact List.Nodup.of_map _ htaken
  rw [passedNames_arguments]
  refine List.Nodup.map_on ?_ hbound
  intro c hc d hd hname
  obtain ⟨a, ha, hac⟩ := List.mem_filterMap.1 hc
  obtain ⟨b, hb, hbd⟩ := List.mem_filterMap.1 hd
  obtain ⟨hc', _⟩ := hwired.bound_able a ha c hac
  obtain ⟨hd', _⟩ := hwired.bound_able b hb d hbd
  have hsame := eq_of_name hnames (candidate_mem hc').1 (candidate_mem hd').1 hname
  exact eq_of_parameter (List.Nodup.of_map _ hnames) hc' hd' hsame

/-- A parameter whose member the delegate assigns is not passed on exactly if every parameter of the
delegate that can take it has been given another one. -/
theorem not_mem_passedNames_iff {p : GeneratedParameter} (hp : p ∈ ps)
    (hassigned : p.member ∈ delegate.assignedMembers) :
    p.name ∉ passedNames (arguments delegate ps) ↔
      ∀ (i : Nat) q, delegate.parameters[i]? = some q → canTake q p → ∃ p' ∈ ps, p' ≠ p ∧
        (arguments delegate ps)[i]? = some ⟨i, q.name, some p'.member, some p'.name⟩ := by
  have hwired := wired_bindSlots delegate ps
  rw [mem_passedNames hnames hp]
  constructor
  · intro hunused i q hq hcan
    obtain ⟨⟨q, bound⟩, hslot, rfl⟩ := slot_of_parameter.1 hq
    cases bound with
    | none =>
      -- The candidate is taken, but no slot is bound to it.
      obtain ⟨n, hn⟩ := exists_candidate hp hassigned
      obtain ⟨j, other, hj, hbound, _⟩ :=
        hwired.bound_of_taken hn (bindSlots_open hslot rfl hn hcan)
      exact absurd ⟨other, List.mem_of_getElem? hj, n, hbound⟩ hunused
    | some c =>
      obtain ⟨hc, _⟩ := hwired.bound_able _ (List.mem_of_getElem? hslot) c rfl
      refine ⟨c.1, (candidate_mem hc).1, ?_, getElem?_arguments_eq_some.2 ⟨_, hslot, rfl⟩⟩
      rintro rfl
      exact hunused ⟨_, List.mem_of_getElem? hslot, c.2, rfl⟩
  · rintro hothers ⟨slot, hslot, n, hbound⟩
    obtain ⟨i, hi⟩ := List.getElem?_of_mem hslot
    obtain ⟨_, hcan⟩ := hwired.bound_able slot hslot _ hbound
    obtain ⟨p', hp', hne, harg⟩ := hothers i _ (slot_of_parameter.2 ⟨slot, hi, rfl⟩) hcan
    obtain ⟨_, hslot', heq⟩ := getElem?_arguments_eq_some.1 harg
    obtain rfl := Option.some.inj (hi.symm.trans hslot')
    have hname : some p.name = some p'.name := by
      have hparameter := congrArg DelegateArgument.parameter heq
      rwa [argument, hbound] at hparameter
    exact hne (eq_of_name hnames hp' hp (Option.some.inj hname).symm)

end Passed

end Delegation

open Delegation

theorem delegating_mem_plans {o : Options} {t : TypeSnapshot} {explicit : List Member}
    {signal : Signal} {plans : List Plan} (h : (tryPlan o t explicit signal).result = .ok plans)
    {d : Constructor} {ps : List GeneratedParameter} {args : List DelegateArgument}
    {rest : List GeneratedParameter} (hplan : .delegateThenAssign d ps args rest ∈ plans) :
    (ps.map (·.name)).Nodup ∧ args = arguments d ps ∧
      rest = ps.filter fun p => !d.assignedMembers.contains p.member := by
  obtain ⟨s, _, hplanned⟩ := planned_of_tryPlan_ok h
  cases hplanned with
  | parameterless => cases List.mem_singleton.1 hplan
  | assigning => cases List.mem_singleton.1 hplan
  | delegating =>
    rcases List.mem_cons.1 hplan with heq | hin
    · cases heq
    · cases List.mem_singleton.1 hin
      exact ⟨s.nodup_name_parameters, rfl, rfl⟩

/-- A delegating plan uses no parameter twice. It assigns those whose member the delegate does not,
and uses each of the others unless every parameter of the delegate that can take it has been given
another one. -/
theorem delegating_plan_uses {o : Options} {t : TypeSnapshot} {explicit : List Member}
    {signal : Signal} {plans : List Plan} (h : (tryPlan o t explicit signal).result = .ok plans)
    {d : Constructor} {ps : List GeneratedParameter} {args : List DelegateArgument}
    {rest : List GeneratedParameter} (hplan : .delegateThenAssign d ps args rest ∈ plans)
    {p : GeneratedParameter} (hp : p ∈ ps) :
    uses args rest p ≤ 1 ∧ (p ∈ rest ↔ p.member ∉ d.assigned) ∧
      (uses args rest p = 0 ↔ p.member ∈ d.assigned ∧
        ∀ (i : Nat) q, d.parameters[i]? = some q → canTake q p → ∃ p' ∈ ps, p' ≠ p ∧
          args[i]? = some ⟨i, q.name, some p'.member, some p'.name⟩) := by
  obtain ⟨hnames, rfl, rfl⟩ := delegating_mem_plans h hplan
  have hrest : p ∈ ps.filter (fun p => !d.assignedMembers.contains p.member) ↔
      p.member ∉ d.assigned := by
    rw [List.mem_filter, Constructor.mem_assigned]
    simp [hp]
  refine ⟨?_, hrest, ?_⟩
  · have hpassed : (passedNames (arguments d ps)).Nodup := nodup_passedNames hnames
    have hresidual := (List.Nodup.of_map _ hnames).filter
      fun p => !d.assignedMembers.contains p.member
    by_cases hassigned : p.member ∈ d.assigned
    · rw [uses, List.count_eq_zero.2 fun hin => hrest.1 hin hassigned]
      exact List.nodup_iff_count_le_one.1 hpassed p.name
    · have hunpassed : p.name ∉ passedNames (arguments d ps) := fun hin =>
        hassigned (Constructor.mem_assigned.2 (assigned_of_mem_passedNames hnames hp hin))
      rw [uses, List.count_eq_zero.2 hunpassed, Nat.zero_add]
      exact List.nodup_iff_count_le_one.1 hresidual p
  · rw [uses, Nat.add_eq_zero_iff, List.count_eq_zero, List.count_eq_zero, hrest,
      Decidable.not_not, and_comm]
    refine and_congr_right fun hassigned => ?_
    exact not_mem_passedNames_iff hnames hp (Constructor.mem_assigned.1 hassigned)

/-- The tax of an invoice is not used: its constructor has but one parameter, which takes the total.
-/
theorem not_every_parameter_used :
    ¬ ∀ (o : Options) (t : TypeSnapshot) (explicit : List Member) (signal : Signal)
      (plans : List Plan) (d : Constructor) (ps : List GeneratedParameter)
      (args : List DelegateArgument) (rest : List GeneratedParameter),
      (tryPlan o t explicit signal).result = .ok plans →
      .delegateThenAssign d ps args rest ∈ plans → ∀ p ∈ ps, uses args rest p = 1 := by
  intro hall
  have hplan : invoiceDelegation ∈ [.fieldAssign invoiceParameters, invoiceDelegation] := by simp
  have htax : ⟨"tax", "decimal", "Tax"⟩ ∈ invoiceParameters := by decide
  have hused := hall {} invoice [] .never _ _ _ _ _ tryPlan_invoice hplan _ htax
  exact absurd hused (by decide)

theorem delegating_plan_uses_invoice :
    (tryPlan {} invoice [] .never).result =
        .ok [.fieldAssign invoiceParameters, invoiceDelegation] ∧
      ⟨"tax", "decimal", "Tax"⟩ ∈ invoiceParameters ∧
      uses [⟨0, "amount", some "Total", some "total"⟩]
        [⟨"id", "int", "Id"⟩, ⟨"id2", "string", "id"⟩] ⟨"tax", "decimal", "Tax"⟩ = 0 := by
  have hplan : invoiceDelegation ∈ [.fieldAssign invoiceParameters, invoiceDelegation] := by simp
  have htax : ⟨"tax", "decimal", "Tax"⟩ ∈ invoiceParameters := by decide
  obtain ⟨_, _, hunused⟩ := delegating_plan_uses tryPlan_invoice hplan htax
  refine ⟨tryPlan_invoice, htax, hunused.2 ⟨by decide, ?_⟩⟩
  intro i q hq _
  cases i with
  | zero =>
    cases hq
    exact ⟨⟨"total", "decimal", "Total"⟩, by decide, by decide, rfl⟩
  | succ i => cases hq

end ConstructorPlanning
