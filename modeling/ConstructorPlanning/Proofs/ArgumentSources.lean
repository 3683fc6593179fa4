import ConstructorPlanning.Proofs.Binding
import ConstructorPlanning.Proofs.NameSet
/-!
Where the arguments of a delegating call come from. Each argument passes on one of the generated
parameters or none, and no generated parameter is passed on twice. Parameters are told apart by
their places alone, so that two that agree in everything count as two.
-/
namespace ConstructorPlanning

namespace Delegation

variable {delegate : Constructor} {ps : List GeneratedParameter}

/-- The generated parameters for members that the delegate assigns, with their places in `ps`. -/
def placedCandidates (delegate : Constructor) (ps : List GeneratedParameter) : List Candidate :=
  ps.zipIdx.filter fun (p, _) => delegate.assignedMembers.contains p.member

/-- The place in `ps` of the parameter that is bound to the delegate's parameter at place `i`. -/
def source? (delegate : Constructor) (ps : List GeneratedParameter) (i : Nat) : Option Nat := do
  let slot ← (bindSlots delegate ps)[i]?
  let candidate ← slot.bound
  let placed ← (placedCandidates delegate ps)[candidate.2]?
  return placed.2

section Places

theorem map_fst_placedCandidates (delegate : Constructor) (ps : List GeneratedParameter) :
    (placedCandidates delegate ps).map (·.1) =
      ps.filter fun p => delegate.assignedMembers.contains p.member := by
  have hplaced := List.filter_map (f := Prod.fst) (l := ps.zipIdx)
    (p := fun p : GeneratedParameter => delegate.assignedMembers.contains p.member)
  rw [List.zipIdx_map_fst] at hplaced
  exact hplaced.symm

/-- A candidate has its place among all generated parameters. -/
theorem placed_of_mem_candidates {c : Candidate} (h : c ∈ candidates delegate ps) :
    ∃ k, (placedCandidates delegate ps)[c.2]? = some (c.1, k) ∧ ps[k]? = some c.1 := by
  rw [mem_candidates, ← map_fst_placedCandidates, List.getElem?_map] at h
  obtain ⟨⟨p, k⟩, hplaced, rfl⟩ := Option.map_eq_some_iff.1 h
  have hmem := (List.mem_filter.1 (List.mem_of_getElem? hplaced)).1
  exact ⟨k, hplaced, List.mem_zipIdx_iff_getElem?.1 hmem⟩

theorem nodup_places (delegate : Constructor) (ps : List GeneratedParameter) :
    ((placedCandidates delegate ps).map (·.2)).Nodup := by
  have hsublist : ((placedCandidates delegate ps).map (·.2)).Sublist (ps.zipIdx.map (·.2)) :=
    List.filter_sublist.map _
  rw [List.zipIdx_map_snd] at hsublist
  exact hsublist.nodup (List.nodup_range' ..)

theorem length_candidates (delegate : Constructor) (ps : List GeneratedParameter) :
    (candidates delegate ps).length = ps.countP fun p => decide (p.member ∈ delegate.assigned) := by
  rw [candidates, List.length_zipIdx, ← List.countP_eq_length_filter]
  simp only [List.contains_eq_mem, Constructor.mem_assigned]

end Places

section Once

theorem length_taken_le (delegate : Constructor) (ps : List GeneratedParameter) :
    (taken (bindSlots delegate ps)).length ≤ (candidates delegate ps).length := by
  have hwired := wired_bindSlots delegate ps
  have hplaces : taken (bindSlots delegate ps) ⊆ List.range (candidates delegate ps).length := by
    intro n hn
    obtain ⟨slot, hslot, c, hbound, rfl⟩ := mem_taken.1 hn
    obtain ⟨hc, _⟩ := hwired.bound_able slot hslot c hbound
    rw [List.mem_range, candidates, List.length_zipIdx]
    exact (List.getElem?_eq_some_iff.1 (mem_candidates.1 hc)).1
  simpa using (hwired.nodup_taken.subperm hplaces).length_le

theorem countP_arguments (delegate : Constructor) (ps : List GeneratedParameter) :
    (arguments delegate ps).countP (·.parameter.isSome) =
      (taken (bindSlots delegate ps)).length := by
  rw [taken, List.length_filterMap_eq_countP, arguments, List.countP_map]
  have hfst := List.countP_map (p := fun slot : Slot => slot.bound.isSome)
    (f := Prod.fst) (l := (bindSlots delegate ps).zipIdx)
  rw [List.zipIdx_map_fst] at hfst
  simpa [Function.comp_def, argument] using hfst.symm

end Once

section Sources

theorem source?_of_open {i : Nat} {slot : Slot} (h : (bindSlots delegate ps)[i]? = some slot)
    (hopen : slot.bound = none) : source? delegate ps i = none := by
  simp [source?, h, hopen]

theorem source?_of_bound {i k : Nat} {slot : Slot} {c : Candidate}
    (h : (bindSlots delegate ps)[i]? = some slot) (hbound : slot.bound = some c)
    (hplaced : (placedCandidates delegate ps)[c.2]? = some (c.1, k)) :
    source? delegate ps i = some k := by
  simp [source?, h, hbound, hplaced]

theorem bound_of_source? {i k : Nat} (h : source? delegate ps i = some k) :
    ∃ slot c, (bindSlots delegate ps)[i]? = some slot ∧ slot.bound = some c ∧
      ((placedCandidates delegate ps).map (·.2))[c.2]? = some k := by
  obtain ⟨slot, hslot, h⟩ := Option.bind_eq_some_iff.1 h
  obtain ⟨c, hbound, h⟩ := Option.bind_eq_some_iff.1 h
  obtain ⟨placed, hplaced, h⟩ := Option.bind_eq_some_iff.1 h
  refine ⟨slot, c, hslot, hbound, ?_⟩
  rw [List.getElem?_map, hplaced]
  exact h

theorem source?_inj {i j k : Nat} (hi : source? delegate ps i = some k)
    (hj : source? delegate ps j = some k) : i = j := by
  obtain ⟨a, c, ha, hac, hc⟩ := bound_of_source? hi
  obtain ⟨b, d, hb, hbd, hd⟩ := bound_of_source? hj
  obtain ⟨hlt, _⟩ := List.getElem?_eq_some_iff.1 hc
  have hplace : c.2 = d.2 := (List.getElem?_inj hlt (nodup_places delegate ps)).1 (hc.trans hd.symm)
  exact (wired_bindSlots delegate ps).once i j a b c d ha hb hac hbd hplace

end Sources

end Delegation

/-- What an argument says if it passes on the generated parameter at a place of `ps`, one for a
member that the delegate assigns, or if it passes on none. -/
def DelegateArgument.ComesFrom (a : DelegateArgument) (delegate : Constructor)
    (ps : List GeneratedParameter) : Option Nat → Prop
  | some k => ∃ p, ps[k]? = some p ∧ p.member ∈ delegate.assigned ∧
      a.member = some p.member ∧ a.parameter = some p.name
  | none => a.member = none ∧ a.parameter = none

namespace Delegation

/-- The arguments stand for the delegate's parameters one by one, and each comes from its own place
among the generated parameters or from none. -/
structure Sourced (delegate : Constructor) (ps : List GeneratedParameter)
    (source : Nat → Option Nat) (args : List DelegateArgument) : Prop where
  length : args.length = delegate.parameters.length
  entry : ∀ (i : Nat) (q : Parameter), delegate.parameters[i]? = some q →
    ∃ a, args[i]? = some a ∧ a.position = i ∧ a.delegateParameter = q.name ∧
      a.ComesFrom delegate ps (source i)
  once : ∀ i j k, source i = some k → source j = some k → i = j
  bound_le : args.countP (·.parameter.isSome) ≤
    min delegate.parameters.length (ps.countP fun p => p.member ∈ delegate.assigned)

/-- Binding is sound and injective, whatever the delegate's parameters and the generated ones repeat
of members, names and types. -/
theorem arguments_sourced (delegate : Constructor) (ps : List GeneratedParameter) :
    Sourced delegate ps (source? delegate ps) (arguments delegate ps) where
  length := length_arguments delegate ps
  entry := by
    intro i q hq
    obtain ⟨slot, hslot, rfl⟩ := slot_of_parameter.1 hq
    refine ⟨argument slot i, ?_, rfl, rfl, ?_⟩
    · rw [getElem?_arguments, hslot, Option.map_some]
    · cases hbound : slot.bound with
      | none =>
        rw [source?_of_open hslot hbound]
        simp [DelegateArgument.ComesFrom, argument, hbound]
      | some c =>
        obtain ⟨hc, _⟩ :=
          (wired_bindSlots delegate ps).bound_able slot (List.mem_of_getElem? hslot) c hbound
        obtain ⟨k, hplaced, hk⟩ := placed_of_mem_candidates hc
        have hassigned := Constructor.mem_assigned.2 (candidate_mem hc).2
        rw [source?_of_bound hslot hbound hplaced]
        exact ⟨c.1, hk, hassigned, by simp [argument, hbound], by simp [argument, hbound]⟩
  once := fun _ _ _ hi hj => source?_inj hi hj
  bound_le := by
    apply le_min
    · rw [← length_arguments delegate ps]
      exact List.countP_le_length
    · rw [countP_arguments, ← length_candidates]
      exact length_taken_le delegate ps

-- Of two parameters that are the same in everything, each is passed on for itself.
example :
    let id : GeneratedParameter := ⟨"id", "int", "Id"⟩
    let delegate : Constructor := {
      declarationOrder := 0
      parameters := [⟨"first", "int", none⟩, ⟨"second", "int", none⟩, ⟨"third", "int", none⟩]
      assignedMembers := ["Id"] }
    [0, 1, 2].map (source? delegate [id, ⟨"tax", "int", "Tax"⟩, id]) = [some 0, some 2, none] := by
  cbv

end Delegation

end ConstructorPlanning
