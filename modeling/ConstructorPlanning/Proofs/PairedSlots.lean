import ConstructorPlanning.Proofs.Binding
/-!
Passes over slots that are paired with the candidates. As long as no parameter takes an earlier
parameter's candidate while that one is open, the slots that get bound are bound to their own.
-/
namespace ConstructorPlanning.Delegation

/-- The slot of a delegate's parameter, bound or not to the candidate it is paired with. -/
def ownSlot (bound : Parameter → GeneratedParameter → Bool) (row : Parameter × GeneratedParameter)
    (i : Nat) : Slot :=
  ⟨row.1, if bound row.1 row.2 then some (row.2, i) else none⟩

/-- The slots of parameters, of which some are bound, each to the candidate it is paired with. -/
def ownSlots (bound : Parameter → GeneratedParameter → Bool)
    (rows : List (Parameter × GeneratedParameter)) : List Slot :=
  rows.zipIdx.map fun (row, i) => ownSlot bound row i

section Own

variable {rows : List (Parameter × GeneratedParameter)}
  {bound fits : Parameter → GeneratedParameter → Bool}

theorem getElem?_ownSlots (i : Nat) :
    (ownSlots bound rows)[i]? = rows[i]?.map fun row => ownSlot bound row i := by
  rw [ownSlots, List.getElem?_map, List.getElem?_zipIdx, Option.map_map, Nat.zero_add]
  rfl

theorem mem_taken_take_ownSlots {n i : Nat} : n ∈ taken ((ownSlots bound rows).take i) ↔
    n < i ∧ ∃ row, rows[n]? = some row ∧ bound row.1 row.2 := by
  rw [mem_taken]
  constructor
  · rintro ⟨slot, hslot, c, hbound, rfl⟩
    obtain ⟨j, hj⟩ := List.getElem?_of_mem hslot
    rw [List.getElem?_take] at hj
    split at hj
    · rename_i hlt
      rw [getElem?_ownSlots] at hj
      obtain ⟨row, hrow, rfl⟩ := Option.map_eq_some_iff.1 hj
      rw [ownSlot] at hbound
      split at hbound
      · rename_i hrow_bound
        cases hbound
        exact ⟨hlt, row, hrow, hrow_bound⟩
      · cases hbound
    · cases hj
  · rintro ⟨hlt, row, hrow, hbound⟩
    refine ⟨⟨row.1, some (row.2, n)⟩, List.mem_of_getElem? (i := n) ?_, _, rfl, rfl⟩
    rw [List.getElem?_take_of_lt hlt, getElem?_ownSlots, hrow, Option.map_some, ownSlot,
      if_pos hbound]

theorem mem_taken_ownSlots {n : Nat} : n ∈ taken (ownSlots bound rows) ↔
    ∃ row, rows[n]? = some row ∧ bound row.1 row.2 := by
  have hall : (ownSlots bound rows).take (n + 1 + rows.length) = ownSlots bound rows := by
    apply List.take_of_length_le
    rw [ownSlots, List.length_map, List.length_zipIdx]
    omega
  rw [← hall, mem_taken_take_ownSlots, and_iff_right (by omega)]

/-- The candidate paired with a parameter is the first fit if it is free and every fitting one
before it is used. -/
theorem firstFit_own {used : List Nat} {i : Nat} {p : Parameter} {g : GeneratedParameter}
    (hrow : rows[i]? = some (p, g)) (hfits : fits p g) (hfree : i ∉ used)
    (hbefore : ∀ j row, j < i → rows[j]? = some row → fits p row.2 → j ∈ used) :
    firstFit fits (rows.map (·.2)).zipIdx used p = some (g, i) := by
  obtain ⟨hi, heq⟩ := List.getElem?_eq_some_iff.1 hrow
  rw [firstFit, List.find?_eq_some_iff_getElem]
  refine ⟨by simp [hfree, hfits], i, by simpa using hi, by simp [heq], ?_⟩
  intro j hj
  have hused := hbefore j rows[j] hj (List.getElem?_eq_getElem _)
  simpa [imp_iff_not_or, or_comm] using hused

/-- Settling an open slot of this kind binds it to its own candidate or leaves it open. -/
theorem settled_ownSlot {used : List Nat} {i : Nat} {row : Parameter × GeneratedParameter}
    (hrow : rows[i]? = some row) (hfree : ¬ bound row.1 row.2 → i ∉ used)
    (hown : ∀ (j : Nat) (row' : Parameter × GeneratedParameter), rows[j]? = some row' →
      ¬ bound row.1 row.2 → fits row.1 row'.2 → fits row.1 row.2 ∧ (j < i → j ∈ used)) :
    (ownSlot bound row i).settled fits (rows.map (·.2)).zipIdx used =
      ownSlot (fun p c => bound p c || fits p c) row i := by
  rw [Slot.settled, ownSlot, ownSlot]
  by_cases hbound : bound row.1 row.2
  · rw [if_pos hbound, if_pos (by rw [hbound, Bool.true_or]), Option.some_or]
  · rw [if_neg hbound, Option.none_or]
    by_cases hfits : fits row.1 row.2
    · rw [if_pos (by rw [hfits, Bool.or_true]), firstFit_own hrow hfits (hfree hbound)]
      intro j row' hlt hrow' hfits'
      exact (hown j row' hrow' hbound hfits').2 hlt
    · rw [if_neg (by simp [hbound, hfits])]
      cases hfirst : firstFit fits (rows.map (·.2)).zipIdx used row.1 with
      | none => rfl
      | some c =>
        obtain ⟨hc, _, hfits'⟩ := firstFit_some _ _ hfirst
        rw [List.mem_zipIdx_iff_getElem?, List.getElem?_map] at hc
        obtain ⟨row', hrow', hc'⟩ := Option.map_eq_some_iff.1 hc
        rw [← hc'] at hfits'
        exact absurd (hown c.2 row' hrow' hbound hfits').1 hfits

/-- A pass over such slots binds further ones to their own candidates, provided that a parameter
which fits some candidate fits its own, and no earlier one that stays free. -/
theorem bindPass_ownSlots (h : ∀ (i j : Nat) (row row' : Parameter × GeneratedParameter),
      rows[i]? = some row → rows[j]? = some row' → ¬ bound row.1 row.2 → fits row.1 row'.2 →
      fits row.1 row.2 ∧ (j < i → bound row'.1 row'.2 ∨ fits row'.1 row'.2)) :
    bindPass fits (rows.map (·.2)).zipIdx (ownSlots bound rows) =
      ownSlots (fun p c => bound p c || fits p c) rows := by
  let after := ownSlots (fun p c => bound p c || fits p c) rows
  -- By induction on the place: the slots before it stand as claimed, which says what they took.
  apply List.ext_getElem?
  intro i
  induction i using Nat.strongRecOn with
  | ind i ih =>
    have htake : (bindPass fits (rows.map (·.2)).zipIdx (ownSlots bound rows)).take i =
        after.take i := by
      apply List.ext_getElem?
      intro j
      rw [List.getElem?_take, List.getElem?_take]
      split
      · exact ih j ‹_›
      · rfl
    rw [settled_bindPass, htake, getElem?_ownSlots, getElem?_ownSlots, Option.map_map]
    cases hrow : rows[i]? with
    | none => rfl
    | some row =>
      refine congrArg some (settled_ownSlot hrow ?_ ?_)
      · intro hbound
        rw [List.mem_append, mem_taken_ownSlots, mem_taken_take_ownSlots, hrow]
        rintro (⟨_, hsame, htaken⟩ | ⟨hlt, _⟩)
        · cases hsame
          exact hbound htaken
        · exact Nat.lt_irrefl i hlt
      · intro j row' hrow' hbound hfits
        obtain ⟨hfits_own, hearlier⟩ := h i j row row' hrow hrow' hbound hfits
        refine ⟨hfits_own, fun hlt => ?_⟩
        refine List.mem_append_right _ (mem_taken_take_ownSlots.2 ⟨hlt, row', hrow', ?_⟩)
        rw [Bool.or_eq_true]
        exact hearlier hlt

/-- A delegate whose parameters are paired with all candidates hands each its own, if they have no
annotation, are of the candidate's type, and take by name none but their own or a later one. -/
theorem arguments_own {delegate : Constructor} {ps : List GeneratedParameter}
    (hparameters : delegate.parameters = rows.map (·.1))
    (hcandidates : candidates delegate ps = (rows.map (·.2)).zipIdx)
    (hunannotated : ∀ row ∈ rows, row.1.member = none)
    (htyped : ∀ row ∈ rows, row.1.type = row.2.type)
    (hnamed : ∀ (i j : Nat) (row row' : Parameter × GeneratedParameter), rows[i]? = some row →
      rows[j]? = some row' → isNamedFor row.1 row'.2 → isNamedFor row.1 row.2 ∧ i ≤ j) (i : Nat) :
    (arguments delegate ps)[i]? =
      rows[i]?.map fun row => ⟨i, row.1.name, some row.2.member, some row.2.name⟩ := by
  have htyped' {k : Nat} {row : Parameter × GeneratedParameter} (hrow : rows[k]? = some row) :
      isTypedFor row.1 row.2 := by
    have hmem := List.mem_of_getElem? hrow
    simp [isTypedFor, hunannotated row hmem, htyped row hmem]
  have hopen : delegate.parameters.map (fun p => ({ parameter := p } : Slot)) =
      ownSlots (fun _ _ => false) rows := by
    apply List.ext_getElem?
    intro k
    rw [hparameters, getElem?_ownSlots, List.map_map, List.getElem?_map]
    rfl
  have hslots : (bindSlots delegate ps)[i]? = rows[i]?.map fun row => ⟨row.1, some (row.2, i)⟩ := by
    rw [bindSlots, hcandidates, hopen, bindPass_ownSlots, bindPass_ownSlots, bindPass_ownSlots,
      getElem?_ownSlots]
    · -- Each is bound after the pass by type.
      cases hrow : rows[i]? with
      | none => rfl
      | some row =>
        rw [Option.map_some, Option.map_some, ownSlot, htyped' hrow, Bool.or_true, if_pos rfl]
    · -- In the pass by type every open slot gets its own candidate, the earlier ones included.
      intro k j row row' hrow hrow' _ _
      exact ⟨htyped' hrow, fun _ => .inr (htyped' hrow')⟩
    · -- In the pass by name no slot reaches back to an earlier candidate.
      intro k j row row' hrow hrow' _ hfits
      obtain ⟨hself, hle⟩ := hnamed k j row row' hrow hrow' hfits
      exact ⟨hself, fun hlt => absurd hlt (Nat.not_lt.2 hle)⟩
    · -- Without annotations the first pass binds nothing.
      intro k j row row' hrow _ _ hfits
      simp [isAnnotatedFor, hunannotated row (List.mem_of_getElem? hrow)] at hfits
  rw [getElem?_arguments, hslots, Option.map_map]
  rfl

end Own

end ConstructorPlanning.Delegation
