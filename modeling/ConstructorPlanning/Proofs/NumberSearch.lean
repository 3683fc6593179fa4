import ConstructorPlanning.Proofs.Naming
/-!
The search for a free number, followed without any bound on its steps. At every entry of every list
it comes to an end, at a number that the length of the list bounds; so a counter of 32 bits does for
all lists whose length it can hold.
-/
namespace ConstructorPlanning.ParameterName

/-- Counting up from `n`, a search passes occupied names and stops at `k`. Each number that it comes
to has to fit its counter. -/
inductive Search (fits : Nat → Prop) (occupied : List String) (base : String) : Nat → Nat → Prop
    where
  | stop {n : Nat} (room : fits n) (free : numbered base n ∉ occupied) :
      Search fits occupied base n n
  | next {n k : Nat} (room : fits n) (blocked : numbered base n ∈ occupied)
      (rest : Search fits occupied base (n + 1) k) : Search fits occupied base n k

/-- Entries for the bases in `rest`, which follow `before`, made one after the other, with a search
for each base that has come before. -/
inductive NamedInTurn (fits : Nat → Prop) (bases : List String) :
    List Naming → List String → List Naming → Prop where
  | done {before : List Naming} : NamedInTurn fits bases before [] []
  | first {before after : List Naming} {base : String} {rest : List String}
      (new : base ∉ before.map (·.base))
      (later : NamedInTurn fits bases (before ++ [⟨base, base⟩]) rest after) :
      NamedInTurn fits bases before (base :: rest) (⟨base, base⟩ :: after)
  | repeated {before after : List Naming} {base : String} {rest : List String} {k : Nat}
      (old : base ∈ before.map (·.base))
      (found : Search fits (bases ++ before.map (·.name)) base 2 k)
      (later : NamedInTurn fits bases (before ++ [⟨base, numbered base k⟩]) rest after) :
      NamedInTurn fits bases before (base :: rest) (⟨base, numbered base k⟩ :: after)

section Search

variable {fits : Nat → Prop} {occupied : List String} {base : String}

theorem search_of_blocked {n k : Nat} (hle : n ≤ k)
    (hblocked : ∀ m, n ≤ m → m < k → numbered base m ∈ occupied)
    (hfree : numbered base k ∉ occupied) (hfits : ∀ m, n ≤ m → m ≤ k → fits m) :
    Search fits occupied base n k := by
  obtain ⟨d, rfl⟩ := Nat.exists_eq_add_of_le hle
  -- on the numbers that are still to be passed
  induction d generalizing n with
  | zero => exact .stop (hfits n le_rfl le_rfl) hfree
  | succ d ih =>
    refine .next (hfits n le_rfl hle) (hblocked n le_rfl (by omega)) ?_
    have hsum : n + (d + 1) = n + 1 + d := by omega
    rw [hsum] at hblocked hfree hfits ⊢
    refine ih (by omega) ?_ hfree ?_
    · intro m hm
      exact hblocked m (by omega)
    · intro m hm
      exact hfits m (by omega)

/-- A search ends in one way only. -/
theorem Search.unique {n k k' : Nat} (h : Search fits occupied base n k)
    (h' : Search fits occupied base n k') : k = k' := by
  induction h with
  | stop _ free =>
    cases h' with
    | stop => rfl
    | next _ blocked => exact absurd blocked free
  | next _ blocked _ ih =>
    cases h' with
    | stop _ free => exact absurd blocked free
    | next _ _ rest => exact ih rest

/-- The search for the least free number stops there. -/
theorem search_of_isLeast {bases given : List String} {k : Nat}
    (h : IsLeast (freeNumbers bases given base) k) (hfits : ∀ m, 2 ≤ m → m ≤ k → fits m) :
    Search fits (bases ++ given) base 2 k := by
  obtain ⟨⟨htwo, hbases, hgiven⟩, hleast⟩ := h
  refine search_of_blocked htwo ?_ ?_ hfits
  · intro m hm hlt
    by_contra hfree
    rw [List.mem_append, not_or] at hfree
    exact Nat.not_le.2 hlt (hleast ⟨hm, hfree⟩)
  · rw [List.mem_append, not_or]
    exact ⟨hbases, hgiven⟩

end Search

/-- At an entry whose base an earlier entry has, the search stops at the number that the entry is
given, if the counter has room for the length of the list. -/
theorem Settled.search_nextNumber {fits : Nat → Prop} {bases rest : List String}
    {before : List Naming} {base : String} (h : Settled bases before)
    (hsplit : bases = before.map (·.base) ++ base :: rest)
    (hrepeated : base ∈ before.map (·.base)) (hfits : ∀ m, 2 ≤ m → m ≤ bases.length → fits m) :
    Search fits (bases ++ before.map (·.name)) base 2 (nextNumber bases before base) := by
  have hsmall := (h.nextNumber_free hsplit hrepeated).1
  apply search_of_isLeast (h.isLeast_nextNumber hsplit hrepeated)
  intro m hm hle
  exact hfits m hm (hle.trans hsmall)

/-- Entries made in turn are those that the bounded search makes. -/
theorem namedInTurn_namingsAfter {fits : Nat → Prop} {bases rest : List String}
    {before : List Naming} (h : Settled bases before)
    (hsplit : bases = before.map (·.base) ++ rest)
    (hfits : ∀ m, 2 ≤ m → m ≤ bases.length → fits m) :
    NamedInTurn fits bases before rest (namingsAfter bases before rest) := by
  induction rest generalizing before with
  | nil => exact .done
  | cons base rest ih =>
    have hstep := h.step hsplit
    rw [namingsAfter]
    by_cases hrepeated : base ∈ before.map (·.base)
    · rw [next_of_repeated hrepeated] at hstep ⊢
      refine .repeated hrepeated (h.search_nextNumber hsplit hrepeated hfits) (ih hstep ?_)
      rw [List.map_append, List.append_assoc]
      exact hsplit
    · rw [next_of_new hrepeated] at hstep ⊢
      refine .first hrepeated (ih hstep ?_)
      rw [List.map_append, List.append_assoc]
      exact hsplit

theorem namedInTurn_ofMembers {fits : Nat → Prop} {memberNames : List String}
    (hfits : ∀ m, 2 ≤ m → m ≤ memberNames.length → fits m) :
    NamedInTurn fits (basesOf memberNames) [] (basesOf memberNames) (ofMembers memberNames) := by
  refine namedInTurn_namingsAfter (settled_front (List.nil_append _).symm) rfl ?_
  rwa [basesOf, List.length_map]

/-- Wherever a base comes again, the search for its number ends, at a number from 2 up to the length
of the list. So naming in turn ends on every list, and on a list of fewer than 2 ^ 32 members no
search comes to a number that 32 bits cannot hold. -/
theorem numbering_ends (memberNames : List String) :
    (∀ (i : Nat) (base : String), (basesOf memberNames)[i]? = some base →
      base ∈ (basesOf memberNames).take i →
        ∃ k, 2 ≤ k ∧ k ≤ memberNames.length ∧
          (namesOf memberNames)[i]? = some (numbered base k) ∧
          ∀ stop, Search (fun _ => True) (basesOf memberNames ++ (namesOf memberNames).take i) base
            2 stop ↔ stop = k) ∧
      NamedInTurn (fun _ => True) (basesOf memberNames) [] (basesOf memberNames)
        (ofMembers memberNames) ∧
      (memberNames.length < 2 ^ 32 →
        NamedInTurn (· < 2 ^ 32) (basesOf memberNames) [] (basesOf memberNames)
          (ofMembers memberNames)) := by
  refine ⟨?_, namedInTurn_ofMembers fun _ _ _ => trivial, ?_⟩
  · intro i base hbase hrepeated
    obtain ⟨front, n, back, hsplit, rfl, hn, hfront⟩ := exists_naming hbase
    have hearlier : (basesOf memberNames).take i = front.map (·.base) := by
      rw [hfront, List.map_take, map_base_namings]
    rw [hearlier] at hrepeated
    have hsettled := settled_front hsplit
    have hbases := bases_split hsplit
    have hsmall := (hsettled.nextNumber_free hbases hrepeated).1
    have hsearch := hsettled.search_nextNumber hbases hrepeated fun _ _ _ => trivial
    have hname : (namesOf memberNames)[i]? = some n.name := by
      rw [namesOf, List.getElem?_map]
      exact congrArg _ hn
    have hnext := namings_split hsplit
    rw [next_of_repeated hrepeated] at hnext
    rw [hname, take_namesOf, ← hfront]
    refine ⟨nextNumber (basesOf memberNames) front n.base, le_freeNumber _ _ _ 2, ?_, ?_, ?_⟩
    · rwa [basesOf, List.length_map] at hsmall
    · exact congrArg (some ·.name) hnext
    · intro stop
      constructor
      · intro h
        exact h.unique hsearch
      · rintro rfl
        exact hsearch
  · intro hlength
    apply namedInTurn_ofMembers
    intro m _ hle
    exact hle.trans_lt hlength

theorem numbering_ends_crossing :
    (basesOf crossingMembers)[5]? = some "a2" ∧ "a2" ∈ (basesOf crossingMembers).take 5 ∧
      crossingMembers.length < 2 ^ 32 ∧
      (∃ k, 2 ≤ k ∧ k ≤ crossingMembers.length ∧
        (namesOf crossingMembers)[5]? = some (numbered "a2" k) ∧
        ∀ stop, Search (fun _ => True)
          (basesOf crossingMembers ++ (namesOf crossingMembers).take 5) "a2" 2 stop ↔ stop = k) ∧
      NamedInTurn (· < 2 ^ 32) (basesOf crossingMembers) [] (basesOf crossingMembers)
        (ofMembers crossingMembers) := by
  have hbases : basesOf crossingMembers = ["a", "a22", "a", "a2", "a", "a2"] := by
    decide +kernel
  have hbase : (basesOf crossingMembers)[5]? = some "a2" := by rw [hbases]; rfl
  have hrepeated : "a2" ∈ (basesOf crossingMembers).take 5 := by simp [hbases]
  have hlength : crossingMembers.length < 2 ^ 32 := by decide
  obtain ⟨hends, _, hword⟩ := numbering_ends crossingMembers
  exact ⟨hbase, hrepeated, hlength, hends 5 "a2" hbase hrepeated, hword hlength⟩

end ConstructorPlanning.ParameterName
