import ConstructorPlanning.Planning.Synthesis
import ConstructorPlanning.Proofs.Naming
/-!
The parameters generated for a selection: one for each member, recognizable by the member's name.
-/
namespace ConstructorPlanning.Selection

/-- Members and types are copied, in the order of the selection. -/
theorem map_parameters (s : Selection) :
    (s.parameters.map fun p => (p.member, p.type)) = s.members.map fun m => (m.name, m.type) := by
  have hlength : s.members.length ≤ (ParameterName.ofMembers s.names).length := by
    have hbases := congrArg List.length
      (ParameterName.map_base_namings (s.names.map ParameterName.ofMember))
    simp only [List.length_map, names] at hbases
    exact hbases.ge
  rw [parameters, List.map_zipWith, ← List.map_uncurry_zip_eq_zipWith]
  change ((s.members.zip _).map ((fun m => (m.name, m.type)) ∘ Prod.fst)) = _
  rw [← List.map_map, List.map_fst_zip hlength]

/-- The parameters for the members of some names are the parameters for these members. -/
theorem map_filter_parameters (s : Selection) (p : String → Bool) :
    ((s.parameters.filter fun q => p q.member).map fun q => (q.member, q.type)) =
      (s.members.filter fun m => p m.name).map fun m => (m.name, m.type) := by
  let kept (entry : String × String) : Bool := p entry.1
  calc
    _ = (s.parameters.map fun q => (q.member, q.type)).filter kept := by
      rw [List.filter_map]
      rfl
    _ = (s.members.map fun m => (m.name, m.type)).filter kept := by rw [map_parameters]
    _ = (s.members.filter fun m => p m.name).map fun m => (m.name, m.type) := by
      rw [List.filter_map]
      rfl

theorem map_member_parameters (s : Selection) : s.parameters.map (·.member) = s.names := by
  have h := congrArg (List.map Prod.fst) s.map_parameters
  simp only [List.map_map] at h
  exact h

theorem length_parameters (s : Selection) : s.parameters.length = s.size := by
  have h := congrArg List.length s.map_parameters
  simp only [List.length_map] at h
  exact h

theorem nodup_member_parameters (s : Selection) : (s.parameters.map (·.member)).Nodup := by
  rw [map_member_parameters]
  exact s.nodup_names

/-- The names are those of the entries that the members have in their list. -/
theorem map_name_parameters (s : Selection) :
    s.parameters.map (·.name) = (ParameterName.ofMembers s.names).map (·.name) := by
  have hlength : (ParameterName.ofMembers s.names).length ≤ s.members.length := by
    have hbases := congrArg List.length
      (ParameterName.map_base_namings (s.names.map ParameterName.ofMember))
    simp only [List.length_map, names] at hbases
    exact hbases.le
  rw [parameters, List.map_zipWith, ← List.map_uncurry_zip_eq_zipWith]
  change ((s.members.zip _).map (ParameterName.Naming.name ∘ Prod.snd)) = _
  rw [← List.map_map, List.map_snd_zip hlength]

theorem nodup_name_parameters (s : Selection) : (s.parameters.map (·.name)).Nodup := by
  rw [map_name_parameters]
  exact ParameterName.nodup_names_namings _

/-- Each parameter with what its member would be called alone is an entry of the list of names. -/
theorem namings_eq (s : Selection) : ParameterName.ofMembers s.names =
    s.parameters.map fun p => ⟨ParameterName.ofMember p.member, p.name⟩ := by
  have hbases : (ParameterName.ofMembers s.names).map (·.base) =
      s.parameters.map fun p => ParameterName.ofMember p.member := by
    rw [ParameterName.ofMembers, ParameterName.map_base_namings, ← map_member_parameters,
      List.map_map]
    rfl
  apply List.ext_getElem?
  intro i
  have hbase := congrArg (·[i]?) hbases
  have hname := congrArg (·[i]?) s.map_name_parameters
  simp only [List.getElem?_map] at hbase hname ⊢
  cases hp : s.parameters[i]? with
  | none =>
    rw [hp] at hbase
    exact Option.map_eq_none_iff.1 hbase
  | some p =>
    rw [hp] at hbase hname
    obtain ⟨n, hn, hb⟩ := Option.map_eq_some_iff.1 hbase
    rw [hn] at hname ⊢
    obtain ⟨base, name⟩ := n
    cases hb
    cases hname
    rfl

/-- The entry of a parameter is settled by the entries of the parameters before it. -/
theorem entry_of_split {s : Selection} {front back : List GeneratedParameter}
    {p : GeneratedParameter} (h : s.parameters = front ++ p :: back) :
    (⟨ParameterName.ofMember p.member, p.name⟩ : ParameterName.Naming) =
      ParameterName.Naming.next (s.names.map ParameterName.ofMember)
        (front.map fun q => ⟨ParameterName.ofMember q.member, q.name⟩)
        (ParameterName.ofMember p.member) := by
  have hsplit := s.namings_eq
  rw [h, List.map_append, List.map_cons, ParameterName.ofMembers] at hsplit
  exact ParameterName.namings_split hsplit

/-- The first parameter of its base is called as its member would be alone, every later one takes a
number after that. -/
theorem bare_or_numbered_of_split {s : Selection} {front back : List GeneratedParameter}
    {p : GeneratedParameter} (h : s.parameters = front ++ p :: back) :
    (∀ q ∈ front, ParameterName.ofMember q.member ≠ ParameterName.ofMember p.member) ∧
        p.name = ParameterName.ofMember p.member ∨
      ∃ n, p.name = ParameterName.numbered (ParameterName.ofMember p.member) n := by
  have hnext := congrArg ParameterName.Naming.name (entry_of_split h)
  by_cases hrepeated : ParameterName.ofMember p.member ∈
      (front.map fun q => (⟨ParameterName.ofMember q.member, q.name⟩ : ParameterName.Naming)).map
        (·.base)
  · rw [ParameterName.next_of_repeated hrepeated] at hnext
    exact .inr ⟨_, hnext⟩
  · rw [ParameterName.next_of_new hrepeated] at hnext
    refine .inl ⟨?_, hnext⟩
    intro q hq hsame
    apply hrepeated
    rw [List.map_map]
    exact List.mem_map.2 ⟨q, hq, hsame⟩

/-- A parameter is called as its member would be alone exactly if it is the first of its base. -/
theorem bare_iff_of_split {s : Selection} {front back : List GeneratedParameter}
    {p : GeneratedParameter} (h : s.parameters = front ++ p :: back) :
    p.name = ParameterName.ofMember p.member ↔
      ∀ q ∈ front, ParameterName.ofMember q.member ≠ ParameterName.ofMember p.member := by
  constructor
  · intro hbare
    rcases bare_or_numbered_of_split h with ⟨hfirst, _⟩ | ⟨n, hnumbered⟩
    · exact hfirst
    · exact absurd (hnumbered.symm.trans hbare) (ParameterName.numbered_ne_base _ n)
  · intro hfirst
    have hnext := congrArg ParameterName.Naming.name (entry_of_split h)
    rw [ParameterName.next_of_new] at hnext
    · exact hnext
    · rw [List.map_map]
      intro hrepeated
      obtain ⟨q, hq, hsame⟩ := List.mem_map.1 hrepeated
      exact hfirst q hq hsame

theorem bare_or_numbered {s : Selection} {p : GeneratedParameter} (hp : p ∈ s.parameters) :
    p.name = ParameterName.ofMember p.member ∨
      ∃ n, p.name = ParameterName.numbered (ParameterName.ofMember p.member) n := by
  obtain ⟨front, back, hsplit⟩ := List.append_of_mem hp
  exact (bare_or_numbered_of_split hsplit).imp_left And.right

/-- A parameter that is called as some selected member would be alone is called as its own. -/
theorem bare_of_name_eq {s : Selection} {p q : GeneratedParameter} (hp : p ∈ s.parameters)
    (hq : q ∈ s.parameters) (h : p.name = ParameterName.ofMember q.member) :
    p.name = ParameterName.ofMember p.member := by
  have hsettled := ParameterName.settled_front
    (List.append_nil (ParameterName.namings (s.names.map ParameterName.ofMember))).symm
  have hentry : ⟨ParameterName.ofMember p.member, p.name⟩ ∈ ParameterName.ofMembers s.names := by
    rw [namings_eq]
    exact List.mem_map_of_mem hp
  rcases hsettled.bare_or_new _ hentry with hbare | hnew
  · exact hbare
  · have hbase : q.member ∈ s.names := by
      rw [← map_member_parameters]
      exact List.mem_map_of_mem hq
    exact absurd (h ▸ List.mem_map_of_mem hbase) hnew

/-- Before a parameter that is called as its member alone comes none of the same base. -/
theorem le_of_bare {s : Selection} {i j : Nat} {p q : GeneratedParameter}
    (hp : s.parameters[i]? = some p) (hq : s.parameters[j]? = some q)
    (hbare : p.name = ParameterName.ofMember p.member)
    (hsame : ParameterName.ofMember q.member = ParameterName.ofMember p.member) : i ≤ j := by
  by_contra hlt
  have hmem : q ∈ s.parameters.take i := by
    apply List.mem_of_getElem? (i := j)
    rw [List.getElem?_take_of_lt (Nat.lt_of_not_le hlt), hq]
  obtain ⟨hi, heq⟩ := List.getElem?_eq_some_iff.1 hp
  have hsplit : s.parameters = s.parameters.take i ++ p :: s.parameters.drop (i + 1) := by
    rw [← heq, List.cons_getElem_drop_succ, List.take_append_drop]
  exact (bare_iff_of_split hsplit).1 hbare q hmem hsame

/-- Where no member has two parameters, looking a parameter's member up finds the parameter. -/
theorem find_member {ps : List GeneratedParameter} (h : (ps.map (·.member)).Nodup)
    {p : GeneratedParameter} (hp : p ∈ ps) : ps.find? (·.member = p.member) = some p := by
  induction ps with
  | nil => cases hp
  | cons q ps ih =>
    obtain ⟨hq, hps⟩ := List.nodup_cons.1 h
    rcases List.mem_cons.1 hp with rfl | hin
    · simp
    · have hne : q.member ≠ p.member := by
        intro heq
        exact hq (List.mem_map.2 ⟨p, hin, heq.symm⟩)
      rw [List.find?_cons_of_neg (by simpa using hne)]
      exact ih hps hin

/-- The parameters for members that some of the parameters stand for are these parameters. -/
theorem parametersOf_eq {ps qs : List GeneratedParameter} {members : List Member}
    (h : (ps.map (·.member)).Nodup) (hqs : qs ⊆ ps)
    (hmembers : members.map (·.name) = qs.map (·.member)) : parametersOf ps members = qs := by
  induction members generalizing qs with
  | nil =>
    rw [List.map_nil] at hmembers
    rw [List.map_eq_nil_iff.1 hmembers.symm]
    rfl
  | cons m members ih =>
    cases qs with
    | nil => cases hmembers
    | cons q qs =>
      obtain ⟨hm, hrest⟩ := List.cons.inj hmembers
      have hfind : ps.find? (·.member = m.name) = some q := by
        have hname : m.name = q.member := hm
        rw [hname]
        exact find_member h (hqs List.mem_cons_self)
      rw [parametersOf, List.filterMap_cons, hfind]
      exact congrArg (q :: ·) (ih (fun p hp => hqs (List.mem_cons_of_mem q hp)) hrest)

/-- The parameters of the residual members are those whose members the constructor does not assign.
-/
theorem parametersOf_residual (s : Selection) (c : Constructor) :
    parametersOf s.parameters (s.residual c) =
      s.parameters.filter fun p => !c.assignedMembers.contains p.member := by
  apply parametersOf_eq s.nodup_member_parameters (List.filter_subset_self _)
  have h := congrArg (List.map Prod.fst)
    (s.map_filter_parameters fun name => !c.assignedMembers.contains name)
  simp only [List.map_map] at h
  exact h.symm

end ConstructorPlanning.Selection
