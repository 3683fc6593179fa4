import ConstructorPlanning.Proofs.FirstOfEachName
import ConstructorPlanning.Proofs.PlanningOutcome
/-!
Which explicit lists are selections. A checked list is taken word for word or refused for its first
flaw; an unchecked one is taken up to repeated names. What is wrong with a member of a list depends
on the names in front of it and on what the type declares.
-/
namespace ConstructorPlanning

namespace TypeSnapshot

/-- The name is that of a viable member of the type. -/
def HasViable (t : TypeSnapshot) (name : String) : Prop :=
  ∃ m ∈ t.members, m.isViable ∧ m.name = name

theorem hasViable_iff {t : TypeSnapshot} {name : String} :
    t.HasViable name ↔ ∃ m ∈ t.viableMembers, m.name = name := by
  simp only [HasViable, mem_viableMembers, and_assoc]

theorem isSome_member_iff {t : TypeSnapshot} {name : String} :
    (t.member? name).isSome ↔ ∃ m ∈ t.members, m.name = name := by
  simp [member?]

/-- What is wrong with the member `m` of a list behind the members `front`. A repeated name counts
before everything else. -/
inductive Flaw (t : TypeSnapshot) (front : List Member) (m : Member) : SelectionIssue → Prop where
  | duplicate (repeated : m.name ∈ front.map (·.name)) : Flaw t front m .duplicate
  | notViable (new : m.name ∉ front.map (·.name)) (unviable : ¬ t.HasViable m.name)
      (declared : ∃ d ∈ t.members, d.name = m.name) : Flaw t front m .notViable
  | notFound (new : m.name ∉ front.map (·.name))
      (undeclared : ∀ d ∈ t.members, d.name ≠ m.name) : Flaw t front m .notFound

/-- The member at place `i` is the first one of the list that repeats a name or is not viable. -/
structure FirstFlaw (t : TypeSnapshot) (chosen : List Member) (i : Nat) (m : Member)
    (issue : SelectionIssue) : Prop where
  here : chosen[i]? = some m
  flaw : t.Flaw (chosen.take i) m issue
  none_before : ∀ j < i, ∀ k, chosen[j]? = some k →
    k.name ∉ (chosen.take j).map (·.name) ∧ t.HasViable k.name

variable {t : TypeSnapshot} {chosen : List Member}

theorem new_of_nodup (distinct : (chosen.map (·.name)).Nodup) {i : Nat} {m : Member}
    (hm : chosen[i]? = some m) : m.name ∉ (chosen.take i).map (·.name) := by
  obtain ⟨hi, rfl⟩ := List.getElem?_eq_some_iff.1 hm
  have hsplit : chosen = chosen.take i ++ chosen[i] :: chosen.drop (i + 1) := by
    rw [List.cons_getElem_drop_succ, List.take_append_drop]
  rw [hsplit, List.map_append, List.map_cons] at distinct
  intro hrepeated
  exact List.disjoint_of_nodup_append distinct hrepeated List.mem_cons_self

/-- The check of a list reports its first flaw. -/
theorem firstFlaw_of_firstIssue {name : String} {issue : SelectionIssue}
    (h : t.firstIssue? t.viableMembers [] chosen = some (name, issue)) :
    ∃ i m, m.name = name ∧ t.FirstFlaw chosen i m issue := by
  obtain ⟨front, m, rest, rfl, rfl, hfront, hcause⟩ := firstIssue_split h
  obtain ⟨hdistinct, _, hfound⟩ := firstIssue_eq_none_iff.1 hfront
  have hviable : ∀ c ∈ front, t.HasViable c.name := fun c hc => hasViable_iff.2 (hfound c hc)
  refine ⟨front.length, m, rfl, by simp, ?_, ?_⟩
  · rw [List.take_left]
    rcases hcause with ⟨hseen, rfl⟩ | ⟨hforeign, rfl⟩
    · exact .duplicate (hseen.resolve_left List.not_mem_nil)
    · have hunviable : ¬ t.HasViable m.name := by
        rw [hasViable_iff]
        rintro ⟨v, hv, hname⟩
        exact hforeign v hv hname
      have hnew : m.name ∉ front.map (·.name) := by
        intro hmem
        obtain ⟨c, hc, hname⟩ := List.mem_map.1 hmem
        exact hunviable (hname ▸ hviable c hc)
      split
      · rename_i hsome
        exact .notViable hnew hunviable (isSome_member_iff.1 hsome)
      · rename_i hnone
        rw [isSome_member_iff] at hnone
        push Not at hnone
        exact .notFound hnew hnone
  · intro j hj k hk
    rw [List.getElem?_append_left hj] at hk
    rw [List.take_append_of_le_length hj.le]
    exact ⟨new_of_nodup hdistinct hk, hviable k (List.mem_of_getElem? hk)⟩

theorem firstIssue_eq_none_iff_viable : t.firstIssue? t.viableMembers [] chosen = none ↔
    (chosen.map (·.name)).Nodup ∧ ∀ m ∈ chosen, t.HasViable m.name := by
  rw [firstIssue_eq_none_iff]
  simp only [hasViable_iff, List.not_mem_nil, not_false_eq_true, implies_true, true_and]

end TypeSnapshot

namespace Selection

variable {o : Options} {t : TypeSnapshot} {explicit : List Member}

/-- What resolving a checked list has to answer. -/
structure ChecksList (t : TypeSnapshot) (explicit : List Member)
    (answer : Except Refusal Selection) : Prop where
  accepted_iff : (∃ s, answer = .ok s) ↔
    (explicit.map (·.name)).Nodup ∧ ∀ m ∈ explicit, t.HasViable m.name
  verbatim : ∀ s, answer = .ok s → s.members = explicit
  refused : (¬ ∃ s, answer = .ok s) → ∃ i m issue, t.FirstFlaw explicit i m issue ∧
    answer = .error (.invalidSelection m.name issue)

theorem checksList (htarget : t.IsInstantiable) (hsome : explicit ≠ [])
    (hchecked : o.validateSelection = true) :
    ChecksList t explicit (resolution o t explicit) := by
  rw [resolution_choice (TypeSnapshot.checkTarget_eq_ok_iff.2 htarget) hsome, quiet_ofChoice,
    hchecked]
  cases hissue : t.firstIssue? t.viableMembers [] explicit with
  | none =>
    have hgood := TypeSnapshot.firstIssue_eq_none_iff_viable.1 hissue
    refine ⟨iff_of_true ⟨_, rfl⟩ hgood, ?_, fun h => absurd ⟨_, rfl⟩ h⟩
    rintro s ⟨⟩
    exact firstOfEachName_eq_self hgood.1
  | some found =>
    obtain ⟨i, m, hname, hflaw⟩ := TypeSnapshot.firstFlaw_of_firstIssue hissue
    refine ⟨iff_of_false nofun ?_, nofun, fun _ => ⟨i, m, found.2, hflaw, ?_⟩⟩
    · rw [← TypeSnapshot.firstIssue_eq_none_iff_viable, hissue]
      exact Option.some_ne_none _
    · rw [hname]

theorem resolution_untargeted (htarget : ¬ t.IsInstantiable) :
    resolution o t explicit = .error (.invalidTarget t.name
      (if t.kind.supportsConstructors then .staticType else .wrongKind)) := by
  apply resolution_invalid
  obtain ⟨name, kind, isStatic, members, constructors⟩ := t
  cases kind <;> cases isStatic <;>
    simp_all [TypeSnapshot.checkTarget, TypeKind.supportsConstructors, TypeSnapshot.IsInstantiable]

end Selection

/-- For a class or struct that is not static, a list that is not empty stands for itself exactly if
it repeats no name and has names of viable members only, or else is refused for its first flaw;
unchecked, it stands for the first member of each of its names. For every other type, every list is
refused for the type. -/
theorem explicit_list_validated (o : Options) (t : TypeSnapshot) (explicit : List Member) :
    (t.IsInstantiable → explicit ≠ [] →
      (o.validateSelection = true →
        Selection.ChecksList t explicit (Selection.resolution o t explicit)) ∧
      (o.validateSelection = false → ∃ s, Selection.resolution o t explicit = .ok s ∧
        s.members = explicit.eraseDupsBy fun a b => a.name == b.name)) ∧
    (¬ t.IsInstantiable → Selection.resolution o t explicit = .error (.invalidTarget t.name
      (if t.kind.supportsConstructors then .staticType else .wrongKind))) := by
  refine ⟨?_, Selection.resolution_untargeted⟩
  intro htarget hsome
  refine ⟨Selection.checksList htarget hsome, ?_⟩
  intro hunchecked
  rw [Selection.resolution_choice (TypeSnapshot.checkTarget_eq_ok_iff.2 htarget) hsome,
    Selection.quiet_ofChoice, hunchecked]
  exact ⟨_, rfl, firstOfEachName_eq_eraseDupsBy explicit⟩

/-- A type with two members of one name, of which the second is viable, and with a static member. -/
def parcel : TypeSnapshot where
  name := "Parcel"
  kind := .structType
  members := [
    { name := "Label", type := "string", kind := .constant, declarationOrder := 0 },
    { name := "Label", type := "string", kind := .property, declarationOrder := 1 },
    { name := "Sender", type := "string", kind := .field, isStatic := true, declarationOrder := 2 }]

/-- A list whose second member is not viable and whose third repeats a name. -/
def flawedParcelList : List Member :=
  [{ name := "Label", type := "int", kind := .field, declarationOrder := 7 },
    { name := "Sender", type := "string", kind := .field, declarationOrder := 2 },
    { name := "Label", type := "string", kind := .property, declarationOrder := 1 }]

def staticParcel : TypeSnapshot :=
  { parcel with isStatic := true }

theorem explicit_list_validated_parcel :
    (parcel.IsInstantiable ∧ flawedParcelList ≠ [] ∧
      Selection.ChecksList parcel flawedParcelList
        (Selection.resolution ⟨true, true⟩ parcel flawedParcelList) ∧
      ∃ s, Selection.resolution ⟨false, true⟩ parcel flawedParcelList = .ok s ∧
        s.members = flawedParcelList.eraseDupsBy fun a b => a.name == b.name) ∧
    (¬ staticParcel.IsInstantiable ∧ Selection.resolution ⟨true, true⟩ staticParcel [] =
      .error (.invalidTarget "Parcel" .staticType)) := by
  have htarget : parcel.IsInstantiable := by decide
  have hsome : flawedParcelList ≠ [] := by decide
  have hstatic : ¬ staticParcel.IsInstantiable := by decide
  have hchecked := ((explicit_list_validated ⟨true, true⟩ parcel _).1 htarget hsome).1 rfl
  have hunchecked := ((explicit_list_validated ⟨false, true⟩ parcel _).1 htarget hsome).2 rfl
  exact ⟨⟨htarget, hsome, hchecked, hunchecked⟩, hstatic,
    (explicit_list_validated ⟨true, true⟩ staticParcel []).2 hstatic⟩

example : Selection.resolution {} parcel flawedParcelList =
    .error (.invalidSelection "Sender" .notViable) := by
  cbv

end ConstructorPlanning
