import Mathlib.Data.List.Basic
import ConstructorPlanning.Planning.Selection
/-!
What a list keeps of its members when each name is kept once.
-/
namespace ConstructorPlanning

theorem mem_firstOfEachName {members : List Member} {m : Member} :
    m ∈ firstOfEachName members ↔ members.find? (·.name = m.name) = some m := by
  induction members with
  | nil => simp [firstOfEachName]
  | cons k rest ih =>
    rw [firstOfEachName, List.mem_cons, List.mem_filter, ih, List.find?_cons]
    by_cases hname : k.name = m.name
    · simp [hname, eq_comm]
    · have hne : m ≠ k := fun heq => hname (heq ▸ rfl)
      simp [hname, hne, Ne.symm hname]

theorem filter_firstOfEachName (p : String → Bool) (members : List Member) :
    (firstOfEachName members).filter (fun m => p m.name) =
      firstOfEachName (members.filter fun m => p m.name) := by
  induction members with
  | nil => rfl
  | cons m rest ih =>
    rw [firstOfEachName, List.filter_cons, List.filter_cons]
    split
    · rw [firstOfEachName, ← ih, List.filter_comm]
    · rename_i hp
      rw [← ih, List.filter_filter]
      apply List.filter_congr
      intro k _
      by_cases hk : p k.name
      · have hne : k.name ≠ m.name := fun heq => hp (heq ▸ hk)
        simp [hk, hne]
      · simp [hk]

/-- To keep the first member of each name is to leave out the later repeats. -/
theorem firstOfEachName_eq_eraseDupsBy (members : List Member) :
    firstOfEachName members = members.eraseDupsBy fun a b => a.name == b.name := by
  -- a member's repeats are taken out of the rest before the rest is looked at
  induction hlength : members.length using Nat.strongRecOn generalizing members with
  | ind n ih =>
    cases members with
    | nil => rfl
    | cons m rest =>
      have hfront : rest.filter (fun k => decide ((k.name == m.name) = false)) =
          rest.filter fun k => k.name != m.name := by
        apply List.filter_congr
        intro k _
        cases hsame : k.name == m.name <;> simp [bne, hsame]
      have hshort : (rest.filter fun k => k.name != m.name).length < n := by
        rw [← hlength, List.length_cons]
        exact Nat.lt_succ_of_le (List.length_filter_le _ _)
      rw [List.eraseDupsBy_cons, hfront, ← ih _ hshort _ rfl, firstOfEachName,
        filter_firstOfEachName fun name => name != m.name]

end ConstructorPlanning
