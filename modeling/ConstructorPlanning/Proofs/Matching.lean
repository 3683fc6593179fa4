import ConstructorPlanning.Proofs.DeclarationOrder
import ConstructorPlanning.Proofs.NameSet
import ConstructorPlanning.Proofs.QuietRun
/-!
The scan for an exact match or the best delegate. What it answers for a list of constructors is
said in terms of sets of names; the scan keeps the best delegate of the constructors it has seen,
and finds that answer.
-/
namespace ConstructorPlanning.Selection

/-- Among the constructors of a list, in their order, `d` is the delegation target that assigns
most, and the first of those that assign as much. -/
def Leads (s : Selection) (d : Constructor) (cs : List Constructor) : Prop :=
  ∃ before after, cs = before ++ d :: after ∧ s.IsTarget d ∧
    (∀ c ∈ before, s.IsTarget c → c.assigned.card < d.assigned.card) ∧
    ∀ c ∈ after, s.IsTarget c → c.assigned.card ≤ d.assigned.card

/-- The best delegate of the constructors seen so far. -/
def BestOf (s : Selection) (seen : List Constructor) : Option Constructor → Prop
  | none => ∀ c ∈ seen, ¬ s.IsTarget c
  | some d => s.Leads d seen

/-- What a comparison with constructors, taken in the order of the list, has to answer. -/
inductive Compares (s : Selection) (cs : List Constructor) : Match → Prop where
  | exact {before after : List Constructor} {c : Constructor} (split : cs = before ++ c :: after)
      (same : c.assigned = s.nameSet) (first : ∀ b ∈ before, b.assigned ≠ s.nameSet) :
      Compares s cs (.exact c)
  | delegatable {d : Constructor} (none_same : ∀ c ∈ cs, c.assigned ≠ s.nameSet)
      (leads : s.Leads d cs) : Compares s cs (.delegatable d (s.residual d))
  | nothing (none_same : ∀ c ∈ cs, c.assigned ≠ s.nameSet)
      (no_target : ∀ c ∈ cs, ¬ s.IsTarget c) : Compares s cs .nothing

theorem Leads.card_le {s : Selection} {d c : Constructor} {cs : List Constructor}
    (h : s.Leads d cs) (hc : c ∈ cs) (htarget : s.IsTarget c) :
    c.assigned.card ≤ d.assigned.card := by
  obtain ⟨before, after, rfl, _, hlt, hle⟩ := h
  rcases List.mem_append.1 hc with hin | hin
  · exact (hlt c hin htarget).le
  · rcases List.mem_cons.1 hin with rfl | hin
    · exact le_rfl
    · exact hle c hin htarget

/-- A later constructor takes the lead only if it assigns more. -/
theorem Leads.concat {s : Selection} {d c : Constructor} {seen : List Constructor}
    (h : s.Leads d seen) (hc : s.IsTarget c → c.assigned.card ≤ d.assigned.card) :
    s.Leads d (seen ++ [c]) := by
  obtain ⟨before, after, rfl, htarget, hlt, hle⟩ := h
  refine ⟨before, after ++ [c], by simp, htarget, hlt, ?_⟩
  intro b hb hbt
  rcases List.mem_append.1 hb with hin | hin
  · exact hle b hin hbt
  · obtain rfl := List.mem_singleton.1 hin
    exact hc hbt

theorem BestOf.skip {s : Selection} {best : Option Constructor} {seen : List Constructor}
    {c : Constructor} (h : s.BestOf seen best) (hc : ¬ s.IsTarget c) :
    s.BestOf (seen ++ [c]) best := by
  cases best with
  | none =>
    intro b hb
    rcases List.mem_append.1 hb with hin | hin
    · exact h b hin
    · obtain rfl := List.mem_singleton.1 hin
      exact hc
  | some d => exact Leads.concat h fun ht => absurd ht hc

/-- One comparison keeps the best delegate of what has been seen. -/
theorem BestOf.step {s : Selection} {best : Option Constructor} {seen : List Constructor}
    {c : Constructor} (h : s.BestOf seen best) (hcovers : s.covers c)
    (hne : c.assigned ≠ s.nameSet) : s.BestOf (seen ++ [c]) (betterDelegate best c) := by
  unfold betterDelegate
  split
  · rename_i hempty
    apply h.skip
    intro htarget
    exact htarget.1.ne_empty (c.assignedSet_isEmpty.1 hempty)
  · rename_i hsome
    have htarget : s.IsTarget c := isTarget_of_covers hcovers hne hsome
    cases best with
    | none => exact ⟨seen, [], rfl, htarget, fun b hb hbt => absurd hbt (h b hb), by simp⟩
    | some d =>
      change s.Leads d seen at h
      simp only [Constructor.length_assignedSet]
      split
      · rename_i hlt
        exact ⟨seen, [], rfl, htarget, fun b hb hbt => (h.card_le hb hbt).trans_lt hlt, by simp⟩
      · rename_i hnlt
        exact h.concat fun _ => Nat.le_of_not_lt hnlt

/-- The rest of a scan answers for the whole list, given the best delegate of what was seen and no
exact match there. -/
theorem quiet_matchFrom (s : Selection) (picker : Picker) {best : Option Constructor}
    {seen rest : List Constructor} (hbest : s.BestOf seen best)
    (hne : ∀ c ∈ seen, c.assigned ≠ s.nameSet) :
    ∃ found, (s.matchFrom best rest).quiet picker = .ok found ∧
      s.Compares (seen ++ rest) found := by
  induction rest generalizing best seen with
  | nil =>
    rw [List.append_nil]
    cases best with
    | none => exact ⟨.nothing, rfl, .nothing hne hbest⟩
    | some d => exact ⟨.delegatable d (s.residual d), rfl, .delegatable hne hbest⟩
  | cons c rest ih =>
    rw [List.append_cons]
    simp only [matchFrom, Procedure.quiet]
    have hnext (hc : c.assigned ≠ s.nameSet) : ∀ b ∈ seen ++ [c], b.assigned ≠ s.nameSet := by
      intro b hb
      rcases List.mem_append.1 hb with hin | hin
      · exact hne b hin
      · obtain rfl := List.mem_singleton.1 hin
        exact hc
    by_cases hcovers : s.covers c
    · simp only [hcovers, Bool.not_true, Bool.false_eq_true, if_false, length_eq_size_iff hcovers]
      by_cases hsame : c.assigned = s.nameSet
      · rw [if_pos hsame]
        exact ⟨.exact c, rfl, .exact (List.append_cons seen c rest).symm hsame hne⟩
      · rw [if_neg hsame]
        exact ih (hbest.step hcovers hsame) (hnext hsame)
    · simp only [hcovers, Bool.not_false, if_true]
      refine ih (hbest.skip fun htarget => hcovers htarget.covers) (hnext ?_)
      intro hsame
      exact hcovers ((covers_iff s c).2 hsame.subset)

theorem quiet_matchConstructors (s : Selection) (cs : List Constructor) (picker : Picker) :
    ∃ found, (s.matchConstructors cs).quiet picker = .ok found ∧
      s.Compares (Constructor.inOrder cs) found := by
  have hbest : s.BestOf [] none := by simp [BestOf]
  exact s.quiet_matchFrom picker hbest (by simp)

/-- The constructor at place `i` is the delegation target that assigns most; of those that assign
as much it is the one declared first, and of those the one listed first. -/
def IsBestDelegate (s : Selection) (cs : List Constructor) (i : Fin cs.length) : Prop :=
  s.IsTarget cs[i] ∧ ∀ j : Fin cs.length, s.IsTarget cs[j] →
    cs[j].assigned.card < cs[i].assigned.card ∨
      cs[j].assigned.card = cs[i].assigned.card ∧ NoLater Constructor.declarationOrder cs i j

/-- The leader of the sorted constructors is the best delegate of the list as it stands. -/
theorem Leads.isBestDelegate {s : Selection} {d : Constructor} {cs : List Constructor}
    (h : s.Leads d (Constructor.inOrder cs)) :
    ∃ i : Fin cs.length, cs[i] = d ∧ s.IsBestDelegate cs i := by
  obtain ⟨before, after, hsplit, htarget, hlt, hle⟩ := h
  obtain ⟨i, rfl, hplaces⟩ := sorted_split hsplit
  refine ⟨i, rfl, htarget, ?_⟩
  intro j hj
  rcases hplaces j with hin | rfl | ⟨hin, hlater⟩
  · exact .inl (hlt _ hin hj)
  · exact .inr ⟨rfl, .inr ⟨rfl, Fin.le_refl _⟩⟩
  · rcases (hle _ hin hj).lt_or_eq with hless | heq
    · exact .inl hless
    · exact .inr ⟨heq, hlater⟩

end ConstructorPlanning.Selection
