import Mathlib.Data.List.Forall2
import Mathlib.Data.List.Nodup
import Mathlib.Order.Basic
import ConstructorPlanning.Snapshot.TypeSnapshot
/-!
What sorting by declaration order does to the places of a list: an entry comes before another one
if its order is less, or if the orders agree and it stood before the other one already.
-/
namespace ConstructorPlanning

variable {α β : Type}

/-- The entry at place `i` comes no later than the one at place `j`, by a key first and then by
place. -/
def NoLater (key : α → UInt32) (l : List α) (i j : Fin l.length) : Prop :=
  key l[i] < key l[j] ∨ key l[i] = key l[j] ∧ i ≤ j

/-- The order of the pairs of entries and places that sorting goes by. -/
theorem noLater_of_zipIdxLE {key : α → UInt32} {l : List α} {i j : Fin l.length}
    (h : List.zipIdxLE (fun a b => key a ≤ key b) (l[i], i.val) (l[j], j.val)) :
    NoLater key l i j := by
  simp only [List.zipIdxLE, decide_eq_true_eq] at h
  split at h
  · rename_i hle
    split at h
    · rename_i hge
      exact .inr ⟨UInt32.le_antisymm hle hge, Fin.le_def.2 (by simpa using h)⟩
    · rename_i hge
      exact .inl (UInt32.not_le.1 hge)
  · cases h

section Sorted

variable (key : α → UInt32)

theorem byKey_trans (a b c : α) :
    decide (key a ≤ key b) → decide (key b ≤ key c) → decide (key a ≤ key c) := by
  simp only [decide_eq_true_eq]
  exact UInt32.le_trans

theorem byKey_total (a b : α) : decide (key a ≤ key b) || decide (key b ≤ key a) := by
  simpa using UInt32.le_total (key a) (key b)

/-- Where no two entries have one key, the sorted list is the same for all orders of the entries. -/
theorem sorted_eq_of_perm {l m : List α} (h : l.Perm m) (hkeys : (l.map key).Nodup) :
    l.mergeSort (fun a b => key a ≤ key b) = m.mergeSort fun a b => key a ≤ key b := by
  refine List.Perm.eq_of_pairwise ?_
    (List.pairwise_mergeSort (byKey_trans key) (byKey_total key) l)
    (List.pairwise_mergeSort (byKey_trans key) (byKey_total key) m)
    ((List.mergeSort_perm l _).trans (h.trans (List.mergeSort_perm m _).symm))
  intro a b ha hb hab hba
  have hsame : key a = key b := UInt32.le_antisymm (by simpa using hab) (by simpa using hba)
  exact List.inj_on_of_nodup_map hkeys (List.mem_mergeSort.1 ha)
    (h.mem_iff.2 (List.mem_mergeSort.1 hb)) hsame

/-- A new entry is sorted in front of those that it may stand before, and behind the others. -/
theorem sorted_cons (a : α) (l : List α) :
    (a :: l).mergeSort (fun b c => key b ≤ key c) =
      (l.mergeSort fun b c => key b ≤ key c).filter (fun b => !decide (key a ≤ key b)) ++
        a :: (l.mergeSort fun b c => key b ≤ key c).filter (fun b => key a ≤ key b) := by
  obtain ⟨low, high, hcons, hrest, hlow⟩ :=
    List.mergeSort_cons (byKey_trans key) (byKey_total key) a l
  have hsorted := List.pairwise_mergeSort (byKey_trans key) (byKey_total key) (a :: l)
  rw [hcons] at hsorted
  have hhigh : ∀ b ∈ high, decide (key a ≤ key b) = true := fun b hb =>
    List.rel_of_pairwise_cons (List.pairwise_append.1 hsorted).2.1 hb
  have hnotlow : low.filter (fun b => key a ≤ key b) = [] := by
    rw [List.filter_eq_nil_iff]
    intro b hb
    simpa using hlow b hb
  have hnothigh : high.filter (fun b => !decide (key a ≤ key b)) = [] := by
    rw [List.filter_eq_nil_iff]
    intro b hb
    simpa using hhigh b hb
  rw [hcons, hrest, List.filter_append, List.filter_append, List.filter_eq_self.2 hlow,
    List.filter_eq_self.2 hhigh, hnotlow, hnothigh, List.append_nil, List.nil_append]

/-- Entries that are left out before sorting are left out of the sorted list. -/
theorem sorted_filter (p : α → Bool) (l : List α) :
    (l.filter p).mergeSort (fun a b => key a ≤ key b) =
      (l.mergeSort fun a b => key a ≤ key b).filter p := by
  induction l with
  | nil => simp
  | cons a l ih =>
    by_cases hp : p a
    · rw [List.filter_cons_of_pos hp, sorted_cons, sorted_cons, ih, List.filter_append,
        List.filter_cons_of_pos hp, List.filter_comm p, List.filter_comm p]
    · obtain ⟨low, high, hcons, hrest, -⟩ :=
        List.mergeSort_cons (byKey_trans key) (byKey_total key) a l
      rw [List.filter_cons_of_neg hp, ih, hcons, hrest, List.filter_append, List.filter_append,
        List.filter_cons_of_neg hp]

/-- Lists that agree in the keys of their entries are sorted in the same way. -/
theorem sorted_forall₂ {r : α → β → Prop} {key' : β → UInt32} (hkey : ∀ a b, r a b → key a = key' b)
    {l : List α} {m : List β} (h : List.Forall₂ r l m) :
    List.Forall₂ r (l.mergeSort fun a b => key a ≤ key b)
      (m.mergeSort fun a b => key' a ≤ key' b) := by
  induction h with
  | nil => simp
  | cons hab hrest ih =>
    rw [sorted_cons, sorted_cons]
    refine List.rel_append (List.rel_filter ?_ ih) (.cons hab (List.rel_filter ?_ ih))
    · intro c d hcd
      simp [hkey _ _ hab, hkey _ _ hcd]
    · intro c d hcd
      simp [hkey _ _ hab, hkey _ _ hcd]

/-- Entries of one key are left by sorting as they stood among each other. -/
theorem sorted_filter_key (k : UInt32) (l : List α) :
    (l.mergeSort fun a b => key a ≤ key b).filter (fun a => key a = k) =
      l.filter fun a => key a = k := by
  rw [← sorted_filter]
  apply List.mergeSort_of_pairwise
  rw [List.pairwise_filter]
  apply List.pairwise_of_forall
  intro a b ha hb
  simp only [decide_eq_true_eq] at ha hb ⊢
  rw [ha, hb]
  exact UInt32.le_refl k

theorem head_le_of_filter_key {a b : α} {l m : List α}
    (ha : (a :: l).Pairwise fun c d => key c ≤ key d)
    (h : ∀ k, (a :: l).filter (fun c => key c = k) = (b :: m).filter fun c => key c = k) :
    key a ≤ key b := by
  have hb : b ∈ (b :: m).filter fun c => key c = key b := by simp
  rw [← h] at hb
  rcases List.mem_cons.1 (List.mem_of_mem_filter hb) with rfl | hin
  · exact UInt32.le_refl _
  · exact List.rel_of_pairwise_cons ha hin

/-- A sorted list is determined by its entries of each key. -/
theorem eq_of_filter_key {l m : List α} (hl : l.Pairwise fun a b => key a ≤ key b)
    (hm : m.Pairwise fun a b => key a ≤ key b)
    (h : ∀ k, l.filter (fun a => key a = k) = m.filter fun a => key a = k) : l = m := by
  induction l generalizing m with
  | nil =>
    cases m with
    | nil => rfl
    | cons b m => simpa using h (key b)
  | cons a l ih =>
    cases m with
    | nil => simpa using h (key a)
    | cons b m =>
      have hkey : key a = key b := UInt32.le_antisymm (head_le_of_filter_key key hl h)
        (head_le_of_filter_key key hm fun k => (h k).symm)
      have hhead : a = b := by
        have hfirst := h (key a)
        rw [List.filter_cons_of_pos (by simp), List.filter_cons_of_pos (by simp [hkey])] at hfirst
        exact (List.cons.inj hfirst).1
      subst hhead
      congr 1
      apply ih hl.of_cons hm.of_cons
      intro k
      have hrest := h k
      by_cases hk : key a = k
      · simpa [hk] using hrest
      · simpa [hk] using hrest

end Sorted

/-- Each entry of a sorted list stood somewhere in the list as it was, and every place of that list
has its entry on the one side or on the other; those behind it come no earlier. -/
theorem sorted_split {key : α → UInt32} {l before after : List α} {a : α}
    (h : l.mergeSort (fun a b => key a ≤ key b) = before ++ a :: after) :
    ∃ i : Fin l.length, l[i] = a ∧
      ∀ j : Fin l.length, l[j] ∈ before ∨ j = i ∨ l[j] ∈ after ∧ NoLater key l i j := by
  let le : α → α → Bool := fun a b => key a ≤ key b
  -- Sort the entries together with their places; forgetting the places gives the sorted list.
  let placed := l.zipIdx.mergeSort (List.zipIdxLE le)
  have hsorted : placed.Pairwise fun p q => List.zipIdxLE le p q :=
    List.pairwise_mergeSort (List.zipIdxLE_trans (byKey_trans key))
      (List.zipIdxLE_total (byKey_total key)) _
  have hmap : placed.map (·.1) = before ++ a :: after :=
    List.mergeSort_zipIdx.trans h
  have hmem : ∀ p : α × Nat, p ∈ placed ↔ l[p.2]? = some p.1 := by
    intro p
    rw [List.mem_mergeSort, List.mem_zipIdx_iff_getElem?]
  obtain ⟨front, rest, hplaced, hfront, hrest⟩ := List.map_eq_append_iff.1 hmap
  obtain ⟨⟨b, i⟩, back, rfl, hb, hback⟩ := List.map_eq_cons_iff.1 hrest
  obtain rfl : b = a := hb
  have hi : l[i]? = some b := (hmem (b, i)).1 (by rw [hplaced]; simp)
  obtain ⟨hilt, hib⟩ := List.getElem?_eq_some_iff.1 hi
  refine ⟨⟨i, hilt⟩, hib, ?_⟩
  intro j
  have hj : (l[j], j.val) ∈ front ++ (b, i) :: back := by
    rw [← hplaced, hmem]
    exact List.getElem?_eq_getElem j.isLt
  rcases List.mem_append.1 hj with hin | hin
  · left
    rw [← hfront]
    exact List.mem_map_of_mem hin
  · rcases List.mem_cons.1 hin with heq | hin
    · exact .inr (.inl (Fin.ext (Prod.mk.inj heq).2))
    · refine .inr (.inr ⟨?_, ?_⟩)
      · rw [← hback]
        exact List.mem_map_of_mem hin
      · rw [hplaced] at hsorted
        have hle := List.rel_of_pairwise_cons (List.pairwise_append.1 hsorted).2.1 hin
        apply noLater_of_zipIdxLE
        simpa only [Fin.getElem_fin, hib] using hle

theorem TypeSnapshot.ordered_viableMembers (t : TypeSnapshot) :
    t.viableMembers.Pairwise fun a b => a.declarationOrder ≤ b.declarationOrder := by
  refine List.Pairwise.imp ?_ (List.pairwise_mergeSort (byKey_trans Member.declarationOrder)
    (byKey_total Member.declarationOrder) (t.members.filter Member.isViable))
  simp

end ConstructorPlanning
