import Mathlib.Data.Finset.Card
import Mathlib.Data.Finset.Image
import Mathlib.Order.Interval.Finset.Nat
import ConstructorPlanning.Planning.ParameterName
/-!
Names within one list. An entry is settled from the bases of the whole list and the entries before
it. By counting, a number up to the length of the list is always free, so that names never
coincide.
-/
namespace ConstructorPlanning.ParameterName

theorem toList_numbered (base : String) (n : Nat) :
    (numbered base n).toList = base.toList ++ Nat.toDigits 10 n := by
  rw [numbered, String.toList_append, Nat.toString_eq_ofList_toDigits, String.toList_ofList]

/-- The numeral can be read back, so one base gives every number a name of its own. -/
theorem numbered_injective (base : String) : Function.Injective (numbered base) := by
  intro m n heq
  have hnumerals : Nat.toDigits 10 m = Nat.toDigits 10 n := by
    have hlists : base.toList ++ Nat.toDigits 10 m = base.toList ++ Nat.toDigits 10 n := by
      rw [← toList_numbered, ← toList_numbered, heq]
    exact List.append_cancel_left hlists
  rw [← Nat.ofDigitChars_ten_toDigits (n := m), hnumerals, Nat.ofDigitChars_ten_toDigits]

theorem numbered_ne_base (base : String) (n : Nat) : numbered base n ≠ base := by
  intro h
  have hlength := congrArg (fun name => name.toList.length) h
  have hpos : 0 < (Nat.toDigits 10 n).length := Nat.length_toDigits_pos
  simp only [toList_numbered, List.length_append] at hlength
  omega

section FreeNumber

variable (occupied : List String) (base : String)

theorem le_freeNumber (bound n : Nat) : n ≤ freeNumber occupied base bound n := by
  induction bound generalizing n with
  | zero => exact le_rfl
  | succ bound ih =>
    rw [freeNumber]
    split
    · exact (Nat.le_succ n).trans (ih (n + 1))
    · exact le_rfl

/-- All numbers that were passed over are occupied. -/
theorem mem_of_lt_freeNumber {bound n m : Nat} (hn : n ≤ m)
    (hm : m < freeNumber occupied base bound n) : numbered base m ∈ occupied := by
  induction bound generalizing n with
  | zero => exact absurd hm (Nat.not_lt.2 hn)
  | succ bound ih =>
    rw [freeNumber] at hm
    split at hm
    · rename_i hocc
      rcases Nat.eq_or_lt_of_le hn with rfl | hlt
      · exact List.contains_iff_mem.1 hocc
      · exact ih hlt hm
    · exact absurd hm (Nat.not_lt.2 hn)

/-- The search stops at a free number unless it runs out of numbers to try. -/
theorem freeNumber_not_mem {bound n : Nat} (h : freeNumber occupied base bound n < n + bound) :
    numbered base (freeNumber occupied base bound n) ∉ occupied := by
  induction bound generalizing n with
  | zero => exact absurd h (Nat.lt_irrefl n)
  | succ bound ih =>
    rw [freeNumber] at h ⊢
    split
    · rename_i hocc
      rw [if_pos hocc] at h
      exact ih (by omega)
    · rename_i hfree
      simpa using hfree

/-- The base and the names passed over are that many different occupied names. -/
theorem freeNumber_le {bound : Nat} (hbase : base ∈ occupied)
    (hcard : occupied.toFinset.card < bound) : freeNumber occupied base bound 2 ≤ bound := by
  let k := freeNumber occupied base bound 2
  let passed := (Finset.Ico 2 k).image (numbered base)
  have hpassed : passed.card = k - 2 := by
    rw [Finset.card_image_of_injective _ (numbered_injective base), Nat.card_Ico]
  have hnew : base ∉ passed := by
    intro hmem
    obtain ⟨m, _, hm⟩ := Finset.mem_image.1 hmem
    exact numbered_ne_base base m hm
  have hsub : insert base passed ⊆ occupied.toFinset := by
    intro name hname
    rw [List.mem_toFinset]
    rcases Finset.mem_insert.1 hname with rfl | hmem
    · exact hbase
    · obtain ⟨m, hm, rfl⟩ := Finset.mem_image.1 hmem
      obtain ⟨hle, hlt⟩ := Finset.mem_Ico.1 hm
      exact mem_of_lt_freeNumber occupied base hle hlt
  have hle := Finset.card_le_card hsub
  rw [Finset.card_insert_of_notMem hnew, hpassed] at hle
  change k ≤ bound
  omega

end FreeNumber

/-- The entry that follows others is settled by them and by the bases of the whole list. -/
theorem namingsAfter_split {bases rest : List String} {before front back : List Naming}
    {n : Naming} (h : namingsAfter bases before rest = front ++ n :: back) :
    n = Naming.next bases (before ++ front) n.base := by
  induction rest generalizing before front with
  | nil => simp [namingsAfter] at h
  | cons base rest ih =>
    rw [namingsAfter] at h
    cases front with
    | nil =>
      obtain ⟨rfl, _⟩ := List.cons.inj h
      rw [List.append_nil]
      have hbase : (Naming.next bases before base).base = base := by
        unfold Naming.next
        split <;> rfl
      rw [hbase]
    | cons m front =>
      obtain ⟨rfl, hrest⟩ := List.cons.inj h
      have hn := ih hrest
      rwa [List.append_assoc, List.singleton_append] at hn

theorem namings_split {bases : List String} {front back : List Naming} {n : Naming}
    (h : namings bases = front ++ n :: back) : n = Naming.next bases front n.base :=
  @namingsAfter_split bases bases [] front back n h

theorem bases_split {bases : List String} {front back : List Naming} {n : Naming}
    (h : namings bases = front ++ n :: back) :
    bases = front.map (·.base) ++ n.base :: back.map (·.base) := by
  rw [← map_base_namings bases, h, List.map_append, List.map_cons]

/-- The number given to an entry whose base an earlier entry has. -/
def nextNumber (bases : List String) (before : List Naming) (base : String) : Nat :=
  freeNumber (bases ++ before.map (·.name)) base bases.length 2

theorem next_of_new {bases : List String} {before : List Naming} {base : String}
    (h : base ∉ before.map (·.base)) : Naming.next bases before base = ⟨base, base⟩ := by
  rw [Naming.next, if_neg]
  simpa using h

theorem next_of_repeated {bases : List String} {before : List Naming} {base : String}
    (h : base ∈ before.map (·.base)) :
    Naming.next bases before base = ⟨base, numbered base (nextNumber bases before base)⟩ := by
  rw [Naming.next, if_pos, nextNumber]
  simpa using h

/-- What holds of the entries that come first in a list. The last field counts: each entry either
brings a new base or takes a name that is not its base, never both. -/
structure Settled (bases : List String) (before : List Naming) : Prop where
  distinct : (before.map (·.name)).Nodup
  bare_or_new : ∀ n ∈ before, n.name = n.base ∨ n.name ∉ bases
  balanced : (before.map (·.base)).toFinset.card +
    (before.filter fun n => n.name ≠ n.base).length ≤ before.length

/-- One base comes twice among those up to the current entry, so the occupied names are fewer than
the entries of the list. -/
theorem Settled.card_occupied_lt {bases rest : List String} {before : List Naming} {base : String}
    (h : Settled bases before) (hsplit : bases = before.map (·.base) ++ base :: rest)
    (hrepeated : base ∈ before.map (·.base)) :
    (bases ++ before.map (·.name)).toFinset.card < bases.length := by
  let renamed := before.filter fun n => n.name ≠ n.base
  let earlier := before.map (·.base)
  have hsub : (bases ++ before.map (·.name)).toFinset ⊆
      earlier.toFinset ∪ (rest.toFinset ∪ (renamed.map (·.name)).toFinset) := by
    intro name hname
    simp only [List.mem_toFinset, List.mem_append, Finset.mem_union] at hname ⊢
    rcases hname with hbase | hgiven
    · rw [hsplit, List.mem_append, List.mem_cons] at hbase
      rcases hbase with hin | rfl | hin
      · exact .inl hin
      · exact .inl hrepeated
      · exact .inr (.inl hin)
    · obtain ⟨n, hn, rfl⟩ := List.mem_map.1 hgiven
      by_cases hbare : n.name = n.base
      · rw [hbare]
        exact .inl (List.mem_map_of_mem hn)
      · exact .inr (.inr (List.mem_map_of_mem (List.mem_filter.2 ⟨hn, by simpa using hbare⟩)))
  have hle := Finset.card_le_card hsub
  have hunion := Finset.card_union_le earlier.toFinset
    (rest.toFinset ∪ (renamed.map (·.name)).toFinset)
  have hunion' := Finset.card_union_le rest.toFinset (renamed.map (·.name)).toFinset
  have hrest := List.toFinset_card_le rest
  have hrenamed := List.toFinset_card_le (renamed.map (·.name))
  have hbalanced : earlier.toFinset.card + renamed.length ≤ before.length := h.balanced
  have hlength : bases.length = before.length + (rest.length + 1) := by
    rw [hsplit, List.length_append, List.length_map, List.length_cons]
  rw [List.length_map] at hrenamed
  omega

/-- The number for a repeated base lies between 2 and the length of the list, and its name is
neither a base nor given before. -/
theorem Settled.nextNumber_free {bases rest : List String} {before : List Naming} {base : String}
    (h : Settled bases before) (hsplit : bases = before.map (·.base) ++ base :: rest)
    (hrepeated : base ∈ before.map (·.base)) :
    nextNumber bases before base ≤ bases.length ∧
      numbered base (nextNumber bases before base) ∉ bases ++ before.map (·.name) := by
  have hbase : base ∈ bases ++ before.map (·.name) := by
    rw [hsplit]
    simp
  have hle := freeNumber_le _ base hbase (h.card_occupied_lt hsplit hrepeated)
  exact ⟨hle, freeNumber_not_mem _ base (by omega)⟩

/-- A further entry keeps the count if it repeats a base or stays with its own. -/
theorem Settled.concat {bases : List String} {before : List Naming} {n : Naming}
    (h : Settled bases before) (hname : n.name ∉ before.map (·.name))
    (hnew : n.name = n.base ∨ n.name ∉ bases)
    (hcount : n.base ∈ before.map (·.base) ∨ n.name = n.base) : Settled bases (before ++ [n]) := by
  refine ⟨?_, ?_, ?_⟩
  · rw [List.map_append, List.map_singleton, List.nodup_append_comm, List.singleton_append,
      List.nodup_cons]
    exact ⟨hname, h.distinct⟩
  · intro m hm
    rcases List.mem_append.1 hm with hin | hin
    · exact h.bare_or_new m hin
    · obtain rfl := List.mem_singleton.1 hin
      exact hnew
  · have hbalanced := h.balanced
    have hbases : ((before ++ [n]).map (·.base)).toFinset =
        insert n.base (before.map (·.base)).toFinset := by
      ext name
      simp only [List.map_append, List.map_singleton, List.mem_toFinset, List.mem_append,
        List.mem_singleton, Finset.mem_insert, or_comm]
    rw [hbases, List.filter_append, List.length_append, List.length_append, List.length_singleton]
    rcases hcount with hrepeated | hbare
    · have hone := List.length_filter_le (fun n : Naming => n.name ≠ n.base) [n]
      rw [Finset.insert_eq_self.2 (List.mem_toFinset.2 hrepeated)]
      rw [List.length_singleton] at hone
      omega
    · have hinsert := Finset.card_insert_le n.base (before.map (·.base)).toFinset
      have hnone : ([n].filter fun n => n.name ≠ n.base) = [] := by simp [hbare]
      rw [hnone, List.length_nil]
      omega

/-- Settling one more entry. -/
theorem Settled.step {bases rest : List String} {before : List Naming} {base : String}
    (h : Settled bases before) (hsplit : bases = before.map (·.base) ++ base :: rest) :
    Settled bases (before ++ [Naming.next bases before base]) := by
  by_cases hrepeated : base ∈ before.map (·.base)
  · rw [next_of_repeated hrepeated]
    obtain ⟨_, hfree⟩ := h.nextNumber_free hsplit hrepeated
    rw [List.mem_append, not_or] at hfree
    exact h.concat hfree.2 (.inr hfree.1) (.inl hrepeated)
  · rw [next_of_new hrepeated]
    refine h.concat ?_ (.inl rfl) (.inr rfl)
    -- A bare earlier entry would have this base; a renamed one avoids every base of the list.
    intro hgiven
    obtain ⟨n, hn, hname⟩ := List.mem_map.1 hgiven
    rcases h.bare_or_new n hn with hbare | hnew
    · exact hrepeated (List.mem_map.2 ⟨n, hn, hbare.symm.trans hname⟩)
    · apply hnew
      rw [hname, hsplit]
      simp

theorem settled_front {bases : List String} {front back : List Naming}
    (h : namings bases = front ++ back) : Settled bases front := by
  induction front using List.reverseRecOn generalizing back with
  | nil => exact ⟨List.nodup_nil, by simp, by simp⟩
  | append_singleton front n ih =>
    rw [List.append_assoc, List.singleton_append] at h
    rw [namings_split h]
    exact (ih h).step (bases_split h)

theorem nodup_names_namings (bases : List String) : ((namings bases).map (·.name)).Nodup :=
  (settled_front (List.append_nil _).symm).distinct

/-- The numbers that an entry of the base may take after names already given: those from 2 on whose
name is neither a base of the list nor given. -/
def freeNumbers (bases given : List String) (base : String) : Set Nat :=
  {k | 2 ≤ k ∧ numbered base k ∉ bases ∧ numbered base k ∉ given}

/-- The number of an entry whose base an earlier entry has is the least free one. -/
theorem Settled.isLeast_nextNumber {bases rest : List String} {before : List Naming} {base : String}
    (h : Settled bases before) (hsplit : bases = before.map (·.base) ++ base :: rest)
    (hrepeated : base ∈ before.map (·.base)) :
    IsLeast (freeNumbers bases (before.map (·.name)) base) (nextNumber bases before base) := by
  obtain ⟨_, hfree⟩ := h.nextNumber_free hsplit hrepeated
  rw [List.mem_append, not_or] at hfree
  refine ⟨⟨le_freeNumber _ base _ 2, hfree⟩, ?_⟩
  rintro k ⟨htwo, hbase, hgiven⟩
  by_contra hlt
  have hpassed := mem_of_lt_freeNumber _ base htwo (Nat.lt_of_not_le hlt)
  exact (List.mem_append.1 hpassed).elim hbase hgiven

/-- The entry at a place, with the entries before it and after it. -/
theorem exists_naming {bases : List String} {i : Nat} {base : String} (h : bases[i]? = some base) :
    ∃ front n back, namings bases = front ++ n :: back ∧ n.base = base ∧
      (namings bases)[i]? = some n ∧ front = (namings bases).take i := by
  have hbases := congrArg (·[i]?) (map_base_namings bases)
  simp only [List.getElem?_map, h] at hbases
  obtain ⟨n, hn, hbase⟩ := Option.map_eq_some_iff.1 hbases
  obtain ⟨hi, heq⟩ := List.getElem?_eq_some_iff.1 hn
  refine ⟨_, n, (namings bases).drop (i + 1), ?_, hbase, hn, rfl⟩
  rw [← heq, List.cons_getElem_drop_succ, List.take_append_drop]

/-- What the members of a list would be called alone. -/
def basesOf (memberNames : List String) : List String :=
  memberNames.map ofMember

def namesOf (memberNames : List String) : List String :=
  (ofMembers memberNames).map (·.name)

theorem take_namesOf (memberNames : List String) (i : Nat) :
    (namesOf memberNames).take i = ((namings (basesOf memberNames)).take i).map (·.name) :=
  List.map_take.symm

theorem length_namesOf (memberNames : List String) :
    (namesOf memberNames).length = memberNames.length := by
  have hlength := congrArg List.length (map_base_namings (basesOf memberNames))
  simp only [basesOf, List.length_map] at hlength
  rw [namesOf, List.length_map]
  exact hlength

/-- Each member of a list gets a name of its own. The first of a base is called by the base, and a
later one by the base and the least free number, where the bases of all members count as taken, and
so do the names of the members before it. Numbers have no bound here; the 32 bits with which the
program counts them hold each number of a list shorter than 2 ^ 32, by `numbering_ends`. -/
theorem names_told_apart (memberNames : List String) :
    (namesOf memberNames).length = memberNames.length ∧ (namesOf memberNames).Nodup ∧
      ∀ (i : Nat) (base : String), (basesOf memberNames)[i]? = some base →
        if base ∈ (basesOf memberNames).take i then
          ∃ k, IsLeast (freeNumbers (basesOf memberNames) ((namesOf memberNames).take i) base) k ∧
            (namesOf memberNames)[i]? = some (numbered base k)
        else (namesOf memberNames)[i]? = some base := by
  refine ⟨length_namesOf memberNames, nodup_names_namings _, ?_⟩
  intro i base hbase
  obtain ⟨front, n, back, hsplit, rfl, hn, hfront⟩ := exists_naming hbase
  have hname : (namesOf memberNames)[i]? = some n.name := by
    rw [namesOf, List.getElem?_map]
    exact congrArg _ hn
  have hearlier : (basesOf memberNames).take i = front.map (·.base) := by
    rw [hfront, List.map_take, map_base_namings]
  have hnext := namings_split hsplit
  rw [hname, take_namesOf, ← hfront, hearlier]
  split
  · rename_i hrepeated
    refine ⟨_, (settled_front hsplit).isLeast_nextNumber (bases_split hsplit) hrepeated, ?_⟩
    rw [next_of_repeated hrepeated] at hnext
    exact congrArg (some ·.name) hnext
  · rename_i hnew
    rw [next_of_new hnew] at hnext
    exact congrArg (some ·.name) hnext

/-- Members in each other's way: the fourth owns the base that the third would take first, and the
second one that of the last. -/
def crossingMembers : List String :=
  ["A", "A22", "A", "A2", "a", "A2"]

theorem names_told_apart_crossing :
    (basesOf crossingMembers)[5]? = some "a2" ∧ "a2" ∈ (basesOf crossingMembers).take 5 ∧
      namesOf crossingMembers = ["a", "a22", "a3", "a2", "a4", "a23"] ∧
      ∃ k, IsLeast (freeNumbers (basesOf crossingMembers) ["a", "a22", "a3", "a2", "a4"] "a2") k ∧
        some "a23" = some (numbered "a2" k) := by
  have hbases : basesOf crossingMembers = ["a", "a22", "a", "a2", "a", "a2"] := by
    decide +kernel
  have hbase : (basesOf crossingMembers)[5]? = some "a2" := by rw [hbases]; rfl
  have hrepeated : "a2" ∈ (basesOf crossingMembers).take 5 := by simp [hbases]
  have hnames : namesOf crossingMembers = ["a", "a22", "a3", "a2", "a4", "a23"] := by
    decide +kernel
  have hlast := (names_told_apart crossingMembers).2.2 5 "a2" hbase
  rw [if_pos hrepeated, hnames] at hlast
  exact ⟨hbase, hrepeated, hnames, hlast⟩

end ConstructorPlanning.ParameterName
