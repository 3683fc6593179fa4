import Mathlib.Data.List.Nodup
import ConstructorPlanning.Planning.Delegation
/-!
How the slots of a delegating call get their candidates. In a pass each slot is settled from the
places taken before the pass and those that the slots before it take; from this follows what three
passes come to: who is bound can take what it has, nobody shares, and who stays open has found
everything taken.
-/
namespace ConstructorPlanning.Delegation

section Pass

variable (fits : Parameter → GeneratedParameter → Bool) (cs : List Candidate)

def firstFit (used : List Nat) (p : Parameter) : Option Candidate :=
  cs.find? fun c => !used.contains c.2 && fits p c.1

theorem firstFit_some {used : List Nat} {p : Parameter} {c : Candidate}
    (h : firstFit fits cs used p = some c) : c ∈ cs ∧ c.2 ∉ used ∧ fits p c.1 := by
  rw [firstFit] at h
  refine ⟨List.mem_of_find?_eq_some h, ?_⟩
  simpa using List.find?_some h

theorem firstFit_none {used : List Nat} {p : Parameter} {c : Candidate}
    (h : firstFit fits cs used p = none) (hc : c ∈ cs) (hfits : fits p c.1) : c.2 ∈ used := by
  have hused := List.find?_eq_none.1 h c hc
  by_contra hfree
  simp [hfree, hfits] at hused

/-- What becomes of a slot when it is reached. -/
def Slot.settled (used : List Nat) (slot : Slot) : Slot where
  parameter := slot.parameter
  bound := slot.bound.or (firstFit fits cs used slot.parameter)

theorem taken_append (slots more : List Slot) : taken (slots ++ more) = taken slots ++ taken more :=
  List.filterMap_append

theorem taken_cons (slot : Slot) (rest : List Slot) :
    taken (slot :: rest) = taken [slot] ++ taken rest :=
  taken_append [slot] rest

theorem mem_taken {slots : List Slot} {n : Nat} :
    n ∈ taken slots ↔ ∃ slot ∈ slots, ∃ c, slot.bound = some c ∧ c.2 = n := by
  simp only [taken, List.mem_filterMap, Option.map_eq_some_iff]

theorem bindOpen_congr {used used' : List Nat} (h : ∀ n, n ∈ used ↔ n ∈ used')
    (slots : List Slot) : bindOpen fits cs used slots = bindOpen fits cs used' slots := by
  induction slots generalizing used used' with
  | nil => rfl
  | cons slot rest ih =>
    have hcontains (n : Nat) : used.contains n = used'.contains n := by
      rw [Bool.eq_iff_iff, List.contains_iff_mem, List.contains_iff_mem]
      exact h n
    have hcons (m n : Nat) : n ∈ m :: used ↔ n ∈ m :: used' := by
      rw [List.mem_cons, List.mem_cons, h]
    simp only [bindOpen, hcontains, ih h, fun m => ih (hcons m)]

/-- A pass settles the first slot and goes on with one more place taken, if any. -/
theorem bindOpen_cons {used : List Nat} {slot : Slot} {rest : List Slot}
    (h : taken (slot :: rest) ⊆ used) :
    bindOpen fits cs used (slot :: rest) = slot.settled fits cs used ::
      bindOpen fits cs (used ++ taken [slot.settled fits cs used]) rest := by
  obtain ⟨p, bound⟩ := slot
  cases bound with
  | some c =>
    have hc : c.2 ∈ used := h (mem_taken.2 ⟨_, List.mem_cons_self, c, rfl, rfl⟩)
    -- The pass adds no place here, but the place of a bound slot is among the used ones anyway.
    have hsame : ∀ n, n ∈ used ↔ n ∈ used ++ [c.2] := by
      intro n
      rw [List.mem_append, List.mem_singleton]
      constructor
      · exact .inl
      · intro hn
        rcases hn with hin | rfl
        · exact hin
        · exact hc
    exact congrArg _ (bindOpen_congr fits cs hsame rest)
  | none =>
    rw [bindOpen, Slot.settled, Option.none_or, firstFit]
    cases cs.find? fun c => !used.contains c.2 && fits p c.1 with
    | none =>
      change _ = _ :: bindOpen fits cs (used ++ []) rest
      rw [List.append_nil]
    | some c =>
      refine congrArg _ (bindOpen_congr fits cs ?_ rest)
      intro n
      change n ∈ c.2 :: used ↔ n ∈ used ++ [c.2]
      rw [List.mem_cons, List.mem_append, List.mem_singleton, or_comm]

/-- Each slot is settled from the used places and from what the slots before it have got. -/
theorem getElem?_bindOpen {used : List Nat} {slots : List Slot} (h : taken slots ⊆ used) (i : Nat) :
    (bindOpen fits cs used slots)[i]? = slots[i]?.map
      (Slot.settled fits cs (used ++ taken ((bindOpen fits cs used slots).take i))) := by
  induction slots generalizing used i with
  | nil => rfl
  | cons slot rest ih =>
    rw [bindOpen_cons fits cs h]
    cases i with
    | zero =>
      change some _ = some (Slot.settled fits cs (used ++ []) slot)
      rw [List.append_nil]
    | succ i =>
      have hrest : taken rest ⊆ used ++ taken [slot.settled fits cs used] := by
        rw [taken_cons] at h
        intro n hn
        exact List.mem_append_left _ (h (List.mem_append_right _ hn))
      rw [List.getElem?_cons_succ, List.getElem?_cons_succ, List.take_succ_cons, ih hrest i,
        taken_cons _ (List.take i _), List.append_assoc]

variable (slots : List Slot)

/-- How a slot got where it stands after a pass: it was bound before and kept its candidate, it is
open and nothing was left for it, or it was open and took the first candidate left for it. -/
theorem settled_bindPass (i : Nat) :
    (bindPass fits cs slots)[i]? = slots[i]?.map
      (Slot.settled fits cs (taken slots ++ taken ((bindPass fits cs slots).take i))) :=
  getElem?_bindOpen fits cs (List.Subset.refl _) i

theorem map_parameter_bindPass :
    (bindPass fits cs slots).map (·.parameter) = slots.map (·.parameter) := by
  apply List.ext_getElem?
  intro i
  rw [List.getElem?_map, List.getElem?_map, settled_bindPass, Option.map_map]
  rfl

variable {fits cs slots}

theorem bindPass_of_bound {i : Nat} {slot : Slot} {c : Candidate} (h : slots[i]? = some slot)
    (hbound : slot.bound = some c) : (bindPass fits cs slots)[i]? = some slot := by
  obtain ⟨p, bound⟩ := slot
  obtain rfl : bound = some c := hbound
  rw [settled_bindPass, h]
  rfl

theorem taken_subset_bindPass : taken slots ⊆ taken (bindPass fits cs slots) := by
  intro n hn
  obtain ⟨slot, hslot, c, hbound, hc⟩ := mem_taken.1 hn
  obtain ⟨i, hi⟩ := List.getElem?_of_mem hslot
  exact mem_taken.2 ⟨slot, List.mem_of_getElem? (bindPass_of_bound hi hbound), c, hbound, hc⟩

/-- A slot that is open after a pass was open before, and when it was reached, every candidate that
fits it was taken. -/
theorem bindPass_passed {i : Nat} {slot : Slot} (h : (bindPass fits cs slots)[i]? = some slot)
    (hopen : slot.bound = none) :
    slots[i]? = some slot ∧ ∀ c ∈ cs, fits slot.parameter c.1 →
      c.2 ∈ taken slots ∨ c.2 ∈ taken ((bindPass fits cs slots).take i) := by
  rw [settled_bindPass] at h
  obtain ⟨before, hbefore, rfl⟩ := Option.map_eq_some_iff.1 h
  obtain ⟨hnone, hfirst⟩ := Option.or_eq_none_iff.1 hopen
  refine ⟨?_, ?_⟩
  · rw [hbefore, Slot.settled, hnone, Option.none_or, hfirst, ← hnone]
  · intro c hc hfits
    exact List.mem_append.1 (firstFit_none fits cs hfirst hc hfits)

/-- A slot that is open after a pass was open before, and every candidate that fits it is taken. -/
theorem bindPass_open {i : Nat} {slot : Slot} (h : (bindPass fits cs slots)[i]? = some slot)
    (hopen : slot.bound = none) :
    slots[i]? = some slot ∧
      ∀ c ∈ cs, fits slot.parameter c.1 → c.2 ∈ taken (bindPass fits cs slots) := by
  obtain ⟨hbefore, hpassed⟩ := bindPass_passed h hopen
  refine ⟨hbefore, ?_⟩
  intro c hc hfits
  rcases hpassed c hc hfits with hin | hin
  · exact taken_subset_bindPass hin
  · obtain ⟨other, hother, hbound⟩ := mem_taken.1 hin
    exact mem_taken.2 ⟨other, List.mem_of_mem_take hother, hbound⟩

/-- Unless a slot was already bound as it stands after a pass, it was open before. -/
theorem bindPass_open_before {i : Nat} {slot : Slot} (h : (bindPass fits cs slots)[i]? = some slot)
    (hnew : slots[i]? ≠ some slot) : slots[i]? = some ⟨slot.parameter, none⟩ := by
  rw [settled_bindPass] at h
  obtain ⟨⟨p, bound⟩, hbefore, rfl⟩ := Option.map_eq_some_iff.1 h
  cases bound with
  | none => exact hbefore
  | some c => exact absurd hbefore hnew

/-- A slot that is bound after a pass was bound before, or has taken a candidate that fits it and
that no slot had. -/
theorem bindPass_bound {i : Nat} {slot : Slot} {c : Candidate}
    (h : (bindPass fits cs slots)[i]? = some slot) (hbound : slot.bound = some c) :
    slots[i]? = some slot ∨
      c ∈ cs ∧ fits slot.parameter c.1 ∧ c.2 ∉ taken slots ∧
        c.2 ∉ taken ((bindPass fits cs slots).take i) := by
  rw [settled_bindPass] at h
  obtain ⟨⟨p, bound⟩, hbefore, rfl⟩ := Option.map_eq_some_iff.1 h
  cases bound with
  | some d => exact .inl hbefore
  | none =>
    right
    have hfirst : firstFit fits cs _ p = some c := hbound
    obtain ⟨hc, hfree, hfits⟩ := firstFit_some fits cs hfirst
    rw [List.mem_append, not_or] at hfree
    exact ⟨hc, hfits, hfree⟩

/-- Every slot that is bound has a candidate it is able to take, and no place is taken twice. -/
structure Wired (able : Parameter → GeneratedParameter → Bool) (cs : List Candidate)
    (slots : List Slot) : Prop where
  bound_able : ∀ slot ∈ slots, ∀ c, slot.bound = some c → c ∈ cs ∧ able slot.parameter c.1
  once : ∀ (i j : Nat) (a b : Slot) (c d : Candidate), slots[i]? = some a → slots[j]? = some b →
    a.bound = some c → b.bound = some d → c.2 = d.2 → i = j

theorem Wired.mono {able able' : Parameter → GeneratedParameter → Bool} (h : Wired able cs slots)
    (hable : ∀ p c, able p c → able' p c) : Wired able' cs slots where
  bound_able := fun slot hslot c hbound =>
    ⟨(h.bound_able slot hslot c hbound).1, hable _ _ (h.bound_able slot hslot c hbound).2⟩
  once := h.once

theorem Wired.bindPass {able : Parameter → GeneratedParameter → Bool} (h : Wired able cs slots)
    (hable : ∀ p c, fits p c → able p c) : Wired able cs (bindPass fits cs slots) := by
  refine ⟨?_, ?_⟩
  · intro slot hslot c hbound
    obtain ⟨i, hi⟩ := List.getElem?_of_mem hslot
    rcases bindPass_bound hi hbound with hold | ⟨hc, hfits, _⟩
    · exact h.bound_able slot (List.mem_of_getElem? hold) c hbound
    · exact ⟨hc, hable _ _ hfits⟩
  · intro i j a b c d ha hb hac hbd hcd
    rcases bindPass_bound ha hac with hold | ⟨_, _, hnew, hbefore⟩
    · rcases bindPass_bound hb hbd with hold' | ⟨_, _, hnew', _⟩
      · exact h.once i j a b c d hold hold' hac hbd hcd
      · exact absurd (mem_taken.2 ⟨a, List.mem_of_getElem? hold, c, hac, hcd⟩) hnew'
    · rcases bindPass_bound hb hbd with hold' | ⟨_, _, _, hbefore'⟩
      · exact absurd (mem_taken.2 ⟨b, List.mem_of_getElem? hold', d, hbd, hcd.symm⟩) hnew
      · rcases Nat.lt_trichotomy i j with hlt | heq | hgt
        · rw [← List.getElem?_take_of_lt hlt] at ha
          exact absurd (mem_taken.2 ⟨a, List.mem_of_getElem? ha, c, hac, hcd⟩) hbefore'
        · exact heq
        · rw [← List.getElem?_take_of_lt hgt] at hb
          exact absurd (mem_taken.2 ⟨b, List.mem_of_getElem? hb, d, hbd, hcd.symm⟩) hbefore

/-- No place is taken twice. -/
theorem Wired.nodup_taken {able : Parameter → GeneratedParameter → Bool} (h : Wired able cs slots) :
    (taken slots).Nodup := by
  rw [taken, List.Nodup, List.pairwise_filterMap, List.pairwise_iff_getElem]
  rintro i j hi hj hij n hn _ hn' rfl
  obtain ⟨c, hc, hcn⟩ := Option.map_eq_some_iff.1 hn
  obtain ⟨d, hd, hdn⟩ := Option.map_eq_some_iff.1 hn'
  have hsame := h.once i j _ _ c d (List.getElem?_eq_getElem hi) (List.getElem?_eq_getElem hj) hc hd
    (hcn.trans hdn.symm)
  exact absurd hsame (Nat.ne_of_lt hij)

end Pass

section Slots

variable {delegate : Constructor} {ps : List GeneratedParameter}

theorem mem_candidates {c : Candidate} : c ∈ candidates delegate ps ↔
    (ps.filter fun p => delegate.assignedMembers.contains p.member)[c.2]? = some c.1 :=
  List.mem_zipIdx_iff_getElem?

theorem candidate_mem {c : Candidate} (h : c ∈ candidates delegate ps) :
    c.1 ∈ ps ∧ c.1.member ∈ delegate.assignedMembers := by
  simpa using List.mem_filter.1 (List.mem_of_getElem? (mem_candidates.1 h))

theorem exists_candidate {p : GeneratedParameter} (hp : p ∈ ps)
    (h : p.member ∈ delegate.assignedMembers) : ∃ n, (p, n) ∈ candidates delegate ps := by
  have hfilter : p ∈ ps.filter fun p => delegate.assignedMembers.contains p.member := by
    simpa using ⟨hp, h⟩
  obtain ⟨n, hn⟩ := List.getElem?_of_mem hfilter
  exact ⟨n, mem_candidates.2 hn⟩

/-- The place of a candidate says which one it is. -/
theorem eq_of_place {c d : Candidate} (hc : c ∈ candidates delegate ps)
    (hd : d ∈ candidates delegate ps) (h : c.2 = d.2) : c = d := by
  rw [mem_candidates] at hc hd
  rw [h] at hc
  exact Prod.ext (Option.some.inj (hc.symm.trans hd)) h

/-- Where no generated parameter is repeated, neither is a candidate. -/
theorem eq_of_parameter (hps : ps.Nodup) {c d : Candidate} (hc : c ∈ candidates delegate ps)
    (hd : d ∈ candidates delegate ps) (h : c.1 = d.1) : c = d := by
  have hplace := hd
  rw [mem_candidates] at hc hplace
  obtain ⟨hlt, _⟩ := List.getElem?_eq_some_iff.1 hc
  rw [← h, ← hc] at hplace
  exact Prod.ext h ((List.getElem?_inj hlt (hps.filter _)).1 hplace.symm)

/-- A place that is taken is taken by a slot bound to the candidate at that place. -/
theorem Wired.bound_of_taken {able : Parameter → GeneratedParameter → Bool} {slots : List Slot}
    (h : Wired able (candidates delegate ps) slots) {c : Candidate}
    (hc : c ∈ candidates delegate ps) (htaken : c.2 ∈ taken slots) :
    ∃ (j : Nat) (slot : Slot), slots[j]? = some slot ∧ slot.bound = some c ∧
      able slot.parameter c.1 := by
  obtain ⟨slot, hslot, d, hbound, hplace⟩ := mem_taken.1 htaken
  obtain ⟨hd, hable⟩ := h.bound_able slot hslot d hbound
  obtain rfl := eq_of_place hd hc hplace
  obtain ⟨j, hj⟩ := List.getElem?_of_mem hslot
  exact ⟨j, slot, hj, hbound, hable⟩

/-- The delegate's parameter can take the candidate, by one rule or another. -/
def canTake (p : Parameter) (c : GeneratedParameter) : Bool :=
  isAnnotatedFor p c || isNamedFor p c || isTypedFor p c

theorem canTake_iff (p : Parameter) (c : GeneratedParameter) :
    canTake p c ↔ isAnnotatedFor p c ∨ isNamedFor p c ∨ isTypedFor p c := by
  rw [canTake, Bool.or_eq_true, Bool.or_eq_true, or_assoc]

theorem map_parameter_bindSlots (delegate : Constructor) (ps : List GeneratedParameter) :
    (bindSlots delegate ps).map (·.parameter) = delegate.parameters := by
  simp only [bindSlots, map_parameter_bindPass, List.map_map]
  exact List.map_id _

theorem slot_of_parameter {i : Nat} {q : Parameter} : delegate.parameters[i]? = some q ↔
    ∃ slot, (bindSlots delegate ps)[i]? = some slot ∧ slot.parameter = q := by
  rw [← Option.map_eq_some_iff, ← List.getElem?_map, map_parameter_bindSlots]

/-- The delegate's parameters before anything is bound to them. -/
def openSlots (delegate : Constructor) : List Slot :=
  delegate.parameters.map fun p => { parameter := p }

def annotatedSlots (delegate : Constructor) (ps : List GeneratedParameter) : List Slot :=
  bindPass isAnnotatedFor (candidates delegate ps) (openSlots delegate)

def namedSlots (delegate : Constructor) (ps : List GeneratedParameter) : List Slot :=
  bindPass isNamedFor (candidates delegate ps) (annotatedSlots delegate ps)

theorem bound_openSlots {slot : Slot} (h : slot ∈ openSlots delegate) : slot.bound = none := by
  obtain ⟨p, _, rfl⟩ := List.mem_map.1 h
  rfl

theorem taken_openSlots (delegate : Constructor) : taken (openSlots delegate) = [] := by
  rw [List.eq_nil_iff_forall_not_mem]
  intro n hn
  obtain ⟨slot, hslot, c, hbound, _⟩ := mem_taken.1 hn
  rw [bound_openSlots hslot] at hbound
  cases hbound

theorem wired_openSlots (able : Parameter → GeneratedParameter → Bool) (delegate : Constructor)
    (ps : List GeneratedParameter) :
    Wired able (candidates delegate ps) (openSlots delegate) := by
  refine ⟨?_, ?_⟩
  · intro slot hslot c hbound
    rw [bound_openSlots hslot] at hbound
    cases hbound
  · intro i j a b c d ha _ hac
    rw [bound_openSlots (List.mem_of_getElem? ha)] at hac
    cases hac

theorem wired_annotatedSlots (delegate : Constructor) (ps : List GeneratedParameter) :
    Wired isAnnotatedFor (candidates delegate ps) (annotatedSlots delegate ps) :=
  (wired_openSlots isAnnotatedFor delegate ps).bindPass fun _ _ hfits => hfits

theorem wired_namedSlots (delegate : Constructor) (ps : List GeneratedParameter) :
    Wired (fun p c => isAnnotatedFor p c || isNamedFor p c) (candidates delegate ps)
      (namedSlots delegate ps) := by
  refine ((wired_annotatedSlots delegate ps).mono ?_).bindPass ?_
  · intro p c hannotated
    simp [hannotated]
  · intro p c hnamed
    simp [hnamed]

theorem wired_bindSlots (delegate : Constructor) (ps : List GeneratedParameter) :
    Wired canTake (candidates delegate ps) (bindSlots delegate ps) := by
  refine ((wired_namedSlots delegate ps).mono ?_).bindPass ?_
  · intro p c hearlier
    simp [canTake, hearlier]
  · intro p c htyped
    simp [canTake, htyped]

/-- A slot stays open only if every candidate that it can take is taken. -/
theorem bindSlots_open {i : Nat} {slot : Slot} (h : (bindSlots delegate ps)[i]? = some slot)
    (hopen : slot.bound = none) {c : Candidate} (hc : c ∈ candidates delegate ps)
    (hcan : canTake slot.parameter c.1) : c.2 ∈ taken (bindSlots delegate ps) := by
  obtain ⟨hnamed, htyped⟩ := bindPass_open h hopen
  obtain ⟨hannotated, hnamed'⟩ := bindPass_open hnamed hopen
  obtain ⟨_, hannotated'⟩ := bindPass_open hannotated hopen
  rcases (canTake_iff _ _).1 hcan with hfits | hfits | hfits
  · exact taken_subset_bindPass (taken_subset_bindPass (hannotated' c hc hfits))
  · exact taken_subset_bindPass (hnamed' c hc hfits)
  · exact htyped c hc hfits

theorem getElem?_arguments (delegate : Constructor) (ps : List GeneratedParameter) (i : Nat) :
    (arguments delegate ps)[i]? = (bindSlots delegate ps)[i]?.map fun slot => argument slot i := by
  rw [arguments, List.getElem?_map, List.getElem?_zipIdx, Option.map_map, Nat.zero_add]
  rfl

theorem length_arguments (delegate : Constructor) (ps : List GeneratedParameter) :
    (arguments delegate ps).length = delegate.parameters.length := by
  rw [arguments, List.length_map, List.length_zipIdx, ← map_parameter_bindSlots delegate ps,
    List.length_map]

end Slots

end ConstructorPlanning.Delegation
