import Mathlib.Data.List.Pairwise
import ConstructorPlanning.Proofs.RecordReading
/-!
The order of the entries of an object does not matter to a record whose fields are set independently
of each other.
-/
namespace ConstructorPlanning.Json

variable {α : Type}

namespace RecordField

/-- Whatever is read for two fields, the record can take it in either order. -/
def Commutes (f g : RecordField α) : Prop :=
  ∀ d e s t, f.read d = .ok s → g.read e = .ok t → ∀ x, s (t x) = t (s x)

instance : Std.Symm (Commutes (α := α)) where
  symm _ _ h d e s t hs ht x := (h e d t s ht hs x).symm

/-- Fields that set different parts of the record are independent of each other. -/
theorem commutes_of_read {β γ : Type} {f g : RecordField α} {read : Reader β} {read' : Reader γ}
    {set : β → α → α} {set' : γ → α → α} (hf : f.read = fun d => set <$> read d)
    (hg : g.read = fun d => set' <$> read' d) (h : ∀ b c x, set b (set' c x) = set' c (set b x)) :
    f.Commutes g := by
  intro d e s t hs ht x
  rw [hf] at hs
  rw [hg] at ht
  obtain ⟨b, -, rfl⟩ := map_eq_ok_iff.1 hs
  obtain ⟨c, -, rfl⟩ := map_eq_ok_iff.1 ht
  exact h b c x

end RecordField

namespace RecordShape

variable {shape : RecordShape α}

theorem takes_of_takeEntry {seen out : List String} {x y : α} {key : Quoted} {d : Draft}
    (h : shape.takeEntry seen x key d = .ok (out, y)) :
    ∃ names set, shape.Takes (key, d) names set ∧ (∀ name ∈ names, name ∉ seen) ∧
      out = names ++ seen ∧ y = set x := by
  cases key with
  | none => cases h
  | some key =>
    cases hfield : shape.field? (String.ofList key) with
    | none =>
      simp only [takeEntry, hfield] at h
      split at h
      · cases h
      · rename_i hopen
        cases h
        have htakes := Takes.undeclared (d := d) (Bool.eq_false_iff.2 hopen) hfield
        rw [String.toList_ofList] at htakes
        exact ⟨[], id, htakes, List.forall_mem_nil _, rfl, rfl⟩
    | some field =>
      simp only [takeEntry, hfield, List.contains_iff_mem] at h
      split at h
      · cases h
      · rename_i hnew
        cases hread : field.read d with
        | error fault => rw [hread] at h; cases h
        | ok set =>
          rw [hread] at h
          cases h
          have htakes := Takes.declared hfield hread
          rw [String.toList_ofList] at htakes
          exact ⟨_, set, htakes, by simpa using hnew, rfl, rfl⟩

theorem mem_of_field? {name : String} {field : RecordField α}
    (h : shape.field? name = some field) : field ∈ shape.fields ∧ field.name = name :=
  ⟨List.mem_of_find?_eq_some h, by simpa using List.find?_some h⟩

/-- The fields of the record are set independently of each other. -/
def Independent (shape : RecordShape α) : Prop :=
  shape.fields.Pairwise RecordField.Commutes

theorem Takes.commute (hind : shape.Independent) {entry entry' : Quoted × Draft}
    {names names' : List String} {set set' : α → α} (h : shape.Takes entry names set)
    (h' : shape.Takes entry' names' set') (hapart : ∀ name ∈ names, name ∉ names') (x : α) :
    set (set' x) = set' (set x) := by
  cases h with
  | undeclared => rfl
  | @declared name d field set hfield hread =>
    cases h' with
    | undeclared => rfl
    | @declared name' d' field' set' hfield' hread' =>
      obtain ⟨hmem, hname⟩ := mem_of_field? hfield
      obtain ⟨hmem', hname'⟩ := mem_of_field? hfield'
      have hdiffer : field ≠ field' := by
        rintro rfl
        exact hapart _ List.mem_cons_self (by rw [← hname, hname']; exact List.mem_cons_self)
      have hcommutes : field.Commutes field' :=
        hind.forall hmem hmem' hdiffer
      exact hcommutes d d' set set' hread hread' x

theorem takeEntries_cons_eq_ok {seen out : List String} {x y : α} {key : Quoted} {d : Draft}
    {entries : List (Quoted × Draft)}
    (h : shape.takeEntries seen x ((key, d) :: entries) = .ok (out, y)) :
    ∃ names set, shape.Takes (key, d) names set ∧ (∀ name ∈ names, name ∉ seen) ∧
      shape.takeEntries (names ++ seen) (set x) entries = .ok (out, y) := by
  rw [takeEntries] at h
  cases hentry : shape.takeEntry seen x key d with
  | error fault => rw [hentry] at h; cases h
  | ok result =>
    obtain ⟨seen', x'⟩ := result
    rw [hentry] at h
    obtain ⟨names, set, htakes, hnew, rfl, rfl⟩ := takes_of_takeEntry hentry
    exact ⟨names, set, htakes, hnew, h⟩

/-- Only the names read so far matter, not their order. -/
theorem takeEntries_seen {entries : List (Quoted × Draft)} {seen seen' out : List String} {x y : α}
    (hseen : seen.Perm seen') (h : shape.takeEntries seen x entries = .ok (out, y)) :
    ∃ out', out.Perm out' ∧ shape.takeEntries seen' x entries = .ok (out', y) := by
  induction entries generalizing seen seen' x with
  | nil =>
    cases h
    exact ⟨seen', hseen, rfl⟩
  | cons entry entries ih =>
    obtain ⟨names, set, htakes, hnew, hrest⟩ := takeEntries_cons_eq_ok h
    have hnew' : ∀ name ∈ names, name ∉ seen' := fun name hname hin =>
      hnew name hname (hseen.mem_iff.2 hin)
    rw [htakes.takeEntries hnew']
    exact ih (hseen.append_left names) hrest

theorem takeEntries_perm (hind : shape.Independent) {entries entries' : List (Quoted × Draft)}
    (hperm : entries.Perm entries') {seen out : List String} {x y : α}
    (h : shape.takeEntries seen x entries = .ok (out, y)) :
    ∃ out', out.Perm out' ∧ shape.takeEntries seen x entries' = .ok (out', y) := by
  induction hperm generalizing seen out x with
  | nil => exact ⟨out, .refl out, h⟩
  | cons entry _ ih =>
    obtain ⟨names, set, htakes, hnew, hrest⟩ := takeEntries_cons_eq_ok h
    rw [htakes.takeEntries hnew]
    exact ih hrest
  | swap a b entries =>
    obtain ⟨names, set, htakes, hnew, hrest⟩ := takeEntries_cons_eq_ok h
    obtain ⟨names', set', htakes', hnew', hrest⟩ := takeEntries_cons_eq_ok hrest
    have hfirst : ∀ name ∈ names', name ∉ seen := fun name hname hin =>
      hnew' name hname (List.mem_append_right names hin)
    -- the second entry finds the names of the first already read, so the two have none in common
    have hapart : ∀ name ∈ names', name ∉ names := fun name hname hin =>
      hnew' name hname (List.mem_append_left seen hin)
    have hsecond : ∀ name ∈ names, name ∉ names' ++ seen := by
      intro name hname hin
      rcases List.mem_append.1 hin with hin | hin
      · exact hapart name hin hname
      · exact hnew name hname hin
    rw [htakes'.takeEntries hfirst, htakes.takeEntries hsecond,
      ← htakes'.commute hind htakes hapart]
    refine takeEntries_seen ?_ hrest
    rw [← List.append_assoc, ← List.append_assoc]
    exact List.perm_append_comm.append_right seen
  | trans _ _ ih ih' =>
    obtain ⟨middle, hmiddle, htake⟩ := ih h
    obtain ⟨out', hout, htake'⟩ := ih' htake
    exact ⟨out', hmiddle.trans hout, htake'⟩

theorem readObject_perm (hind : shape.Independent) {entries entries' : List (Quoted × Draft)}
    (hperm : entries.Perm entries') {x : α} (h : shape.readObject entries .closed = .ok x) :
    shape.readObject entries' .closed = .ok x := by
  obtain ⟨seen, htake, hmissing⟩ := readObject_closed_eq_ok_iff.1 h
  obtain ⟨seen', hseen, htake'⟩ := takeEntries_perm hind hperm htake
  refine readObject_closed_eq_ok_iff.2 ⟨seen', htake', ?_⟩
  rw [missing?_eq_none_iff] at hmissing ⊢
  intro field hfield hneeded
  exact hseen.mem_iff.1 (hmissing field hfield hneeded)

/-- A record is read from what was written for it in any order and among undeclared entries. -/
theorem read_of_writes_perm (hnames : shape.fieldNames.Nodup) (hopen : shape.isClosed = false)
    (hind : shape.Independent) {extras entries : List (String × Json)} {x : α}
    (hextras : ∀ entry ∈ extras, entry.1 ∉ shape.fieldNames)
    (h : shape.Writes shape.fields entries shape.blank x) {read : List (Quoted × Draft)}
    (hperm : (entryDrafts (extras ++ entries)).Perm read) :
    shape.read (.object read .closed) = .ok x :=
  readObject_perm hind hperm (read_of_writes hnames (h.append_undeclared hopen hextras))

end RecordShape

end ConstructorPlanning.Json
