import ConstructorPlanning.Command.Files
/-!
Where a path leads that is used in a directory, and what can be read there.
-/
namespace ConstructorPlanning.Command

section Paths

/-- `full` is the path that a path stands for in a directory. An absolute path stands for itself; a
relative one is put behind the directory, with one slash between them. -/
inductive SeenFrom (directory path : String) : String → Prop where
  | absolute (h : path.toList.head? = some '/') : SeenFrom directory path path
  | behindSlash (h : path.toList.head? ≠ some '/')
      (hslash : directory.toList.getLast? = some '/') : SeenFrom directory path (directory ++ path)
  | nowhere (h : path.toList.head? ≠ some '/') (hempty : directory = "") :
    SeenFrom directory path path
  | below (h : path.toList.head? ≠ some '/') (hsome : directory ≠ "")
      (hslash : directory.toList.getLast? ≠ some '/') :
    SeenFrom directory path (directory ++ "/" ++ path)

theorem startsWith_slash {path : String} :
    path.startsWith "/" ↔ path.toList.head? = some '/' := by
  rw [String.startsWith_string_iff, List.head?_eq_some_iff]
  exact exists_congr fun rest => eq_comm

theorem endsWith_slash {path : String} :
    path.endsWith "/" ↔ path.toList.getLast? = some '/' := by
  rw [String.endsWith_eq_endsWith_toSlice, String.Slice.endsWith_string_iff, String.copy_toSlice,
    List.getLast?_eq_some_iff]
  exact exists_congr fun front => eq_comm

theorem joined_eq_iff {directory path full : String} :
    joined directory path = full ↔ SeenFrom directory path full := by
  simp only [joined, startsWith_slash, Bool.or_eq_true, String.isEmpty_iff, endsWith_slash]
  constructor
  · rintro rfl
    split
    · rename_i h
      exact .absolute h
    · rename_i h
      split
      · rename_i hdirectory
        rcases hdirectory with hempty | hslash
        · rw [hempty, String.empty_append]
          exact .nowhere h rfl
        · exact .behindSlash h hslash
      · rename_i hdirectory
        obtain ⟨hsome, hslash⟩ := not_or.1 hdirectory
        exact .below h hsome hslash
  · intro h
    cases h with
    | absolute h => rw [if_pos h]
    | behindSlash h hslash => rw [if_neg h, if_pos (.inr hslash)]
    | nowhere h hempty => rw [if_neg h, if_pos (.inl hempty), hempty, String.empty_append]
    | below h hsome hslash => rw [if_neg h, if_neg (not_or.2 ⟨hsome, hslash⟩)]

end Paths

section Entries

/-- A regular file stands there, whether or not it may be read. -/
inductive RegularFile : Entry → Prop where
  | file (content : ByteArray) : RegularFile (.file content)
  | withheld (reason : String) : RegularFile (.withheld true reason)

theorem isFile_iff {entry : Entry} : entry.isFile ↔ RegularFile entry := by
  constructor
  · intro h
    cases entry with
    | file content => exact .file content
    | withheld isFile reason =>
      cases isFile with
      | true => exact .withheld reason
      | false => cases h
    | _ => cases h
  · rintro (_ | _) <;> rfl

/-- What stands there is a text in UTF-8. -/
inductive HoldsText : Entry → String → Prop where
  | file (text : String) : HoldsText (.file text.toUTF8) text
  | stream (text : String) : HoldsText (.stream text.toUTF8) text

/-- There is nothing to read, or no text in UTF-8. -/
inductive Unreadable : Entry → ReadFault → Prop where
  | absent : Unreadable .absent .notFound
  | behindFile : Unreadable .behindFile .notADirectory
  | directory : Unreadable .directory .isADirectory
  | withheld (isFile : Bool) (reason : String) :
    Unreadable (.withheld isFile reason) (.withheld reason)
  | fileNotText {content : ByteArray} (h : ∀ text : String, text.toUTF8 ≠ content) :
    Unreadable (.file content) .notText
  | streamNotText {content : ByteArray} (h : ∀ text : String, text.toUTF8 ≠ content) :
    Unreadable (.stream content) .notText

theorem fromUTF8?_eq_some_iff {content : ByteArray} {text : String} :
    String.fromUTF8? content = some text ↔ text.toUTF8 = content := by
  constructor
  · intro h
    rw [String.fromUTF8?] at h
    split at h
    · cases h
      rfl
    · cases h
  · rintro rfl
    exact dif_pos text.isValidUTF8

theorem text_eq_ok_iff {entry : Entry} {text : String} :
    entry.text = .ok text ↔ HoldsText entry text := by
  constructor
  · intro h
    cases entry with
    | file content | stream content =>
      rw [Entry.text] at h
      split at h
      · rename_i hcontent
        cases h
        obtain rfl := fromUTF8?_eq_some_iff.1 hcontent
        constructor
      · cases h
    | _ => cases h
  · intro h
    cases h with
    | file | stream => rw [Entry.text, fromUTF8?_eq_some_iff.2 rfl]

theorem text_eq_error_iff {entry : Entry} {fault : ReadFault} :
    entry.text = .error fault ↔ Unreadable entry fault := by
  have hnone : ∀ content : ByteArray, String.fromUTF8? content = none ↔
      ∀ text : String, text.toUTF8 ≠ content := fun content => by
    simp only [Option.eq_none_iff_forall_ne_some, ne_eq, fromUTF8?_eq_some_iff]
  constructor
  · intro h
    cases entry with
    | file content =>
      rw [Entry.text] at h
      split at h
      · cases h
      · rename_i hcontent
        cases h
        exact .fileNotText ((hnone content).1 hcontent)
    | stream content =>
      rw [Entry.text] at h
      split at h
      · cases h
      · rename_i hcontent
        cases h
        exact .streamNotText ((hnone content).1 hcontent)
    | _ =>
      cases h
      constructor
  · intro h
    cases h with
    | fileNotText h | streamNotText h => rw [Entry.text, (hnone _).2 h]
    | _ => rfl

end Entries

namespace FileTree

variable {tree : FileTree} {place place' : List String}

/-- The names lead from a place in the tree to another one, through directories only. -/
inductive Leads (tree : FileTree) : List String → List String → List String → Prop where
  | here (place : List String) : Leads tree place [] place
  | stay {place place' rest : List String} {name : String}
      (hdirectory : tree.lookup place = .directory) (hname : name = "" ∨ name = ".")
      (h : Leads tree place rest place') : Leads tree place (name :: rest) place'
  | up {place place' rest : List String} (hdirectory : tree.lookup place = .directory)
      (h : Leads tree place.dropLast rest place') : Leads tree place (".." :: rest) place'
  | down {place place' rest : List String} {name : String}
      (hdirectory : tree.lookup place = .directory) (hname : name ∉ ["", ".", ".."])
      (h : Leads tree (place ++ [name]) rest place') : Leads tree place (name :: rest) place'

theorem Leads.follow {names : List String} (h : tree.Leads place names place')
    (rest : List String) : tree.follow place (names ++ rest) = tree.follow place' rest := by
  induction h with
  | here => rfl
  | stay hdirectory hname _ ih =>
    rw [List.cons_append, FileTree.follow, hdirectory]
    simp only [if_pos hname]
    exact ih
  | up hdirectory _ ih =>
    rw [List.cons_append, FileTree.follow, hdirectory]
    exact ih
  | down hdirectory hname _ ih =>
    rw [List.cons_append, FileTree.follow, hdirectory]
    simp only [List.mem_cons, List.not_mem_nil, or_false, not_or] at hname
    simp only [hname, or_self, if_false]
    exact ih

theorem Leads.of_append {names rest : List String} (h : tree.Leads place (names ++ rest) place') :
    ∃ middle, tree.Leads place names middle ∧ tree.Leads middle rest place' := by
  induction names generalizing place with
  | nil => exact ⟨place, .here place, h⟩
  | cons name names ih =>
    cases h with
    | stay hdirectory hname h =>
      obtain ⟨middle, hfront, hback⟩ := ih h
      exact ⟨middle, .stay hdirectory hname hfront, hback⟩
    | up hdirectory h =>
      obtain ⟨middle, hfront, hback⟩ := ih h
      exact ⟨middle, .up hdirectory hfront, hback⟩
    | down hdirectory hname h =>
      obtain ⟨middle, hfront, hback⟩ := ih h
      exact ⟨middle, .down hdirectory hname hfront, hback⟩

/-- The empty name behind a slash at the end leads nowhere else. -/
theorem Leads.eq_of_empty {name : String} (hname : name = "")
    (h : tree.Leads place [name] place') : place = place' := by
  cases h with
  | stay _ _ h =>
    cases h
    rfl
  | up => exact absurd hname (by decide)
  | down _ hother => exact absurd (List.mem_cons.2 (.inl hname)) hother

theorem pathNames_slash {directory path : String} {front : List Char}
    (h : directory.toList = front ++ ['/']) :
    pathNames directory = pathNames (String.ofList front) ++ [""] ∧
      pathNames (directory ++ path) = pathNames (String.ofList front) ++ pathNames path := by
  simp [pathNames, h, List.splitOn_append_cons_self]

theorem pathNames_below (directory path : String) :
    pathNames (directory ++ "/" ++ path) = pathNames directory ++ pathNames path := by
  simp [pathNames, List.splitOn_append_cons_self]

/-- A relative path is followed from the directory in which it is used. -/
theorem files_joined {directory path : String} (hrelative : path.toList.head? ≠ some '/')
    (h : tree.Leads [] (pathNames directory) place) :
    tree.files (joined directory path) = tree.follow place (pathNames path) := by
  generalize hfull : joined directory path = full
  cases joined_eq_iff.1 hfull with
  | absolute habsolute => exact absurd habsolute hrelative
  | behindSlash _ hslash =>
    obtain ⟨front, hfront⟩ := List.getLast?_eq_some_iff.1 hslash
    obtain ⟨hdirectory, hjoined⟩ := pathNames_slash hfront
    rw [hdirectory] at h
    obtain ⟨middle, hleads, hempty⟩ := h.of_append
    rw [files, hjoined, hleads.follow, hempty.eq_of_empty rfl]
  | nowhere _ hempty =>
    rw [hempty] at h
    rw [files, ← h.eq_of_empty rfl]
  | below => rw [files, pathNames_below, h.follow]

end FileTree

end ConstructorPlanning.Command
