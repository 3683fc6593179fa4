/-!
What stands at a path. A run looks at two files at most, so all it knows of a file system is an
answer for each path. `FileTree` answers for a given set of files and directories as a POSIX system
does: every directory on the way has to exist, also where the path leaves it again.
-/
namespace ConstructorPlanning.Command

inductive Entry where
  | file (content : ByteArray)
  | directory
  | absent
  /-- A file stands where the path needs a directory. -/
  | behindFile
  /-- Something that can be read but is no file, such as a pipe. -/
  | stream (content : ByteArray)
  /-- Something that the system does not let be read, for a reason that it gives. -/
  | withheld (isFile : Bool) (reason : String)

/-- What stands at each path. -/
abbrev Files := String → Entry

inductive ReadFault where
  | notFound
  | notADirectory
  | isADirectory
  | notText
  | withheld (reason : String)
  deriving DecidableEq, Repr

def ReadFault.message : ReadFault → String
  | notFound => "No such file or directory (os error 2)"
  | notADirectory => "Not a directory (os error 20)"
  | isADirectory => "Is a directory (os error 21)"
  | notText => "stream did not contain valid UTF-8"
  | withheld reason => reason

def Entry.isFile : Entry → Bool
  | file _ => true
  | withheld isFile _ => isFile
  | _ => false

/-- What can be read there as text in UTF-8. -/
def Entry.text : Entry → Except ReadFault String
  | file content | stream content =>
    match String.fromUTF8? content with
    | some text => .ok text
    | none => .error .notText
  | directory => .error .isADirectory
  | absent => .error .notFound
  | behindFile => .error .notADirectory
  | withheld _ reason => .error (.withheld reason)

/-- A path seen from a directory: an absolute path stands for itself. Nothing is normalized. -/
def joined (directory path : String) : String :=
  if path.startsWith "/" then path
  else if directory.isEmpty || directory.endsWith "/" then directory ++ path
  else directory ++ "/" ++ path

/-- The names on the way that a path goes. A slash at an end leaves an empty name there. -/
def pathNames (path : String) : List String :=
  (path.toList.splitOn '/').map String.ofList

/-- Files and directories by the names on the way to them from the root; a directory has no content.
The directories on the way to each of them exist as well. -/
abbrev FileTree := List (List String × Option ByteArray)

namespace FileTree

def lookup (tree : FileTree) (names : List String) : Entry :=
  match tree.find? (·.1 = names) with
  | some (_, some content) => .file content
  | some (_, none) => .directory
  | none => if tree.any fun (other, _) => names.isPrefixOf other then .directory else .absent

def follow (tree : FileTree) (place : List String) : List String → Entry
  | [] => tree.lookup place
  | name :: rest =>
    match tree.lookup place with
    | .directory =>
      if name = "" ∨ name = "." then tree.follow place rest
      else if name = ".." then tree.follow place.dropLast rest
      else tree.follow (place ++ [name]) rest
    | .file _ => .behindFile
    | entry => entry

/-- The tree with paths from its root. -/
def files (tree : FileTree) : Files :=
  fun path => tree.follow [] (pathNames path)

end FileTree

end ConstructorPlanning.Command
