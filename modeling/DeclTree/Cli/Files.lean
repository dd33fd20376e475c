/-
Files as a program meets them: why the text of a file cannot be had, and a tree of directories and
files in which a path leads somewhere or nowhere.
-/

namespace DeclTree.Cli

/-! ### Faults -/

/-- Why the text of a file cannot be had. -/
inductive FileFault where
  | missing
  | isDirectory
  | notDirectory
  | nameTooLong
  | denied
  | notText
deriving DecidableEq, Repr

/-- The wording for a file that cannot be read. -/
def FileFault.message : FileFault → String
  | missing => "No such file or directory (os error 2)"
  | isDirectory => "Is a directory (os error 21)"
  | notDirectory => "Not a directory (os error 20)"
  | nameTooLong => "File name too long (os error 36)"
  | denied => "Permission denied (os error 13)"
  | notText => "stream did not contain valid UTF-8"

/-! ### Trees of files -/

/-- The names that lead from the root to a place, the outermost first. -/
abbrev Place := List String

/-- What stands at a place. -/
inductive FileEntry where
  | directory
  | file (content : ByteArray)

/-- A tree of directories and files, each entered with its place. The root is always there. -/
structure FileTree where
  entries : List (Place × FileEntry)
  /-- Where paths that do not begin at the root begin. -/
  workingDirectory : Place := []

namespace FileTree

/-- The longest name that an entry may have, in bytes. -/
def nameLimit : Nat := 255

/-- The longest path that is followed, in bytes. -/
def pathLimit : Nat := 4095

/-- What stands at a place. -/
def entry? (tree : FileTree) (place : Place) : Option FileEntry :=
  if place = [] then some .directory else tree.entries.lookup place

/-- The place that names lead to from another place. Every name is looked up in a directory, also
the empty one and the dots, which stand for the directory itself and the one above it. -/
def follow (tree : FileTree) (place : Place) : List String → Except FileFault Place
  | [] => .ok place
  | name :: rest =>
      match tree.entry? place with
      | none => .error .missing
      | some (.file _) => .error .notDirectory
      | some .directory =>
          if name = "" ∨ name = "." then tree.follow place rest
          else if name = ".." then tree.follow place.dropLast rest
          else if nameLimit < name.utf8ByteSize then .error .nameTooLong
          else tree.follow (place ++ [name]) rest

/-- The place that a path leads to. -/
def resolve (tree : FileTree) (path : String) : Except FileFault Place :=
  if path = "" then .error .missing
  else if pathLimit < path.utf8ByteSize then .error .nameTooLong
  else
    tree.follow (if path.startsWith "/" then [] else tree.workingDirectory) (path.splitOn "/")

/-- The text of the file at a place. -/
def textAt (tree : FileTree) (place : Place) : Except FileFault String :=
  match tree.entry? place with
  | none => .error .missing
  | some .directory => .error .isDirectory
  | some (.file content) =>
      match String.fromUTF8? content with
      | some text => .ok text
      | none => .error .notText

/-- The text of the file that a path leads to. -/
def textOf (tree : FileTree) (path : String) : Except FileFault String := do
  tree.textAt (← tree.resolve path)

end FileTree

end DeclTree.Cli
