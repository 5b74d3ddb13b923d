import ForumQuery.Text.Basic

/-!
# Files

All that the library asks of a file system is what a path leads to. `FileTree` answers that for a
directory whose contents are known in full.
-/

namespace ForumQuery

/-- What a path leads to. -/
inductive FileState where
  | missing
  | directory
  /-- A file whose bytes are not UTF-8. -/
  | notText
  /-- A file that the system does not give out, for the reason that it states. -/
  | refused (reason : Text)
  | text (contents : Text)
  deriving DecidableEq

/-- The state of a file with the given bytes. -/
def FileState.ofBytes (bytes : ByteArray) : FileState :=
  match String.fromUTF8? bytes with
  | some contents => .text contents.toList
  | none => .notText

/-- A file system: what each path leads to. -/
abbrev Files := Text → FileState

/-- The files and directories below one directory, by the names on the way to them. Directories on
the way to an entry exist without an entry of their own. -/
structure FileTree where
  entries : List (List Text × FileState)

namespace FileTree

/-- The names of a path. -/
def names (path : Text) : List Text :=
  path.splitOnP (· == '/')

/-- The tree of files given by their paths. -/
def ofFiles (files : List (Text × FileState)) : FileTree :=
  ⟨files.map fun (path, state) => (names path, state)⟩

/-- What stands under the given names, none of which is special. -/
def stateAt (tree : FileTree) (names : List Text) : FileState :=
  match tree.entries.find? (fun entry => entry.1 = names) with
  | some (_, state) => state
  | none =>
      if names.isEmpty || tree.entries.any (fun entry => names.isPrefixOf entry.1) then
        .directory
      else
        .missing

/-- Where a path has led so far: below the directory, or to one above it. -/
inductive Place where
  | inside (names : List Text)
  | outside

/-- Where further names lead. Every name but the last must stand for a directory; an empty name and
one dot stay there, and two dots go one up. Nothing is known of the names outside. -/
def walk (tree : FileTree) : Place → List Text → Option Place
  | place, [] => some place
  | .outside, name :: rest =>
      if name = [] ∨ name = ['.'] ∨ name = ['.', '.'] then tree.walk .outside rest else none
  | .inside names, name :: rest =>
      if tree.stateAt names ≠ .directory then none
      else if name = [] ∨ name = ['.'] then tree.walk (.inside names) rest
      else if name = ['.', '.'] then
        tree.walk (if names = [] then .outside else .inside names.dropLast) rest
      else tree.walk (.inside (names ++ [name])) rest

/-- What a path leads to. A path that begins with a slash starts outside. -/
def files (tree : FileTree) : Files := fun path =>
  let start := if path.head? = some '/' then Place.outside else Place.inside []
  if path = [] then .missing
  else
    match tree.walk start (names path) with
    | none => .missing
    | some .outside => .directory
    | some (.inside names) => tree.stateAt names

end FileTree

end ForumQuery
