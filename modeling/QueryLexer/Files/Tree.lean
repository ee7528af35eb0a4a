/-
# Trees of files

A tree of directories, files and links, held in memory, in which a path is looked up the way a
Unix system does it.  A path is read name by name.  An empty name and `.` stay in the directory,
`..` goes to the one above, and any other name has to be there; a link is replaced by the names of
its target, and only the last name may lead to something that is no directory.  The number of links
on the way is bounded (`FileTree.maxLinks`), so links that form a loop lead nowhere.
-/
import QueryLexer.Files

namespace QueryLexer

/-- A place in a tree: the names on the way to it, the innermost first.  The root has none. -/
abbrev Location := List String

/-- The places above a place, the nearest first. -/
def Location.above : Location → List Location
  | [] => []
  | _ :: outer => outer :: Location.above outer

/-- What stands at a place in a tree. -/
inductive Node where
  | directory
  | device
  | regular (bytes : ByteArray)
  | link (target : String)

/-- Nodes at their places, and the directory where relative paths begin. -/
structure FileTree where
  nodes : List (Location × Node)
  workingDirectory : Location

namespace FileTree

/-! ## Looking a path up -/

/-- The node at a place.  The root is always a directory. -/
def node? (tree : FileTree) (place : Location) : Option Node :=
  if place.isEmpty then some .directory else tree.nodes.lookup place

/-- How many links may be followed for one path. -/
def maxLinks : Nat := 40

/-- A path is shorter than this number of bytes. -/
def pathLimit : Nat := 4096

/-- The names in a path. -/
def names (path : String) : List String :=
  path.splitOn "/"

/-- The directory where a path begins: the root, or the directory that it is seen from. -/
def base (path : String) (directory : Location) : Location :=
  if path.toList.head? == some '/' then [] else directory

/-- Whether a name stays in its directory. -/
def stays (name : String) : Bool :=
  name == "" || name == "."

/-- The node that a list of names leads to from a directory, when no more than `links` links are on
the way. -/
def lookup (tree : FileTree) (links : Nat) (directory : Location) : List String → Option Node
  | [] => some .directory
  | name :: rest =>
    if stays name then tree.lookup links directory rest
    else if name == ".." then tree.lookup links directory.tail rest
    else
      match tree.node? (name :: directory) with
      | none => none
      | some .directory => tree.lookup links (name :: directory) rest
      | some (.link target) =>
        match links with
        | 0 => none
        | links + 1 => tree.lookup links (base target directory) (names target ++ rest)
      | some node => if rest.isEmpty then some node else none
termination_by path => (links, path.length)

/-- What a path leads to, seen from the working directory.  The empty path, a path with a NUL in it
and one that is too long lead nowhere. -/
def entry (tree : FileTree) (path : String) : Entry :=
  if path.isEmpty || path.contains '\x00' || pathLimit ≤ path.utf8ByteSize then .missing
  else
    match tree.lookup maxLinks (base path tree.workingDirectory) (names path) with
    | some .directory => .special
    | some .device => .special
    | some (.regular bytes) => .regular bytes
    | _ => .missing

/-! ## Growing a tree -/

/-- The tree that holds nothing but its working directory and the directories above it. -/
def rootedAt (workingDirectory : Location) : FileTree :=
  ⟨(workingDirectory :: Location.above workingDirectory).map (·, .directory), workingDirectory⟩

/-- The place that a path names, read without regard to what is there. -/
def locate (tree : FileTree) (path : String) : Location :=
  (names path).foldl
    (fun place name =>
      if stays name then place
      else if name == ".." then place.tail
      else name :: place)
    (base path tree.workingDirectory)

/-- Puts a node at a place, together with the directories above it that are not there yet. -/
def put (tree : FileTree) (path : String) (node : Node) : FileTree :=
  let place := tree.locate path
  let missing := (Location.above place).filter fun outer => (tree.node? outer).isNone
  { tree with nodes := (place, node) :: missing.map (·, .directory) ++ tree.nodes }

end FileTree

end QueryLexer
