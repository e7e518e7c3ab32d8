import FormPublisher.File.Path

/-!
# File trees

A `FileTree` holds the files and directories below the place where the reader stands.
`FileTree.find?` tells what a path leads to; every part before the last must be a directory, also
one that two dots take back.  Of what lies outside the tree it knows no more than the directories
above it.

No file has a name beyond a certain length, and no path leads anywhere beyond another; asking for
one of them is an error of its own.
-/

namespace FormPublisher

/-- What a path can lead to; `tooLong` is a name or a path that is too long for a file. -/
inductive FileEntry where
  | file (bytes : List UInt8)
  | directory
  | tooLong
  deriving DecidableEq, Repr, Inhabited

/-- The parts that lead to an entry, none of which is two dots. -/
abbrev Location := List String

/-- Files and directories. -/
structure FileTree where
  directories : List Location := [[]]
  files : List (Location × List UInt8) := []
  deriving Repr, Inhabited

namespace FileTree

/-- The entry at a location. -/
def at? (t : FileTree) (l : Location) : Option FileEntry :=
  match t.files.lookup l with
  | some bytes => some (.file bytes)
  | none => if t.directories.contains l then some .directory else none

/-- The location one part further. -/
def step (l : Location) (part : String) : Location :=
  if part = ".." then l.dropLast else l ++ [part]

/-- The most bytes that the name of a file may have. -/
def nameLimit : Nat := 255

/-- The most bytes that a path may have. -/
def pathLimit : Nat := 4095

/-- What a way up leads to, which is a directory as long as nothing else than two dots follows. -/
def above? (parts : List String) : Option FileEntry :=
  match parts.dropWhile (· = "..") with
  | [] => some .directory
  | p :: _ => if nameLimit < p.utf8ByteSize then some .tooLong else none

/-- What parts lead to from a location. -/
def walk? (t : FileTree) (l : Location) : List String → Option FileEntry
  | [] => t.at? l
  | p :: ps =>
    if t.at? l ≠ some .directory then none
    else if nameLimit < p.utf8ByteSize then some .tooLong
    else if l = [] ∧ p = ".." then above? ps
    else walk? t (step l p) ps

/-- What a path leads to. -/
def find? (t : FileTree) (p : Path) : Option FileEntry :=
  if pathLimit < p.toString.utf8ByteSize then some .tooLong
  else if p.root = "" then t.walk? [] p.parts
  else above? p.parts

/-- The tree with a file, and with every directory on the way to it. -/
def write (t : FileTree) (p : Path) (bytes : List UInt8) : FileTree :=
  let way := p.parts.dropLast.foldl (fun ls part => step (ls.headD []) part :: ls) [[]]
  { directories := t.directories ++ way.filter fun l => !t.directories.contains l
    files := (step (way.headD []) p.name, bytes) :: t.files }

/-- The tree with these files. -/
def ofList (files : List (Path × List UInt8)) : FileTree :=
  files.foldl (fun t f => t.write f.1 f.2) {}

end FileTree

end FormPublisher
