/-!
# Paths

A `Path` is a list of parts, from a root or from where the reader stands.  Empty parts and single
dots mean nothing and are left out; two dots stay, because what they mean depends on the files.
-/

namespace FormPublisher

/-- A path; its root is empty when it starts from where the reader stands. -/
structure Path where
  root : String := ""
  parts : List String
  deriving DecidableEq, Repr, Inhabited

namespace Path

/-- The root that so many slashes at the start of a text name: two are a root of their own, and more
are as good as one. -/
def rootOf : Nat → String
  | 0 => ""
  | 2 => "//"
  | _ => "/"

/-- The path that a text denotes. -/
def ofString (s : String) : Path where
  root := rootOf (s.toList.takeWhile (· = '/')).length
  parts := ((s.toList.splitOnP (· = '/')).map String.ofList).filter fun p => p ≠ "" ∧ p ≠ "."

/-- The text of a path; the path without root and parts is a dot. -/
def toString (p : Path) : String :=
  if p.root = "" ∧ p.parts = [] then "." else p.root ++ "/".intercalate p.parts

/-- The last part of a path. -/
def name (p : Path) : String := p.parts.getLast?.getD ""

/-- The last dot of a name and what follows it, if there is something on both sides of the dot. -/
def suffixOf (name : String) : String :=
  let tail := (name.toList.reverse.takeWhile (· ≠ '.')).reverse
  if tail.isEmpty ∨ name.toList.length ≤ tail.length + 1 then ""
  else String.ofList ('.' :: tail)

end Path

end FormPublisher
