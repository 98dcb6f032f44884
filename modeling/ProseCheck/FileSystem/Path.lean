import ProseCheck.Text.Point

/-!
# Paths

A path is its root and its components. Empty components and single dots carry no meaning and are
left out; double dots stay, since what they mean depends on the file system.
-/

namespace ProseCheck.FileSystem

/-- A path. -/
structure Path where
  /-- The slashes in front: none, one, or two, which are kept as they are. -/
  root : String
  /-- The components, none of them empty or a single dot. -/
  parts : List Str
  deriving DecidableEq, Repr, Inhabited

namespace Path

/-- Cuts a text at slashes. -/
def components : Str → List Str
  | [] => [[]]
  | c :: s =>
    match components s with
    | [] => [[c]]
    | first :: others => if c == '/' then [] :: first :: others else (c :: first) :: others

/-- Whether a component names something. -/
def isPart (component : Str) : Bool :=
  component != [] && component != [.scalar '.']

/-- The root that a text has for its number of slashes in front. Three slashes and more are as good
as one. -/
def rootOf (slashes : Nat) : String :=
  if slashes = 0 then "" else if slashes = 2 then "//" else "/"

/-- The path that a text writes. -/
def ofText (s : Str) : Path where
  root := rootOf (s.takeWhile (· == Point.scalar '/')).length
  parts := (components s).filter isPart

/-- The text of a path; the empty path is a dot. -/
def text (p : Path) : Str :=
  if p.root = "" ∧ p.parts = [] then "." else p.root ++ List.intercalate "/" p.parts

/-- The path of something inside the directory at `p`. -/
def child (p : Path) (name : Str) : Path where
  root := p.root
  parts := p.parts ++ [name]

/-- The last component, which is empty if there is none. -/
def name (p : Path) : Str :=
  p.parts.getLast?.getD []

/-- The paths on the way to `p`, and `p` itself. -/
def onTheWay (p : Path) : List Path :=
  (List.range (p.parts.length + 1)).map fun n => { p with parts := p.parts.take n }

/-- Whether the path starts at the root and not at the working directory. -/
def isAbsolute (p : Path) : Bool :=
  p.root != ""

end Path

end ProseCheck.FileSystem
