import Subgraph.Text.Blank

/-!
Locations of files as they are written. Empty parts and single dots count for nothing; double
dots stay. Locations are ordered by their parts.
-/

namespace Subgraph

/-- Where a location starts: at the folder of a run, or at the top, which is also written with two
slashes. -/
inductive Location.Root where
  | here
  | top
  | doubled
  deriving DecidableEq, Repr, Inhabited

structure Location where
  root : Location.Root
  parts : List String
  deriving DecidableEq, Repr, Inhabited

namespace Location

def Root.text : Root → String
  | .here => ""
  | .top => "/"
  | .doubled => "//"

/-- The root of a text: more than two slashes count as one. -/
def Root.ofText (s : String) : Root :=
  match (s.toList.takeWhile (· == '/')).length with
  | 0 => .here
  | 2 => .doubled
  | _ => .top

def ofText (s : String) : Location :=
  ⟨.ofText s, (Text.pieces '/' s).filter fun p => p != "" && p != "."⟩

def isAbsolute (l : Location) : Bool := l.root != .here

def text (l : Location) : String :=
  let relative := "/".intercalate l.parts
  if l.isAbsolute then l.root.text ++ relative else if l.parts.isEmpty then "." else relative

/-- A location below another one. -/
def append (l : Location) (parts : List String) : Location :=
  { l with parts := l.parts ++ parts }

/-- What locations are compared by: the root of an absolute one is its first part. -/
def sortKey (l : Location) : List String :=
  if l.isAbsolute then l.root.text :: l.parts else l.parts

def isBefore (l m : Location) : Bool := decide (l.sortKey < m.sortKey)

/-- Whether a written location has to lead to a folder, by its last characters. -/
def asksFolder (s : String) : Bool := s.endsWith "/" || s.endsWith "/."

end Location
end Subgraph
