import Subgraph.Entries
import Subgraph.Files.Location

/-!
Trees of files, and what a location leads to in one.

A relative location starts at a folder of the tree, and double dots lead to the folder above,
or nowhere further from the top.
-/

namespace Subgraph

inductive FileTree where
  | file (text : String)
  | folder (entries : List (String × FileTree))
  deriving Inhabited

namespace FileTree

def empty : FileTree := .folder []

def isFile : FileTree → Bool
  | .file _ => true
  | .folder _ => false

def isFolder (t : FileTree) : Bool := !t.isFile

def entry? : FileTree → String → Option FileTree
  | .file _, _ => none
  | .folder es, name => Entries.get? es name

/-- What stands at the end of a path of names. -/
def find? (t : FileTree) : List String → Option FileTree
  | [] => some t
  | n :: r => (t.entry? n).bind fun u => find? u r

mutual
/-- Everything below a folder, with the names that lead to it. -/
def contents : FileTree → List (List String × FileTree)
  | .file _ => []
  | .folder es => contentsOf es
def contentsOf : List (String × FileTree) → List (List String × FileTree)
  | [] => []
  | (n, t) :: r => ([n], t) :: (t.contents.map fun e => (n :: e.1, e.2)) ++ contentsOf r
end

def entries : FileTree → List (String × FileTree)
  | .file _ => []
  | .folder es => es

/-- Puts a tree at the end of a path, with the folders that lead to it. Files in its way are
replaced. -/
def put (u : FileTree) (t : FileTree) : List String → FileTree
  | [] => u
  | n :: r => .folder (Entries.put t.entries n (put u ((t.entry? n).getD empty) r))

def write (t : FileTree) (names : List String) (text : String) : FileTree :=
  put (.file text) t names

/-- The files of a tree. -/
def files (t : FileTree) : List (List String × String) :=
  t.contents.filterMap fun e =>
    match e.2 with
    | .file text => some (e.1, text)
    | .folder _ => none

/-- Why no file can be read or written at a place: something on the way is missing or no folder,
or the place itself is taken by a file or by a folder. -/
inductive Obstruction where
  | missing
  | notFolder
  | isFile
  | isFolder
  deriving DecidableEq, Repr

/-- Follows names from a folder; each step starts from a folder that is there. -/
def walk (t : FileTree) (place : List String) : List String → Except Obstruction (List String)
  | [] => .ok place
  | n :: r =>
    match t.find? place with
    | none => .error .missing
    | some (.file _) => .error .notFolder
    | some (.folder _) => walk t (if n == ".." then place.dropLast else place ++ [n]) r

/-- The same by the names alone, whatever there is. -/
def aim (place : List String) (names : List String) : List String :=
  names.foldl (fun p n => if n == ".." then p.dropLast else p ++ [n]) place

/-- Writes a file where names lead to, into a folder that is there. -/
def writeAt (t : FileTree) (place names : List String) (text : String) :
    Except Obstruction FileTree := do
  let there ← t.walk place names
  if (t.find? there).any isFolder then throw .isFolder
  return t.write there text

/-- Makes a folder in a folder that is there. -/
def makeFolder (t : FileTree) (place names : List String) : Except Obstruction FileTree := do
  let there ← t.walk place names
  match t.find? there with
  | none => return put empty t there
  | some (.folder _) => return t
  | some (.file _) => throw .isFile

/-- Makes a folder, and before it the folders on the way that are missing. The names come from
the last one on. -/
def makeFolders (t : FileTree) (place : List String) : List String → Except Obstruction FileTree
  | [] => .ok t
  | n :: above =>
    let names := above.reverse ++ [n]
    match t.makeFolder place names with
    | .error .missing => do (← makeFolders t place above).makeFolder place names
    | r => r

end FileTree

/-- A tree of files with the folder from which relative locations start. -/
structure Disk where
  tree : FileTree
  start : List String
  deriving Inhabited

namespace Disk

def base (d : Disk) (l : Location) : List String := if l.isAbsolute then [] else d.start

def find? (d : Disk) (l : Location) : Option FileTree :=
  (d.tree.walk (d.base l) l.parts).toOption.bind d.tree.find?

/-- What a text leads to; a text that asks for a folder leads to no file, and an empty one
nowhere. -/
def findText? (d : Disk) (s : String) : Option FileTree :=
  if s.isEmpty then none
  else (d.find? (.ofText s)).bind fun t =>
    if t.isFile && Location.asksFolder s then none else some t

/-- Writes a file and makes the folders that lead to it. -/
def write (d : Disk) (l : Location) (text : String) : Except FileTree.Obstruction Disk := do
  let t ← d.tree.makeFolders (d.base l) l.parts.dropLast.reverse
  return { d with tree := ← t.writeAt (d.base l) l.parts text }

/-- The names of a location from the top of the tree on. -/
def names (d : Disk) (l : Location) : List String := FileTree.aim (d.base l) l.parts

/-- A location without double dots, from the starting folder on where it leads below it. -/
def plainText (d : Disk) (l : Location) : String :=
  let names := d.names l
  if d.start.isPrefixOf names then (Location.mk .here (names.drop d.start.length)).text
  else (Location.mk (if l.isAbsolute then l.root else .top) names).text

/-- Adds to the end of a file. -/
def append (d : Disk) (names : List String) (text : String) : Disk :=
  match d.tree.find? names with
  | some (.file old) => { d with tree := d.tree.write names (old ++ text) }
  | _ => d

end Disk
end Subgraph
