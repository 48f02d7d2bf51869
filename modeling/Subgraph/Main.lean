import Subgraph.Command.Run
import Subgraph.Federation.Samples

/-!
The program: takes in the files that its command line names, runs it, writes the files that have
changed, and shows the rest.
-/

namespace Subgraph.Program

/-- What stands at a place of the file system. -/
partial def readTree (place : String) : IO FileTree := do
  let path ← IO.FS.realPath place
  if ← path.isDir then
    let entries ← path.readDir
    return .folder (← entries.toList.mapM fun e => do
      return (e.fileName, ← readTree e.path.toString))
  else return .file (← IO.FS.readFile place)

/-- The names that lead to a place from the top of the file system. -/
def namesOf (place : String) : IO (List String) := do
  return (Location.ofText (← IO.FS.realPath place).toString).parts

/-- Adds what stands at a place, or nothing if it cannot be read. -/
def addPlace (t : FileTree) (place : String) : IO FileTree := do
  try return FileTree.put (← readTree place) t (← namesOf place)
  catch _ => return t

/-- Adds the folder that holds a place, without what is in it. -/
def addFolder (t : FileTree) (place : String) : IO FileTree := do
  let l := Location.ofText place
  let above := { l with parts := l.parts.dropLast }.text
  try
    let names ← namesOf above
    if (t.find? names).isSome then return t else return FileTree.put .empty t names
  catch _ => return t

def readDisk (places : List String) : IO Disk := do
  let start ← namesOf "."
  let tree ← places.foldlM addFolder (FileTree.put .empty .empty start)
  return ⟨← places.foldlM addPlace tree, start⟩

def readEnvironment : IO Command.Environment :=
  Command.variableNames.filterMapM fun n => do return (← IO.getEnv n).map (n, ·)

/-- Writes the files of a disk that another one does not have like that. -/
def writeChanges (old new : Disk) : IO Unit := do
  let known := old.tree.files
  for (names, text) in new.tree.files do
    if known.lookup names != some text then
      IO.FS.createDirAll ("/" ++ "/".intercalate names.dropLast)
      IO.FS.writeFile ("/" ++ "/".intercalate names) text

def run (args : List String) : IO UInt32 := do
  let env ← readEnvironment
  let disk ← readDisk (Command.locationTexts env args)
  let o := Command.run Federation.Samples.registry disk env args
  writeChanges disk o.disk
  IO.print o.output
  IO.eprint o.console
  for r in o.records do IO.eprintln (r.level.name ++ " " ++ r.message)
  if let some f := o.crash then IO.eprintln (f.kind ++ ": " ++ f.message)
  return UInt32.ofNat o.status

end Subgraph.Program

def main (args : List String) : IO UInt32 := Subgraph.Program.run args
