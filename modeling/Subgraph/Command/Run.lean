import Subgraph.Command.Call
import Subgraph.Config.Load
import Subgraph.Console.Line
import Subgraph.Federation.Transform
import Subgraph.Query.Answer
import Subgraph.Schema.Load

/-!
Running a command line.

A run reads files, writes to its output, its console and its log, and ends with a status; what
nothing provides for is an error that ends it by itself.
-/

namespace Subgraph.Command
open Config Federation

/-- How a run ends before its end. -/
inductive Stop where
  | status (code : Nat)
  | crash (f : Failure)

/-- The state of a run. The records are those of a level and above; they also go to the end of
the log file. -/
structure State where
  level : LogLevel
  logFile : Option (List String)
  disk : Disk
  output : String
  console : String
  records : List LogRecord
  deriving Inhabited

def State.start (level : LogLevel) (logFile : Option (List String)) (d : Disk) : State :=
  ⟨level, logFile, d, "", "", []⟩

abbrev Run (α : Type) := ExceptT Stop (StateM State) α

def stop {α : Type} (code : Nat) : Run α := throw (.status code)

def logLine (r : LogRecord) : String := r.level.name ++ ":" ++ r.message ++ "\n"

def log (records : List LogRecord) : Run Unit :=
  modify fun s =>
    let kept := keepFrom s.level records
    let text := String.join (kept.map logLine)
    { s with
      records := s.records ++ kept
      disk := (s.logFile.map (s.disk.append · text)).getD s.disk }

/-- Goes on with a result, whose log records come first; an error is turned into another step. -/
def proceed {ε α : Type} (m : Logged ε α) (onError : ε → Run α) : Run α := do
  let (r, records) := m.run
  log records
  match r with
  | .ok a => return a
  | .error e => onError e

/-- Ends with an error record. -/
def giveUp {α : Type} (message : String) : Run α := do
  log [error message]
  stop 1

def markupFailure (e : Console.MarkupError) : Failure := ⟨e.kind, e.message⟩

def display (s : Console.Shown) : Run Unit :=
  match s with
  | .ok text => modify fun st => { st with console := st.console ++ text }
  | .error e => throw (.crash (markupFailure e))

def obstructionKind : FileTree.Obstruction → String
  | .missing => "FileNotFoundError"
  | .notFolder => "NotADirectoryError"
  | .isFile => "FileExistsError"
  | .isFolder => "IsADirectoryError"

def obstructed (l : Location) (o : FileTree.Obstruction) : Failure := ⟨obstructionKind o, l.text⟩

/-- Writes a file with the folders that lead to it. -/
def writeFile (l : Location) (text : String) : Run Unit := do
  match (← get).disk.write l text with
  | .ok d => modify fun s => { s with disk := d }
  | .error o => throw (.crash (obstructed l o))

def writeOutput (content : String) (output : Option Location) : Run Unit := do
  match output with
  | none => modify fun s => { s with output := s.output ++ content }
  | some l =>
    writeFile l content
    display (Console.success ("Written to " ++ l.text))

def invalidSchema (e : LoadError) : Run Schema := giveUp ("Invalid schema: " ++ e.message)

def invalidConfig {α : Type} (message : String) : Run α :=
  giveUp ("Invalid federation config: " ++ message)

def configFailed {α : Type} : ConfigError → Run α
  | .badScalar f => if f.kind = "TypeError" then invalidConfig f.message else throw (.crash f)
  | e => invalidConfig e.message

def fileText (d : Disk) (l : Location) : String :=
  match d.find? l with
  | some (.file text) => text
  | _ => ""

/-- Loads the schema and the configuration of a call. -/
def loadInputs (registry : Registry) (c : Call) : Run (Schema × Config) := do
  let s ← proceed (Schema.load (← get).disk c.schemas) invalidSchema
  let text := fileText (← get).disk c.config
  let config ← proceed (load registry (some (c.config.text, text))) configFailed
  return (s, config)

def unwritableKind : Value.Unwritable → String
  | .value _ => "TypeError"
  | .number _ => "GraphQLError"

def transformFailed {α : Type} : TransformError → Run α
  | .classification e => invalidConfig e.message
  | .config e => configFailed e
  | .unwritable e => throw (.crash ⟨unwritableKind e, e.message⟩)
  | .build e => throw (.crash ⟨e.kind, e.message⟩)

def federate (s : Schema) (config : Config) : Run Service :=
  proceed (do
    Logged.say [parseRecord config]
    transformBy (.ofSchema s) config) transformFailed

/-- The SDL that a service shows, or the errors of asking for it. -/
def shownSdl (x : Service) : Except (List QueryError) String :=
  let r := x.answerPlain sdlQuery
  if r.errors.isEmpty then
    match (r.data.member? "_service").bind (·.member? "sdl") with
    | some (.text sdl) => .ok sdl
    | _ => .error []
  else .error r.errors

def runSdl (registry : Registry) (c : Call) : Run Unit := do
  let (s, config) ← loadInputs registry c
  let x ← federate s config
  match shownSdl x with
  | .ok sdl => writeOutput sdl c.output
  | .error errors =>
    log (errors.map fun e => error e.message)
    stop 1

def runSchema (registry : Registry) (c : Call) : Run Unit := do
  let (s, config) ← loadInputs registry c
  let x ← federate s config
  writeOutput (x.schema.print ++ "\n") c.output

def describeType (t : FederatedType) : Run Unit := do
  let role := if t.isEntity then "entity" else "type"
  let resolver := if t.settings.reference.isSome then "resolveReference" else "default resolution"
  display (Console.listItem (t.name ++ " (" ++ role ++ ", " ++ resolver ++ ")") "-" "")
  let directives := " ".intercalate (t.settings.directives.map Directive.print)
  if directives != "" then display (Console.keyValue "  directives" directives Console.keyStyle)

def describe (c : Classification) : Run Unit := do
  display (Console.rule "Federated Types" Console.ruleStyle)
  if c.types.isEmpty then display (Console.hint "No types configured")
  else c.types.forM describeType

def problemLine (problem : String) : String := "  - " ++ problem

def runCheck (registry : Registry) (c : Call) : Run Unit := do
  let (s, config) ← loadInputs registry c
  let classification ← proceed (classified s config) transformFailed
  describe classification
  let x ← federate s config
  let problems := x.schema.problems
  if problems.isEmpty then display (Console.success "Federation config is valid.")
  else
    log (error "Federated schema validation failed:"
      :: problems.map fun p => error (problemLine p))
    stop 1

def runCall (registry : Registry) (c : Call) : Run Unit :=
  match c.name with
  | .sdl => runSdl registry c
  | .schema => runSchema registry c
  | .check => runCheck registry c

/-- What a run leaves behind. -/
structure Outcome where
  status : Nat
  crash : Option Failure
  output : String
  console : String
  records : List LogRecord
  disk : Disk

def versionLine : String := "transform-federation, version 0.3.0\n"

def refused (d : Disk) : Refusal → Outcome
  | .version => ⟨0, none, versionLine, "", [], d⟩
  | .help => ⟨0, none, "", "", [], d⟩
  | .usage => ⟨2, none, "", "", [], d⟩

/-- Creates the log file, whose folder has to be there, and tells where it is. -/
def openLog (d : Disk) (logFile : Option Location) :
    Except Failure (Disk × Option (List String)) :=
  match logFile with
  | none => .ok (d, none)
  | some l =>
    let names := d.names l
    match d.tree.writeAt [] names "" with
    | .ok t => .ok ({ d with tree := t }, some names)
    | .error o => .error (obstructed l o)

def outcome (r : Except Stop Unit × State) : Outcome :=
  let s := r.2
  match r.1 with
  | .ok _ => ⟨0, none, s.output, s.console, s.records, s.disk⟩
  | .error (.status n) => ⟨n, none, s.output, s.console, s.records, s.disk⟩
  | .error (.crash f) => ⟨1, some f, s.output, s.console, s.records, s.disk⟩

/-- Runs a command line. -/
def run (registry : Registry) (d : Disk) (e : Environment) (args : List String) : Outcome :=
  match readCommon d e args with
  | .error r => refused d r
  | .ok (common, name, rest) =>
    match openLog d common.logFile with
    | .error f => ⟨1, some f, "", "", [], d⟩
    | .ok (d, names) =>
      match readCall d e name rest with
      | .error r => refused d r
      | .ok call => outcome ((runCall registry call).run (.start common.level names d))

end Subgraph.Command
