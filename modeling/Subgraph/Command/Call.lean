import Subgraph.Command.Arguments
import Subgraph.Files.Resolve
import Subgraph.Log
import Subgraph.Text.Blank
import Subgraph.Text.Lower

/-!
What a command line asks for: options for every command, and a command with its own.

Where an option is not given, its value comes from the environment, under the name of the
program, of the command and of the option. Several locations in one value are divided by colons.
-/

namespace Subgraph.Command

abbrev Environment := Entries String

inductive CommandName where
  | sdl
  | schema
  | check
  deriving DecidableEq, Repr

namespace CommandName

def text : CommandName → String
  | .sdl => "sdl"
  | .schema => "schema"
  | .check => "check"

def ofText? (s : String) : Option CommandName := [sdl, schema, check].find? (·.text == s)

/-- Whether the command writes something out. -/
def writes : CommandName → Bool
  | .check => false
  | _ => true

end CommandName

/-- Why there is nothing to run: the version or help is asked for, or the line is wrong. -/
inductive Refusal where
  | version
  | help
  | usage
  deriving DecidableEq, Repr

structure Common where
  level : LogLevel
  logFile : Option Location
  deriving Repr

/-- What to run. The schema files are those that the locations given lead to. -/
structure Call where
  name : CommandName
  schemas : List Location
  config : Location
  output : Option Location
  deriving Repr

def variableRoot : String := "TRANSFORM_FEDERATION"

/-- The value of a variable of the environment; an empty one counts as none. -/
def lookup? (e : Environment) (name : String) : Option String :=
  (Entries.get? e name).filter (· != "")

def commonVariable (key : String) : String := variableRoot ++ "_" ++ key.toUpper

def commandVariable (c : CommandName) (key : String) : String :=
  variableRoot ++ "_" ++ c.text.toUpper ++ "_" ++ key.toUpper

def helpOption : OptionSpec := ⟨"help", none, "--help", false⟩

def commonOptions : List OptionSpec :=
  [⟨"log_level", some "-l", "--log-level", true⟩, ⟨"log_file", none, "--log-file", true⟩,
   ⟨"version", none, "--version", false⟩, helpOption]

def commandOptions (c : CommandName) : List OptionSpec :=
  [⟨"schemas", some "-s", "--schema", true⟩, ⟨"config_path", some "-c", "--config", true⟩]
    ++ (if c.writes then [⟨"output", some "-o", "--output", true⟩] else []) ++ [helpOption]

/-- The last value given, or that of a variable. -/
def valueOf (e : Environment) (g : Given) (key name : String) : Option String :=
  (g.values key).getLast?.or (lookup? e name)

/-- All values given, or those of a variable. -/
def valuesOf (e : Environment) (g : Given) (key name : String) : List String :=
  let given := g.values key
  if given.isEmpty then ((lookup? e name).map (Text.pieces ':')).getD [] else given

/-- A location to write to, which is no folder. -/
def writable (d : Disk) (s : String) : Except Refusal Location :=
  if (d.findText? s).any (·.isFolder) then .error .usage else .ok (.ofText s)

def writable? (d : Disk) (s : Option String) : Except Refusal (Option Location) :=
  match s with
  | none => .ok none
  | some s => some <$> writable d s

def present (d : Disk) (s : String) : Except Refusal Location :=
  if (d.findText? s).isSome then .ok (.ofText s) else .error .usage

def presentFile (d : Disk) (s : String) : Except Refusal Location :=
  if (d.findText? s).any (·.isFile) then .ok (.ofText s) else .error .usage

/-- The options that end a run, and what each asks for. -/
def endings : List (String × Refusal) := [("version", .version), ("help", .help)]

def trueWords : List String := ["1", "true", "t", "yes", "y", "on"]
def falseWords : List String := ["", "0", "false", "f", "no", "n", "off"]

/-- Whether a variable sets a flag; it has to be one word for a truth value. -/
def flagValue (e : Environment) (name : String) : Except Refusal Bool :=
  match lookup? e name with
  | none => .ok false
  | some s =>
    let word := Text.lower (Text.stripped s)
    if trueWords.contains word then .ok true
    else if falseWords.contains word then .ok false
    else .error .usage

/-- Ends the run if an option that does so is given. The first one counts, and after those on the
command line the ones that variables set. -/
def early (e : Environment) (g : Given) (specs : List OptionSpec) (variableName : String → String) :
    Except Refusal Unit := do
  if let some (key, _) := g.options.find? fun o => (endings.lookup o.1).isSome then
    throw ((endings.lookup key).getD .usage)
  (endings.filter fun o => specs.any (·.key == o.1)).forM fun (key, asked) => do
    if ← flagValue e (variableName key) then throw asked

def readLevel (s : Option String) : Except Refusal LogLevel :=
  match s with
  | none => .ok .info
  | some s =>
    match LogLevel.ofName? s with
    | some l => .ok l
    | none => .error .usage

/-- Why an argument that names no command ends the run. It may still be an option that does. -/
def unknownCommand (e : Environment) (a : String) (r : List String) : Refusal :=
  match readArguments commonOptions false none (a :: r) with
  | none => .usage
  | some g =>
    match early e g commonOptions commonVariable with
    | .error asked => asked
    | .ok _ => .usage

/-- Reads the options for every command: what they ask for, the command, and its arguments. -/
def readCommon (d : Disk) (e : Environment) (args : List String) :
    Except Refusal (Common × CommandName × List String) := do
  if args.isEmpty then throw .usage
  let some g := readArguments commonOptions false none args | throw .usage
  early e g commonOptions commonVariable
  let level ← readLevel (valueOf e g "log_level" (commonVariable "log_level"))
  let logFile ← writable? d (valueOf e g "log_file" (commonVariable "log_file"))
  match g.arguments with
  | [] => throw .usage
  | a :: r =>
    let some c := CommandName.ofText? a | throw (unknownCommand e a r)
    return (⟨level, logFile⟩, c, r)

/-- Reads the arguments of a command. -/
def readCall (d : Disk) (e : Environment) (c : CommandName) (args : List String) :
    Except Refusal Call := do
  let some g := readArguments (commandOptions c) true none args | throw .usage
  early e g (commandOptions c) (commandVariable c)
  let schemas ← (valuesOf e g "schemas" (commandVariable c "schemas")).mapM (present d)
  if schemas.isEmpty || !g.arguments.isEmpty then throw .usage
  let some config := valueOf e g "config_path" (commandVariable c "config_path") | throw .usage
  let output := if c.writes then valueOf e g "output" (commandVariable c "output") else none
  return ⟨c, Files.resolve d schemas, ← presentFile d config, ← writable? d output⟩

/-- The variables of the environment that are looked up. -/
def variableNames : List String :=
  (commonOptions.map fun o => commonVariable o.key)
    ++ [CommandName.sdl, .schema, .check].flatMap fun c =>
      (commandOptions c).map fun o => commandVariable c o.key

/-- The texts of a command line and its environment that are meant as locations. -/
def locationTexts (e : Environment) (args : List String) : List String :=
  match readArguments commonOptions false none args with
  | none => []
  | some g =>
    (valueOf e g "log_file" (commonVariable "log_file")).toList
      ++ match g.arguments with
        | [] => []
        | a :: r =>
          match CommandName.ofText? a with
          | none => []
          | some c =>
            match readArguments (commandOptions c) true none r with
            | none => []
            | some h =>
              ["schemas", "config_path", "output"].flatMap fun key =>
                valuesOf e h key (commandVariable c key)

end Subgraph.Command
