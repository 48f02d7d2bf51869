import Subgraph.Entries

/-!
Options and arguments of a command line.

A long option takes its value behind an equals sign or from the next argument, a short one also
from the rest of its own. Two dashes end the options. An argument that is no option ends them
too, unless options may come between arguments.
-/

namespace Subgraph.Command

structure OptionSpec where
  key : String
  short : Option String
  long : String
  takesValue : Bool
  deriving Repr, Inhabited

/-- The options given, in their order, and the arguments. A flag has no value. -/
structure Given where
  options : List (String × Option String)
  arguments : List String
  deriving Repr, Inhabited

namespace Given

def addOption (g : Given) (key : String) (value : Option String) : Given :=
  { g with options := (key, value) :: g.options }

def addArgument (g : Given) (a : String) : Given := { g with arguments := a :: g.arguments }

def has (g : Given) (key : String) : Bool := g.options.any (·.1 == key)

def values (g : Given) (key : String) : List String :=
  g.options.filterMap fun o => if o.1 == key then o.2 else none

end Given

/-- An option as it stands in one argument. -/
inductive OptionForm where
  | flag (key : String)
  | value (key text : String)
  | valueFollows (key : String)

/-- The parts of a text before and behind the first equals sign. -/
def splitEquals (a : String) : String × Option String :=
  let cs := a.toList
  let name := cs.takeWhile (· != '=')
  (String.ofList name,
    if name.length < cs.length then some (String.ofList (cs.drop (name.length + 1))) else none)

/-- Reads an option; none if there is no such option. -/
def readOption (specs : List OptionSpec) (a : String) : Option OptionForm :=
  let (name, value) := splitEquals a
  match specs.find? (·.long == name) with
  | some o =>
    match o.takesValue, value with
    | true, some v => some (.value o.key v)
    | true, none => some (.valueFollows o.key)
    | false, none => some (.flag o.key)
    | false, some _ => none
  | none =>
    if a.startsWith "--" then none
    else do
      let o ← specs.find? (·.short == some (String.ofList (a.toList.take 2)))
      guard o.takesValue
      let rest := String.ofList (a.toList.drop 2)
      return if rest = "" then .valueFollows o.key else .value o.key rest

def isOption (a : String) : Bool := a.startsWith "-" && a != "-"

/-- Reads arguments, at first the value of an option that waits for one. -/
def readArguments (specs : List OptionSpec) (interspersed : Bool) (waiting : Option String) :
    List String → Option Given
  | [] => if waiting.isSome then none else some ⟨[], []⟩
  | a :: r =>
    match waiting with
    | some key => (readArguments specs interspersed none r).map (·.addOption key (some a))
    | none =>
      if a = "--" then some ⟨[], r⟩
      else if isOption a then
        match readOption specs a with
        | none => none
        | some (.flag key) => (readArguments specs interspersed none r).map (·.addOption key none)
        | some (.value key v) =>
          (readArguments specs interspersed none r).map (·.addOption key (some v))
        | some (.valueFollows key) => readArguments specs interspersed (some key) r
      else if interspersed then
        (readArguments specs interspersed none r).map (·.addArgument a)
      else some ⟨[], a :: r⟩

end Subgraph.Command
