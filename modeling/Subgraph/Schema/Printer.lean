import Subgraph.Schema.Build

/-!
Writing a schema: its definition if the roots or a description ask for one, the directives and
the types in order, with a blank line between each two.
-/

namespace Subgraph

/-- A description on lines of its own, before what it describes. Inside a block a blank line
comes before it, unless it is first there. -/
def printDescription (description : Option String) (indent : String) (first : Bool) : String :=
  match description with
  | none => ""
  | some d =>
    let written := if Text.fitsBlock d then Text.layoutBlock d else Text.quote d
    (if indent != "" && !first then "\n" else "") ++ indent
      ++ Text.indentAfterNewlines indent written ++ "\n"

/-- Members in braces, one a line; nothing for no members. -/
def printBlock (items : List String) : String :=
  if items.isEmpty then "" else " " ++ braced ("\n" ++ "\n".intercalate items ++ "\n")

/-- Writes the items of a block; each is told whether it comes first. -/
def printItems {α : Type} (item : Bool → α → String) : List α → List String
  | [] => []
  | x :: xs => item true x :: xs.map (item false)

def printDeprecation (reason : Option String) : String :=
  match reason with
  | none => ""
  | some r =>
    if r = Builtin.noReason then " @deprecated"
    else " @deprecated(reason: " ++ Text.quote r ++ ")"

def printSpecifiedBy (url : Option String) : String :=
  match url with
  | none => ""
  | some u => " @specifiedBy(url: " ++ Text.quote u ++ ")"

def printInterfaces (names : List String) : String :=
  if names.isEmpty then "" else " implements " ++ " & ".intercalate names

def printRepeatable (repeatable : Bool) : String := if repeatable then " repeatable" else ""

namespace Schema
variable (s : Schema)

def printDefault (v : InputValue) : String :=
  match (v.default s).bind fun d => d.literal? s v.type with
  | some l => " = " ++ l.print
  | none => ""

def printInputValue (v : InputValue) : String :=
  v.name ++ ": " ++ v.type.text ++ s.printDefault v ++ printDeprecation v.deprecation

def printArgument (indent : String) (first : Bool) (v : InputValue) : String :=
  printDescription v.description indent first ++ indent ++ s.printInputValue v

/-- Arguments stand on one line unless one of them is described. -/
def printArguments (indent : String) (args : List InputValue) : String :=
  if args.isEmpty then ""
  else if args.all fun a => a.description.all (· == "") then
    "(" ++ ", ".intercalate (args.map s.printInputValue) ++ ")"
  else
    "(\n" ++ "\n".intercalate (printItems (s.printArgument ("  " ++ indent)) args)
      ++ "\n" ++ indent ++ ")"

def printField (first : Bool) (f : Field) : String :=
  printDescription f.description "  " first ++ "  " ++ f.name
    ++ s.printArguments "  " f.arguments ++ ": " ++ f.type.text ++ printDeprecation f.deprecation

def printEnumValue (first : Bool) (v : EnumValue) : String :=
  printDescription v.description "  " first ++ "  " ++ v.name ++ printDeprecation v.deprecation

def printType (t : NamedType) : String :=
  printDescription t.description "" true ++ match t.shape with
  | .scalar url => "scalar " ++ t.name ++ printSpecifiedBy url
  | .object is fs =>
    "type " ++ t.name ++ printInterfaces is ++ printBlock (printItems s.printField fs)
  | .interface is fs =>
    "interface " ++ t.name ++ printInterfaces is ++ printBlock (printItems s.printField fs)
  | .union ms =>
    "union " ++ t.name ++ if ms.isEmpty then "" else " = " ++ " | ".intercalate ms
  | .enum vs => "enum " ++ t.name ++ printBlock (printItems printEnumValue vs)
  | .input oneOf fs =>
    "input " ++ t.name ++ (if oneOf then " @oneOf" else "")
      ++ printBlock (printItems (s.printArgument "  ") fs)

def printDirective (d : DirectiveType) : String :=
  printDescription d.description "" true ++ "directive @" ++ d.name
    ++ s.printArguments "" d.arguments ++ printRepeatable d.repeatable
    ++ " on " ++ " | ".intercalate d.locations

/-- Each root is absent or has the name of its operation. -/
def hasDefaultRoots : Bool :=
  [OperationKind.query, .mutation, .subscription].all fun k =>
    (s.root k).all (· == defaultRoot k)

def printRoot (kind : OperationKind) : Option String :=
  (s.root kind).map fun n => "  " ++ kind.name ++ ": " ++ n

def printDefinition : Option String :=
  if s.description.isNone && s.hasDefaultRoots then none
  else
    let roots := [OperationKind.query, .mutation, .subscription].filterMap s.printRoot
    some (printDescription s.description "" true ++ "schema "
      ++ braced ("\n" ++ "\n".intercalate roots ++ "\n"))

def ownDirectives : List DirectiveType := s.directives.filter (!·.isSpecified)

def ownTypes : List NamedType := s.types.filter (·.isDefined)

def print : String :=
  "\n\n".intercalate (s.printDefinition.toList ++ s.ownDirectives.map s.printDirective
    ++ s.ownTypes.map s.printType)

/-- The part of a default that cannot be written. -/
def unwritableDefault? (v : InputValue) : Option Value.Unwritable :=
  (v.default s).bind fun d => d.unwritable? s v.type

def unwritableIn? (t : NamedType) : Option Value.Unwritable :=
  match t.shape with
  | .input _ fs => fs.findSome? s.unwritableDefault?
  | shape => shape.fields.findSome? fun f => f.arguments.findSome? s.unwritableDefault?

/-- The first part of a default that cannot be written, among the directives and types. -/
def unwritable? : Option Value.Unwritable :=
  (s.ownDirectives.findSome? fun d => d.arguments.findSome? s.unwritableDefault?).or
    (s.ownTypes.findSome? s.unwritableIn?)

end Schema

def Schema.print? (s : Schema) : Except Value.Unwritable String :=
  match s.unwritable? with
  | some e => .error e
  | none => .ok s.print

end Subgraph
