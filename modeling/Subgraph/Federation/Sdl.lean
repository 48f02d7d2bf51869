import Subgraph.Federation.Classification
import Subgraph.Schema.Printer

/-!
The SDL that a service shows: its own schema with the directives that its source applies and
those of the federation protocol, without the definitions of the protocol itself.
-/

namespace Subgraph.Federation

/-- The name of a type, or of a field, enum value or input field of it. -/
structure Coordinate where
  type : String
  member : Option String
  deriving DecidableEq, Repr

def Coordinate.text (c : Coordinate) : String :=
  c.type ++ match c.member with
  | some m => "." ++ m
  | none => ""

/-- The directives to print, by the place of their declaration. -/
abbrev DirectiveMap := List (Coordinate × List Applied)

namespace DirectiveMap

def get (m : DirectiveMap) (c : Coordinate) : List Applied := (m.lookup c).getD []

end DirectiveMap

/-- The members that can have directives, with those that the source applies. -/
def memberApplications : TypeShape → List (String × List Applied)
  | .object _ fs => fs.map fun f => (f.name, f.applied)
  | .interface _ fs => fs.map fun f => (f.name, f.applied)
  | .enum vs => vs.map fun v => (v.name, v.applied)
  | .input _ fs => fs.map fun f => (f.name, f.applied)
  | _ => []

/-- The directives of a type: those of the source, then the configured ones that are new. -/
def typeDirectives (c : Classification) (t : NamedType) : List Applied :=
  match c.get? t.name with
  | some f => merge (restored t.applied) f.settings.directives
  | none => restored t.applied

def typeEntries (c : Classification) (t : NamedType) : DirectiveMap :=
  let own := (⟨t.name, none⟩, typeDirectives c t)
  let members := (memberApplications t.shape).map fun m =>
    (⟨t.name, some m.1⟩, restored m.2)
  (own :: members).filter fun e => !e.2.isEmpty

/-- The types of the service itself. -/
def serviceTypes (s : Schema) : List NamedType :=
  s.types.filter fun t => t.isDefined && !isTypeName t.name

def directiveMap (s : Schema) (c : Classification) : DirectiveMap :=
  (serviceTypes s).flatMap (typeEntries c)

def printApplied (ds : List Applied) : String := String.join (ds.map fun d => " " ++ d.print)

section Types
variable (s : Schema) (m : DirectiveMap)

def printTypeDirectives (t : NamedType) : String := printApplied (m.get ⟨t.name, none⟩)

def printMemberDirectives (t : NamedType) (member : String) : String :=
  printApplied (m.get ⟨t.name, some member⟩)

def printField (t : NamedType) (first : Bool) (f : Field) : String :=
  printDescription f.description "  " first ++ "  " ++ f.name
    ++ s.printArguments "  " f.arguments ++ ": " ++ f.type.text ++ printDeprecation f.deprecation
    ++ printMemberDirectives m t f.name

def printEnumValue (t : NamedType) (first : Bool) (v : EnumValue) : String :=
  printDescription v.description "  " first ++ "  " ++ v.name ++ printDeprecation v.deprecation
    ++ printMemberDirectives m t v.name

def printInputField (t : NamedType) (first : Bool) (v : InputValue) : String :=
  printDescription v.description "  " first ++ "  " ++ s.printInputValue v
    ++ printMemberDirectives m t v.name

/-- The fields to declare: on the query root the protocol fields are left out. -/
def declaredFields (t : NamedType) (fields : List Field) : List Field :=
  if s.query = some t.name then fields.filter fun f => !isFieldName f.name else fields

def printComposite (keyword : String) (t : NamedType) (interfaces : List String)
    (fields : List Field) : Option String :=
  let declared := declaredFields s t fields
  if declared.isEmpty && !fields.isEmpty then none
  else some (printDescription t.description "" true ++ keyword ++ " " ++ t.name
    ++ printInterfaces interfaces ++ printTypeDirectives m t
    ++ printBlock (printItems (printField s m t) declared))

/-- The declaration of a type; none for a query root that has protocol fields only. -/
def printType (t : NamedType) : Option String :=
  let description := printDescription t.description "" true
  let directives := printTypeDirectives m t
  match t.shape with
  | .scalar url => some (description ++ "scalar " ++ t.name ++ printSpecifiedBy url ++ directives)
  | .object is fs => printComposite s m "type" t is fs
  | .interface is fs => printComposite s m "interface" t is fs
  | .union ms =>
    some (description ++ "union " ++ t.name ++ directives
      ++ if ms.isEmpty then "" else " = " ++ " | ".intercalate ms)
  | .enum vs =>
    some (description ++ "enum " ++ t.name ++ directives
      ++ printBlock (printItems (printEnumValue m t) vs))
  | .input oneOf fs =>
    some (description ++ "input " ++ t.name ++ (if oneOf then " @oneOf" else "") ++ directives
      ++ printBlock (printItems (printInputField s m t) fs))

end Types

/-- The types that are not declared although they belong to the service. -/
def leftOut (s : Schema) (m : DirectiveMap) : List String :=
  ((serviceTypes s).filter fun t => (printType s m t).isNone).map (·.name)

def lastPart (separator : String) (line : String) : String :=
  ((Text.afterLast? separator.toList line.toList).map String.ofList).getD line

/-- The schema definition without the lines of roots that are left out; none without roots. -/
def printDefinition (s : Schema) (leftOut : List String) : Option String :=
  s.printDefinition.bind fun d =>
    let keep := (Text.splitLines d).filter fun l =>
      !(l.startsWith "  " && leftOut.contains (lastPart ": " l))
    if keep.any (·.startsWith "  ") then some (Text.joinLines keep) else none

def serviceDirectives (s : Schema) : List DirectiveType :=
  s.ownDirectives.filter fun d => !isDirectiveName d.name

/-- The definitions in order: the schema, the directives, the types. -/
def definitions (s : Schema) (c : Classification) : List String :=
  let m := directiveMap s c
  (printDefinition s (leftOut s m)).toList ++ (serviceDirectives s).map s.printDirective
    ++ (serviceTypes s).filterMap (printType s m)

/-- The SDL, which ends with a line feed unless there is nothing to define. -/
def printSdl (s : Schema) (c : Classification) : String :=
  let sdl := "\n\n".intercalate (definitions s c)
  if sdl = "" then "" else sdl ++ "\n"

def unwritableIn? (s : Schema) (t : NamedType) : Option Value.Unwritable :=
  match t.shape with
  | .input _ fs => fs.findSome? s.unwritableDefault?
  | shape =>
    (declaredFields s t shape.fields).findSome? fun f => f.arguments.findSome? s.unwritableDefault?

/-- The first part of a default that the SDL would need and that cannot be written. -/
def unwritable? (s : Schema) : Option Value.Unwritable :=
  ((serviceTypes s).findSome? (unwritableIn? s)).or
    ((serviceDirectives s).findSome? fun d => d.arguments.findSome? s.unwritableDefault?)

def printSdl? (s : Schema) (c : Classification) : Except Value.Unwritable String :=
  match unwritable? s with
  | some e => .error e
  | none => .ok (printSdl s c)

def sdlRecords (sdl : String) : List LogRecord :=
  [debug ("Federated SDL: \n" ++ if sdl.endsWith "\n" then String.ofList (sdl.toList.dropLast)
    else sdl)]

end Subgraph.Federation
