import Subgraph.Document.Parser
import Subgraph.Schema.Build
import Subgraph.Schema.Rules

/-!
Reading a schema from its text: the text has to be a document, the document has to keep the
rules, and a schema has to come out. What is wrong with a directive is shown where it is written.
-/

namespace Subgraph

section Places
open Build
variable {μ : Type}

/-- The place of the first directive of an argument that cannot be read. -/
def InputDefinition.misuse? (d : InputDefinition μ) : Option μ :=
  Build.misuse? (deprecation d.directives)

def FieldDefinition.misuse? (d : FieldDefinition μ) : Option μ :=
  (d.arguments.findSome? (·.misuse?)).or (Build.misuse? (deprecation d.directives))

/-- The first place among the fields of a type. -/
def TypeDefinition.misuseInFields? (d : TypeDefinition μ) : Option μ :=
  match d.body with
  | .object _ fs => fs.findSome? (·.misuse?)
  | .interface _ fs => fs.findSome? (·.misuse?)
  | .input fs => fs.findSome? (·.misuse?)
  | _ => none

/-- The first place outside fields. -/
def TypeDefinition.misuse? (d : TypeDefinition μ) : Option μ :=
  match d.body with
  | .scalar => Build.misuse? (specifiedBy d.directives)
  | .enum vs => vs.findSome? fun v => Build.misuse? (deprecation v.directives)
  | _ => none

def Document.extensionsOf (doc : Document μ) (name : String) : List (TypeDefinition μ) :=
  doc.filterMap fun
    | .extendType d => if d.name == name then some d else none
    | _ => none

/-- The definition of a type, the last one if there are more, and its extensions. -/
def Document.definitionsOf (doc : Document μ) (name : String) : List (TypeDefinition μ) :=
  let own := doc.filterMap fun
    | .type _ d => if d.name == name then some d else none
    | _ => none
  own.getLast?.toList ++ doc.extensionsOf name

/-- The first place outside the fields of types: types come before directives. -/
def Document.misuse? (doc : Document μ) : Option μ :=
  (doc.findSome? fun
    | .type _ d =>
      match d.body with
      | .enum _ => (d :: doc.extensionsOf d.name).findSome? (·.misuse?)
      | _ => d.misuse?
    | _ => none).or
  (doc.findSome? fun
    | .directive d => d.arguments.findSome? (·.misuse?)
    | _ => none)

end Places

/-- The place that an error about a directive points at. -/
def BuildError.place? {μ : Type} (doc : Document μ) : BuildError → Option μ
  | .argument _ => doc.misuse?
  | .inFields type (.argument _) => (doc.definitionsOf type).findSome? (·.misuseInFields?)
  | .inFields _ cause => cause.place? doc
  | _ => none

def BuildError.report (text : String) (e : BuildError) : String :=
  match (Document.parse Nat text).toOption.bind (e.place? ·) with
  | some p => e.message ++ "\n\n" ++ Text.excerpt Document.textName text p
  | none => e.message

inductive SchemaError where
  | text (e : SyntaxError)
  | rules (faults : List String)
  | suggestion (f : Suggestion.Fault)
  | build (source : String) (e : BuildError)
  deriving DecidableEq, Repr

def SchemaError.message : SchemaError → String
  | .text e => e.message
  | .rules faults => "\n\n".intercalate faults
  | .suggestion f => f.message
  | .build source e => e.report source

/-- Builds a schema from a text. The rules can be taken as kept. -/
def Schema.read (text : String) (assumeValid : Bool) : Except SchemaError Schema := do
  let doc ← (Document.parse Unit text).mapError .text
  let faults ← (if assumeValid then [] else doc.faults).mapM (·.mapError .suggestion)
  if faults.isEmpty then (Schema.build doc).mapError (.build text) else throw (.rules faults)

end Subgraph
