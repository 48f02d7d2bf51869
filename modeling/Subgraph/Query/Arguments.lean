import Subgraph.Query.Rules

/-!
The rules for directives, arguments and variables of a document.
-/

namespace Subgraph.QueryContext
open Suggestion (Attempt)
variable (c : QueryContext)

/-- The directives that a document defines itself count as known. -/
def ownDirectives : List DirectiveType := c.document.filterMap fun
  | .directive d => some ⟨d.description, d.name, d.arguments.map fun a =>
      ⟨a.description, a.name, a.type,
       a.default?.map fun l => .written (l.remark fun _ => ()), none, []⟩,
      d.repeatable, d.locations⟩
  | _ => none

def directive? (name : String) : Option DirectiveType :=
  (c.ownDirectives.reverse.find? (·.name == name)).or
    (c.schema.directives.reverse.find? (·.name == name))

def locationText (location : String) : String :=
  location.toLower.map fun ch => if ch = '_' then ' ' else ch

def knownDirectiveIssues (location : String) (d : Directive Nat) : List Issue :=
  match c.directive? d.name with
  | none => [⟨[d.mark], "Unknown directive '@" ++ d.name ++ "'."⟩]
  | some t =>
    if t.locations.contains location then []
    else [⟨[d.mark], "Directive '@" ++ d.name ++ "' may not be used on " ++ locationText location
      ++ "."⟩]

def repeatedDirectiveIssues (ds : List (Directive Nat)) : List Issue :=
  let once := ds.filter fun d => (c.directive? d.name).any (!·.repeatable)
  (again (·.name) once).map fun (a, b) =>
    ⟨[a.mark, b.mark], "The directive '@" ++ b.name ++ "' can only be used once at this location."⟩

def unknownArgumentIssues (parent : Option NamedType) (def? : Option Field) (n : FieldNode)
    (a : Argument Nat) : List (Attempt Issue) :=
  match parent, def? with
  | some t, some f =>
    if (f.argument? a.name).isSome then []
    else [(Suggestion.didYouMean a.name (f.arguments.map (·.name))).map fun hint =>
      ⟨[a.mark], "Unknown argument '" ++ a.name ++ "' on field '" ++ t.name ++ "." ++ n.name
        ++ "'." ++ hint⟩]
  | _, _ => []

def requiredArgumentIssues (def? : Option Field) (n : FieldNode) : List Issue :=
  match def? with
  | some f => (f.arguments.filter fun a =>
      a.isRequired c.schema && !(n.arguments.any (·.name == a.name))).map fun a =>
        ⟨[n.mark], "Field '" ++ n.name ++ "' argument '" ++ a.name ++ "' of type '"
          ++ a.type.text ++ "' is required, but it was not provided."⟩
  | none => []

def unknownDirectiveArgumentIssues (d : Directive Nat) : List (Attempt Issue) :=
  match c.directive? d.name with
  | none => []
  | some t =>
    (d.arguments.filter fun a => !(t.arguments.any (·.name == a.name))).map fun a =>
      (Suggestion.didYouMean a.name (t.arguments.map (·.name))).map fun hint =>
        ⟨[a.mark], "Unknown argument '" ++ a.name ++ "' on directive '@" ++ d.name ++ "'." ++ hint⟩

def requiredDirectiveArgumentIssues (d : Directive Nat) : List Issue :=
  match c.directive? d.name with
  | none => []
  | some t =>
    (t.arguments.filter fun a =>
      a.isRequired c.schema && !(d.arguments.any (·.name == a.name))).map fun a =>
        ⟨[d.mark], "Directive '@" ++ d.name ++ "' argument '" ++ a.name ++ "' of type '"
          ++ a.type.text ++ "' is required, but it was not provided."⟩

def doubledArgumentIssues (as : List (Argument Nat)) : List Issue :=
  (groups (·.name) as).map fun (n, same) =>
    ⟨same.map (·.mark), "There can be only one argument named '" ++ n ++ "'."⟩

/-- Arguments with what their field or directive says of them. -/
abbrev ArgumentSite := Argument Nat × Option InputValue

def directiveArguments (ds : List (Directive Nat)) : List ArgumentSite :=
  ds.flatMap fun d => d.arguments.map fun a =>
    (a, (c.schema.directive? d.name).bind fun t =>
      t.arguments.find? (·.name == a.name))

def siteArguments (sites : List Site) : List ArgumentSite :=
  sites.flatMap fun s =>
    (match s with
      | .field _ def? n => n.arguments.map fun a => (a, def?.bind (·.argument? a.name))
      | _ => []) ++ c.directiveArguments s.directives

def operationArguments (o : Operation Nat) : List ArgumentSite :=
  c.directiveArguments o.directives ++ c.siteArguments (c.operationSites o)

def fragmentArguments (f : Fragment Nat) : List ArgumentSite :=
  c.directiveArguments f.directives ++ c.siteArguments (c.fragmentSites f)

def argumentLiteralIssues (a : ArgumentSite) : List (Attempt Issue) :=
  Query.literalIssues c.schema true (a.2.bind fun v => c.schema.inputType? v.type) a.1.value

/-- The issues of a directive, those of its arguments among them. -/
def directiveIssues (location : String) (d : Directive Nat) : List (Attempt Issue) :=
  c.knownDirectiveIssues location d ++ c.unknownDirectiveArgumentIssues d
    ++ doubledArgumentIssues d.arguments
    ++ (c.directiveArguments [d]).flatMap c.argumentLiteralIssues
    ++ c.requiredDirectiveArgumentIssues d

def directivesIssues (location : String) (ds : List (Directive Nat)) : List (Attempt Issue) :=
  ds.flatMap (c.directiveIssues location)

def argumentUses (a : ArgumentSite) : List VariableUse :=
  Query.literalUses c.schema ((a.2.bind (·.default c.schema)).isSome) none
    (a.2.bind fun v => c.schema.inputType? v.type) a.1.value

/-- The uses of variables in an operation and the fragments that it uses. -/
def variableUses (o : Operation Nat) : List VariableUse :=
  (c.operationArguments o ++ (c.fragmentsOf o).flatMap c.fragmentArguments).flatMap c.argumentUses

def inOperation (o : Operation Nat) (word : String) : String :=
  match o.name with
  | some n => word ++ " operation '" ++ n.2 ++ "'"
  | none => ""

def undefinedVariableIssues (o : Operation Nat) : List Issue :=
  ((c.variableUses o).filter fun u => !(o.variableDefinitions.any (·.name == u.name))).map fun u =>
    ⟨[u.mark, o.mark], "Variable '$" ++ u.name ++ "' is not defined" ++ inOperation o " by"
      ++ "."⟩

def unusedVariableIssues (o : Operation Nat) : List Issue :=
  let used := (c.variableUses o).map (·.name)
  (o.variableDefinitions.filter fun v => !used.contains v.name).map fun v =>
    ⟨[v.mark], "Variable '$" ++ v.name ++ "' is never used" ++ inOperation o " in" ++ "."⟩

/-- Whether a variable can stand where a type is expected. A default, of the variable or of the
place, makes up for null. -/
def allowedUse (v : VariableDefinition Nat) (t : TypeRef) (hasDefault : Bool) : Bool :=
  match t with
  | .nonNull u =>
    if v.type.isNonNull then v.type.isSubTypeOf c.schema t
    else
      let given := match v.default? with
        | some (.null _) => false
        | some _ => true
        | none => false
      (given || hasDefault) && v.type.isSubTypeOf c.schema u
  | t => v.type.isSubTypeOf c.schema t

def variablePositionIssues (o : Operation Nat) : List Issue :=
  (c.variableUses o).flatMap fun u =>
    match o.variableDefinitions.reverse.find? (·.name == u.name), u.type? with
    | some v, some t =>
      if (c.schema.shape? v.type.base).isNone then [] else
      let named := "Variable '$" ++ u.name ++ "' "
      (if c.allowedUse v t u.hasDefault then []
        else [⟨[v.mark, u.mark], named ++ "of type '" ++ v.type.text
          ++ "' used in position expecting type '" ++ t.text ++ "'."⟩])
        ++ if v.type.isNonNull then [] else u.oneOf?.toList.map fun n =>
          ⟨[v.mark, u.mark], named ++ "is of type '" ++ v.type.text
            ++ "' but must be non-nullable to be used for OneOf Input Object '" ++ n ++ "'."⟩
    | _, _ => []

end Subgraph.QueryContext
