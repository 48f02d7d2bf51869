import Subgraph.Query.Site
import Subgraph.Schema.Suggestion
import Subgraph.Document.Printer

/-!
Literals in an operation: whether they fit the types of their places, and where variables stand
in them.
-/

namespace Subgraph
open Suggestion (Attempt)

/-- A place where a variable is used, with the type that is expected there. -/
structure VariableUse where
  mark : Nat
  name : String
  type? : Option TypeRef
  hasDefault : Bool
  /-- The input object with one field only that the variable is the field of. -/
  oneOf? : Option String
  deriving Repr

namespace Query
variable (s : Schema)

/-- The type of the items of a list literal at a place. -/
def itemType (t : TypeRef) : TypeRef :=
  match t.nullable with
  | .list item => item
  | t => t

def isListType (t : Option TypeRef) : Bool :=
  match t.map TypeRef.nullable with
  | some (.list _) => true
  | _ => false

def inputFields? (t : Option TypeRef) : Option (String × Bool × List InputValue) :=
  t.bind fun t => match s.shape? t.base with
    | some (.input oneOf fs) => some (t.base, oneOf, fs)
    | _ => none

def misfit (t : TypeRef) (l : Literal Nat) : Issue :=
  ⟨[l.mark], "Expected value of type '" ++ t.text ++ "', found " ++ l.print ++ "."⟩

/-- The same with why that does not even show. -/
def misfitBecause (t : TypeRef) (l : Literal Nat) (why : String) : String :=
  "Expected value of type '" ++ t.text ++ "', found " ++ l.print ++ "; " ++ why

/-- Why a scalar does not take a literal. -/
def scalarIssue? (t : TypeRef) (l : Literal Nat) : Option String :=
  match t.base, l with
  | "Int", .int _ d =>
    match Numeral.int 10 d with
    | .ok n =>
      if fitsInt n then none
      else some ("Int cannot represent non 32-bit signed integer value: " ++ l.print)
    | .error _ =>
      some (misfitBecause t l (Numeral.tooLongMessage (d.toList.filter Text.isDigit).length))
  | "Int", l => some ("Int cannot represent non-integer value: " ++ l.print)
  | "Float", .int .. => none
  | "Float", .float .. => none
  | "Float", l => some ("Float cannot represent non numeric value: " ++ l.print)
  | "String", .string .. => none
  | "String", l => some ("String cannot represent a non string value: " ++ l.print)
  | "Boolean", .bool .. => none
  | "Boolean", l => some ("Boolean cannot represent a non boolean value: " ++ l.print)
  | "ID", .string .. => none
  | "ID", .int .. => none
  | "ID", l => some ("ID cannot represent a non-string and non-integer value: " ++ l.print)
  | _, _ => none

def enumIssue? (t : TypeRef) (values : List EnumValue) (l : Literal Nat) : Option String :=
  let hinted := fun text message =>
    match Suggestion.enumHint text (values.map (·.name)) with
    | .ok hint => some (message ++ hint)
    | .error f => some (misfitBecause t l f.message)
  match l with
  | .enum _ n =>
    if values.any (·.name == n) then none
    else hinted n ("Value '" ++ n ++ "' does not exist in '" ++ t.base ++ "' enum.")
  | l => hinted l.print ("Enum '" ++ t.base ++ "' cannot represent non-enum value: " ++ l.print
      ++ ".")

/-- Whether a literal that is no list or object fits the type of its place. -/
def leafIssues (t : Option TypeRef) (l : Literal Nat) : List Issue :=
  match t with
  | none => []
  | some t =>
    match s.shape? t.base with
    | some (.scalar _) => (scalarIssue? t l).toList.map fun m => ⟨[l.mark], m⟩
    | some (.enum vs) => (enumIssue? t vs l).toList.map fun m => ⟨[l.mark], m⟩
    | _ => [misfit t l]

def missingFieldIssues (mark : Nat) (name : String) (fields : List InputValue)
    (given : List String) : List Issue :=
  (fields.filter fun f => f.isRequired s && !given.contains f.name).map fun f =>
    ⟨[mark], "Field '" ++ name ++ "." ++ f.name ++ "' of required type '" ++ f.type.text
      ++ "' was not provided."⟩

/-- What an input object with one field only asks of a literal. -/
def oneOfIssues (mark : Nat) (name : String) (fields : List (Nat × String × Literal Nat)) :
    List Issue :=
  match (fields.map (·.2.1)).eraseDups with
  | [key] =>
    match fields.reverse.find? (·.2.1 == key) with
    | some (_, _, .null _) => [⟨[mark], "Field '" ++ name ++ "." ++ key ++ "' must be non-null."⟩]
    | _ => []
  | _ => [⟨[mark], "OneOf Input Object '" ++ name ++ "' must specify exactly one key."⟩]

/-- Fields of an object literal that the type does not know, or that have a name twice. -/
def entryIssues (fields? : Option (String × Bool × List InputValue))
    (earlier : List (Nat × String)) (mark : Nat) (name : String) : List (Attempt Issue) :=
  (match fields? with
    | some (type, _, fs) =>
      if fs.any (·.name == name) then []
      else [(Suggestion.didYouMean name (fs.map (·.name))).map fun hint =>
        ⟨[mark], "Field '" ++ name ++ "' is not defined by type '" ++ type ++ "'." ++ hint⟩]
    | none => []) ++
  match earlier.find? (·.2 == name) with
  | some e => [.ok ⟨[e.1, mark], "There can be only one input field named '" ++ name ++ "'."⟩]
  | none => []

mutual
/-- What is wrong with a literal at a place. Below a list or an object that does not fit, only
doubled names are looked for. -/
def literalIssues (checked : Bool) :
    Option TypeRef → Literal Nat → List (Attempt Issue)
  | t, .list m xs =>
    if checked && !isListType t then
      leafIssues s (t.map itemType) (.list m xs) ++ itemIssues false none xs
    else itemIssues checked (t.map itemType) xs
  | t, .object m fs =>
    match inputFields? s t with
    | some (name, oneOf, ins) =>
      (if checked then missingFieldIssues s m name ins (fs.map (·.2.1))
        ++ (if oneOf then oneOfIssues m name fs else []) else [])
        ++ fieldIssues checked (some (name, oneOf, ins)) [] fs
    | none =>
      (if checked then leafIssues s t (.object m fs) else [])
        ++ fieldIssues false none [] fs
  | _, .variable .. => []
  | t, .null m =>
    if checked then
      match t with
      | some (.nonNull u) => [.ok (misfit (.nonNull u) (.null m))]
      | _ => []
    else []
  | t, l => if checked then leafIssues s t l else []
def itemIssues (checked : Bool) (t : Option TypeRef) :
    List (Literal Nat) → List (Attempt Issue)
  | [] => []
  | x :: xs => literalIssues checked t x ++ itemIssues checked t xs
def fieldIssues (checked : Bool)
    (fields? : Option (String × Bool × List InputValue)) (earlier : List (Nat × String)) :
    List (Nat × String × Literal Nat) → List (Attempt Issue)
  | [] => []
  | (m, n, v) :: r =>
    let t := fields?.bind fun f => (f.2.2.find? (·.name == n)).map (·.type)
    entryIssues (if checked then fields? else none) earlier m n
      ++ literalIssues checked t v
      ++ fieldIssues checked fields? (if earlier.any (·.2 == n) then earlier
        else earlier ++ [(m, n)]) r
end

mutual
/-- The uses of variables in a literal at a place. -/
def literalUses (hasDefault : Bool) (oneOf? : Option String) :
    Option TypeRef → Literal Nat → List VariableUse
  | t, .variable m n => [⟨m, n, t, hasDefault, oneOf?⟩]
  | t, .list _ xs => itemUses (t.map itemType) xs
  | t, .object _ fs => fieldUses (inputFields? s t) fs
  | _, _ => []
def itemUses (t : Option TypeRef) : List (Literal Nat) → List VariableUse
  | [] => []
  | x :: xs => literalUses false none t x ++ itemUses t xs
def fieldUses (fields? : Option (String × Bool × List InputValue)) :
    List (Nat × String × Literal Nat) → List VariableUse
  | [] => []
  | (_, n, v) :: r =>
    let f := fields?.bind fun f => f.2.2.find? (·.name == n)
    let oneOf? := fields?.bind fun f => if f.2.1 then some f.1 else none
    literalUses ((f.bind (·.default s)).isSome) oneOf? (f.map (·.type)) v ++ fieldUses fields? r
end

end Query
end Subgraph
