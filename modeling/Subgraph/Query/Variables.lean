import Subgraph.Query.Serialize
import Subgraph.Query.Site

/-!
The values of variables: what a request gives, made to fit the types of the definitions.
-/

namespace Subgraph
open Suggestion (Attempt)

inductive PathStep where
  | key (name : String)
  | index (n : Nat)
  deriving DecidableEq, Repr, Inhabited

abbrev Path := List PathStep

def Path.text (p : Path) : String :=
  String.join (p.map fun
    | .key n => "." ++ n
    | .index n => "[" ++ toString n ++ "]")

/-- What is wrong with an input: where, the part of the input, and why. -/
structure InputFault where
  path : Path
  value : Value
  message : String

/-- A value, and what is wrong with it. -/
abbrev CoercedInput := Value × List (Attempt InputFault)

namespace Input
variable (s : Schema)

/-- The value of an input at a scalar or enum type. -/
def leaf (name : String) (shape : TypeShape) (path : Path) (v : Value) : CoercedInput :=
  let r := match shape with
    | .scalar _ => Leaf.parseScalar name v
    | .enum vs => Leaf.parseEnum name vs v
    | _ => .ok v
  match r with
  | .ok w => (w, [])
  | .error m => (.missing, [.ok ⟨path, v, m⟩])

/-- Goes through the wrappers of a type. `items` is the value of a list at an item type,
`atName` the value at a named type. -/
def throughType (v : Value) (items : Option (TypeRef → Path → CoercedInput))
    (atName : String → Path → CoercedInput) : TypeRef → Path → CoercedInput
  | .nonNull t, path =>
    if v.isNull then
      (.missing, [.ok ⟨path, v, "Expected non-nullable type '" ++ t.text ++ "!' not to be None."⟩])
    else throughType v items atName t path
  | .list t, path =>
    if v.isNull then (.null, [])
    else match items with
      | some f => f t path
      | none =>
        let (w, faults) := throughType v items atName t path
        (.list [w], faults)
  | .named n, path => if v.isNull then (.null, []) else atName n path

abbrev Coercer := TypeRef → Path → CoercedInput

def listInput (items : List Coercer) (t : TypeRef) (path : Path) : CoercedInput :=
  let rs := items.zipIdx.map fun (f, i) => f t (path ++ [PathStep.index i])
  (.list (rs.map (·.1)), rs.flatMap (·.2))

/-- The entry of a field, given or by default, and what is wrong with it. -/
def fieldInput (given : List (String × Coercer)) (whole : Value) (path : Path) (f : InputValue) :
    Option (String × Value) × List (Attempt InputFault) :=
  match given.lookup f.name with
  | some g =>
    let (w, faults) := g f.type (path ++ [.key f.name])
    (some (f.name, w), faults)
  | none =>
    match f.default s with
    | some d => (some (f.name, d), [])
    | none =>
      if f.type.isNonNull then
        (none, [.ok ⟨path, whole, "Field '" ++ f.name ++ "' of required type '" ++ f.type.text
          ++ "' was not provided."⟩])
      else (none, [])

def unknownInputs (name : String) (fields : List InputValue) (given : List String) (whole : Value)
    (path : Path) : List (Attempt InputFault) :=
  (given.filter fun n => !(fields.any (·.name == n))).map fun n =>
    (Suggestion.didYouMean n (fields.map (·.name))).map fun hint =>
      ⟨path, whole, "Field '" ++ n ++ "' is not defined by type '" ++ name ++ "'." ++ hint⟩

def oneOfFaults (name : String) (entries : List (String × Value)) (whole : Value) (path : Path) :
    List InputFault :=
  match entries with
  | [(k, v)] =>
    match v with
    | .null => [⟨path ++ [.key k], v, "Field '" ++ k ++ "' must be non-null."⟩]
    | _ => []
  | _ => [⟨path, whole, "Exactly one key must be specified for OneOf type '" ++ name ++ "'."⟩]

def objectInput (name : String) (oneOf : Bool) (fields : List InputValue)
    (given : List (String × Coercer)) (whole : Value) (path : Path) : CoercedInput :=
  let rs := fields.map (fieldInput s given whole path)
  let entries := rs.filterMap (·.1)
  (.record entries, rs.flatMap (·.2) ++ unknownInputs name fields (given.map (·.1)) whole path
    ++ if oneOf then oneOfFaults name entries whole path else [])

def notMapping (name : String) (v : Value) (path : Path) : CoercedInput :=
  (.missing, [.ok ⟨path, v, "Expected type '" ++ name ++ "' to be a mapping."⟩])

mutual
/-- The value of an input at a type. -/
def coerce : Value → Coercer
  | .list xs =>
    let items := coerceItems xs
    throughType (.list xs) (some (listInput items)) fun n path =>
      match s.shape? n with
      | some (.input ..) => notMapping n (.list xs) path
      | some shape => leaf n shape path (.list xs)
      | none => (.missing, [])
  | .record es =>
    let given := coerceEntries es
    throughType (.record es) none fun n path =>
      match s.shape? n with
      | some (.input oneOf fs) => objectInput s n oneOf fs given (.record es) path
      | some shape => leaf n shape path (.record es)
      | none => (.missing, [])
  | v =>
    throughType v none fun n path =>
      match s.shape? n with
      | some (.input ..) => notMapping n v path
      | some shape => leaf n shape path v
      | none => (.missing, [])
def coerceItems : List Value → List Coercer
  | [] => []
  | x :: xs => coerce x :: coerceItems xs
def coerceEntries : List (String × Value) → List (String × Coercer)
  | [] => []
  | (n, v) :: r => (n, coerce v) :: coerceEntries r
end

end Input

/-- The value of a variable, if it has one, and what is wrong with it. -/
def variableValue (s : Schema) (inputs : Entries Value) (d : VariableDefinition Nat) :
    Option Value × List (Attempt String) :=
  let named := "Variable '$" ++ d.name ++ "'"
  match Entries.get? inputs d.name with
  | none =>
    match d.default? with
    | some l => (l.coerce? s [] d.type, [])
    | none =>
      if d.type.isNonNull then
        (none, [.ok <| named ++ " of required type '" ++ d.type.text ++ "' was not provided."])
      else (none, [])
  | some v =>
    if v.isNull && d.type.isNonNull then
      (none, [.ok <| named ++ " of non-null type '" ++ d.type.text ++ "' must not be null."])
    else
      let (w, faults) := Input.coerce s v d.type []
      (some w, faults.map <| Except.map fun f =>
        named ++ " got invalid value " ++ f.value.inspect
          ++ (if f.path.isEmpty then "" else " at '" ++ d.name ++ f.path.text ++ "'") ++ "; "
          ++ f.message)

def deepestInput : Nat := 200

mutual
/-- How deeply lists and records nest. -/
def Value.depth : Value → Nat
  | .list xs => 1 + greatestDepth xs
  | .record es => 1 + greatestEntryDepth es
  | _ => 0
def Value.greatestDepth : List Value → Nat
  | [] => 0
  | x :: xs => max x.depth (greatestDepth xs)
def Value.greatestEntryDepth : List (String × Value) → Nat
  | [] => 0
  | (_, v) :: r => max v.depth (greatestEntryDepth r)
end

def isNestedInput (inputs : Entries Value) (d : VariableDefinition Nat) : Bool :=
  (Entries.get? inputs d.name).any fun v => decide (deepestInput < v.depth)

/-- The issues of variables up to the first one whose value nests too deeply. -/
def variableIssues (inputs : Entries Value) :
    List (VariableDefinition Nat × Option Value × List (Attempt String)) → List (Attempt Issue)
  | [] => []
  | (d, _, faults) :: r =>
    if isNestedInput inputs d then [.ok ⟨[d.mark], "Variable values are nested too deeply."⟩]
    else faults.map (Except.map (⟨[d.mark], ·⟩)) ++ variableIssues inputs r

def mostVariableIssues : Nat := 50

def tooManyVariableIssues : Issue :=
  ⟨[], "Too many errors processing variables, error limit reached. Execution aborted."⟩

/-- The values of all variables, or the issues of those that do not fit. -/
def variableValues (s : Schema) (inputs : Entries Value) (ds : List (VariableDefinition Nat)) :
    Attempt (Except (List Issue) Variables) := do
  let rs := ds.map fun d => (d, variableValue s inputs d)
  let issues ← ((variableIssues inputs rs).take (mostVariableIssues + 1)).mapM id
  return if issues.isEmpty then
      .ok (rs.filterMap fun (d, r) => r.1.map (d.name, ·))
    else if mostVariableIssues < issues.length then
      .error (issues.take mostVariableIssues ++ [tooManyVariableIssues])
    else .error issues

end Subgraph
