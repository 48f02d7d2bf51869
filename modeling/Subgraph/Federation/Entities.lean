import Subgraph.Federation.Classification
import Subgraph.Value.Text

/-!
Resolving a single entity representation.

`resolveOne` checks a representation, calls the reference function of its type, and tags what
comes back with the name of the type. What goes wrong takes the place of the entity.
-/

namespace Subgraph.Federation

inductive EntityError where
  | notRecord (kind : String)
  | noTypename
  | notDefined (type : String)
  | notObject (type : String)
  | keysMissing (type : String) (keySets : List KeySet)
  deriving DecidableEq, Repr

def quotedKey (k : KeySet) : String := "\"" ++ k.joined ++ "\""

def EntityError.message : EntityError → String
  | .notRecord k => "Entity representation must be an object, got " ++ k ++ "."
  | .noTypename => "Entity representation is missing a string \"" ++ typenameKey ++ "\" field."
  | .notDefined t => "Type \"" ++ t ++ "\" is not defined in the schema."
  | .notObject t => "Type \"" ++ t ++ "\" is not an object type."
  | .keysMissing t ks =>
    "Representation of \"" ++ t ++ "\" is missing key fields: "
      ++ " or ".intercalate (ks.map quotedKey)

def EntityError.failure (e : EntityError) : Failure := ⟨"EntityResolutionError", e.message⟩

/-- The type that a representation says it is of. -/
def typename : Value → Except EntityError String
  | .record es =>
    match Entries.get? es typenameKey with
    | some (.text t) => if t = "" then .error .noTypename else .ok t
    | _ => .error .noTypename
  | v => .error (.notRecord v.kindName)

/-- Whether a representation has all fields at the top of a key set. -/
def holdsKey (rep : Value) (k : KeySet) : Bool := k.topNames.all rep.hasMember

/-- A representation has to hold at least one key of its type, if the type has keys. -/
def checkKeys (type : String) (keySets : List KeySet) (rep : Value) : Except EntityError Unit :=
  if keySets.isEmpty || keySets.any (holdsKey rep) then .ok ()
  else .error (.keysMissing type keySets)

/-- A value with the name of its type. Records and open objects take it, nothing stays nothing;
other values stay as they are. -/
def tag (type : String) : Value → Value
  | .record es => .record (Entries.put es typenameKey (.text type))
  | .object k as =>
    if k.isOpen then .object k (Entries.put as typenameKey (.text type)) else .object k as
  | v => v

/-- Whether a value refuses the name of its type. -/
def refusesTag : Value → Bool
  | .record _ => false
  | .object k _ => !k.isOpen
  | .null => false
  | .failure _ => false
  | _ => true

def tagRecords (type : String) (v : Value) : List LogRecord :=
  if refusesTag v then
    [debug ("Could not tag " ++ v.kindName ++ " entity with " ++ typenameKey ++ " '" ++ type
      ++ "'")]
  else []

/-- The settings of a type, or none for an object type without settings. -/
def lookup (s : Schema) (c : Classification) (type : String) :
    Except EntityError (Option FederatedType) :=
  match c.get? type with
  | some t => .ok (some t)
  | none =>
    match s.type? type with
    | none => .error (.notDefined type)
    | some t => if t.shape.isObject then .ok none else .error (.notObject type)

/-- What a representation comes to at first: a value, or an answer that is still to come, with
the type to tag it with. -/
inductive Slot where
  | done (v : Value)
  | pending (type : Option String) (yields : Nat) (atStart atFinish : List String) (o : Outcome)
  deriving Inhabited

/-- The reference function to call for a representation, if there is one. -/
def referenceFor (s : Schema) (c : Classification) (rep : Value) :
    Except EntityError (String × Option Reference) := do
  let type ← typename rep
  match ← lookup s c type with
  | none => return (type, none)
  | some t =>
    checkKeys t.name t.settings.keySets rep
    return (type, t.settings.reference)

/-- A call of a reference function. -/
structure ReferenceCall where
  function : Reference
  representation : Value
  request : Request

def ReferenceCall.isCounted (k : ReferenceCall) : Bool := k.function.counts k.representation

/-- How many of some calls are counted. -/
def countedCalls (calls : List ReferenceCall) : Nat := calls.countP ReferenceCall.isCounted

/-- A slot with its log records and the call that was made for it. -/
structure Resolved where
  slot : Slot
  records : List LogRecord
  call : Option ReferenceCall

def failureRecord (f : Failure) : LogRecord :=
  warning ("Failed to resolve entity representation: " ++ f.message)

def failed (f : Failure) (call : Option ReferenceCall) : Resolved :=
  ⟨.done (.failure f), [failureRecord f], call⟩

def settled (type : String) (v : Value) (records : List LogRecord) (call : Option ReferenceCall) :
    Resolved :=
  ⟨.done (tag type v), records ++ tagRecords type v, call⟩

/-- Makes a call, after a number of counted calls. -/
def answered (type : String) (call : ReferenceCall) (before : Nat) : Resolved :=
  match call.function.answer before call.representation call.request with
  | .now (.ok v) => settled type v [] (some call)
  | .now (.error e) => failed e (some call)
  | .later n start finish o => ⟨.pending (some type) n start finish o, [], some call⟩

/-- Resolves a representation, after a number of counted calls. -/
def resolveOne (s : Schema) (c : Classification) (r : Request) (before : Nat) (rep : Value) :
    Resolved :=
  match referenceFor s c rep with
  | .error e => failed e.failure none
  | .ok (type, none) =>
    settled type rep [debug ("Resolving " ++ type ++ " representation to itself")] none
  | .ok (type, some f) => answered type ⟨f, rep, r⟩ before

/-- Resolves representations in order. -/
def resolveAll (s : Schema) (c : Classification) (r : Request) (before : Nat) :
    List Value → List Resolved
  | [] => []
  | rep :: reps =>
    let one := resolveOne s c r before rep
    one :: resolveAll s c r (before + countedCalls one.call.toList) reps

end Subgraph.Federation
