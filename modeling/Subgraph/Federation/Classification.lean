import Subgraph.Federation.Settings
import Subgraph.Log

/-!
Which types of a schema are configured, and whether the configuration fits them.

`classify` goes through the configured types in order and stops at the first rule that one of
them breaks.
-/

namespace Subgraph.Federation

inductive ClassificationError where
  | referenceOffObject (type : String)
  | notDefined (type : String)
  | keysOffObject (type : String)
  | extendOffObject (type : String)
  | unknownKeyField (field type : String)
  deriving DecidableEq, Repr

def ClassificationError.message : ClassificationError → String
  | .referenceOffObject t =>
    "Type \"" ++ t ++ "\" is not an object type and can't have a resolveReference function."
  | .notDefined t => "Type \"" ++ t ++ "\" is not defined in the schema."
  | .keysOffObject t => "Type \"" ++ t ++ "\" is not an object type and can't have key fields."
  | .extendOffObject t =>
    "Type \"" ++ t ++ "\" is not an object or interface type and can't be extended."
  | .unknownKeyField f t => "Key field \"" ++ f ++ "\" is not a field of type \"" ++ t ++ "\"."

structure FederatedType where
  name : String
  type : NamedType
  settings : TypeSettings
  deriving Inhabited

namespace FederatedType

def isEntity (t : FederatedType) : Bool := t.settings.isEntity

end FederatedType

structure Classification where
  types : List FederatedType
  deriving Inhabited

namespace Classification

def get? (c : Classification) (name : String) : Option FederatedType :=
  c.types.find? (·.name == name)

/-- The object types with keys. -/
def entities (c : Classification) : List FederatedType :=
  c.types.filter fun t => t.isEntity && t.type.shape.isObject

def entityNames (c : Classification) : List String := c.entities.map (·.type.name)

end Classification

/-- The first field at the top of a key set that a type does not have. -/
def unknownKeyField? (t : NamedType) (settings : TypeSettings) : Option String :=
  (settings.keySets.flatMap KeySet.topNames).find? fun n => (t.field? n).isNone

/-- Checks the settings of a type, which the schema may not have. -/
def classifyType (type? : Option NamedType) (name : String) (settings : TypeSettings) :
    Except ClassificationError FederatedType :=
  let isObject := type?.any (·.shape.isObject)
  if settings.reference.isSome && !isObject then .error (.referenceOffObject name)
  else match type? with
    | none => .error (.notDefined name)
    | some t =>
      if settings.isEntity && !isObject then .error (.keysOffObject name)
      else if settings.extend && !(isObject || t.shape.isInterface) then
        .error (.extendOffObject name)
      else match unknownKeyField? t settings with
        | some f => .error (.unknownKeyField f name)
        | none => .ok ⟨name, t, settings⟩

def classifyTypes (s : Schema) : Config → Except ClassificationError (List FederatedType)
  | [] => .ok []
  | (n, settings) :: r => do
    let t ← classifyType (s.type? n) n settings
    return t :: (← classifyTypes s r)

def classify (s : Schema) (c : Config) : Except ClassificationError Classification :=
  Classification.mk <$> classifyTypes s c

def Classification.records (c : Classification) : List LogRecord :=
  [info ("Found " ++ toString c.entities.length ++ " federation entities in "
      ++ toString c.types.length ++ " configured types"),
   debug ("Entities: " ++ listed c.entityNames)]

end Subgraph.Federation
