import Subgraph.Config.Parse
import Subgraph.Federation.Additions
import Subgraph.Federation.Sdl
import Subgraph.Service

/-!
Turning a service into a federation subgraph.

`transform` checks the configuration against the schema, writes the SDL that the subgraph shows,
and adds the protocol definitions with their resolvers. The given service is not changed. The
log records of a step are kept even if a later step fails.
-/

namespace Subgraph.Federation
open Config

inductive TransformError where
  | config (e : ConfigError)
  | classification (e : ClassificationError)
  | unwritable (e : Value.Unwritable)
  | build (e : BuildError)

def TransformError.message : TransformError → String
  | .config e => e.message
  | .classification e => e.message
  | .unwritable e => e.message
  | .build e => e.message

/-- The names of the types that a document defines anew. -/
def definedNames (doc : Document Unit) : List String := (Build.parts doc).types.map (·.2.name)

def augmentRecords (s : Schema) (c : Classification) : List LogRecord :=
  (if s.query.isNone then
    [info "The provided schema has no Query type, a Query type will be added."] else [])
    ++ (if c.entityNames.isEmpty then
      [info ("No entities configured, " ++ entitiesField ++ " and " ++ entityUnion
        ++ " are not added.")] else [])
    ++ [debug ("Federation type definitions: \n" ++ additionsText s c.entityNames)]

/-- The protocol resolvers of the query root. -/
def protocolResolvers (query : String) (c : Classification) (sdl : String) :
    List ((String × String) × Resolver) :=
  ((query, serviceField), .sdl sdl)
    :: if c.entityNames.isEmpty then [] else [((query, entitiesField), .entities c)]

/-- The query root has to have the field for the service. A built-in type is never extended. -/
def requireServiceField (s : Schema) (query : String) : Except BuildError Unit :=
  match (s.type? query).or (Builtin.type? query) with
  | none => .error (.unknownType query)
  | some t =>
    if !t.shape.hasFields then .error (.noFields t.shape.kind)
    else if (t.field? serviceField).isSome then .ok ()
    else .error (.noField serviceField)

/-- Adds the protocol definitions. Types that they define anew lose their resolvers and checks,
and so do the protocol fields; everything else keeps its own. -/
def augment (x : Service) (c : Classification) (sdl : String) : Except BuildError Service := do
  let doc := additions x.schema c.entityNames
  let s ← x.schema.extend doc
  let query := s.query.getD defaultQuery
  requireServiceField s query
  let protocol := protocolResolvers query c sdl
  let replaced := definedNames doc
  let kept := x.resolvers.filter fun r =>
    !replaced.contains r.1.1 && !(protocol.any (·.1 == r.1))
  return {
    schema := s
    resolvers := protocol ++ kept
    typeChecks := x.typeChecks.filter fun t => !replaced.contains t.1
    taggedTypes :=
      if c.entityNames.isEmpty then x.taggedTypes else entityUnion :: x.taggedTypes }

def classified (s : Schema) (c : Config) : Logged TransformError Classification := do
  let r ← Logged.ofExcept .classification (classify s c)
  Logged.say r.records
  return r

/-- Transforms a service by a configuration that has been checked. -/
def transformBy (x : Service) (config : Config) : Logged TransformError Service := do
  let c ← classified x.schema config
  let sdl ← Logged.ofExcept .unwritable (printSdl? x.schema c)
  Logged.say (sdlRecords sdl)
  Logged.say [info "Successfully built the federated service SDL."]
  Logged.say (augmentRecords x.schema c)
  let y ← Logged.ofExcept .build (augment x c sdl)
  Logged.say [info ("Added federation fields to the " ++ (y.schema.query.getD defaultQuery)
    ++ " type")]
  return y

def transform (registry : Registry) (x : Service) (raw : Raw) : Logged TransformError Service := do
  let config ← Logged.ofExcept .config (parse registry raw)
  Logged.say [parseRecord config]
  transformBy x config

end Subgraph.Federation
