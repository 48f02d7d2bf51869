import Subgraph.Schema.Coercion
import Subgraph.Schema.Define

/-!
Resolving the types of a schema: every name that they refer to has to be known and to fit its
place, and a reason for a deprecation has to be a text.

To read a default at an input type takes the fields of that type, so what is wrong with them
shows at the first default that needs them. The input types whose fields were taken are
remembered, and no fields are taken twice.
-/

namespace Subgraph.Build

/-- Types that are to be resolved, as they are defined and as a schema. -/
structure Draft where
  types : List NamedType
  settled : Schema

def Draft.ofTypes (types : List NamedType) : Draft :=
  ⟨types, { Schema.empty with
    types := types.map settle
      ++ (Builtin.scalars ++ Builtin.introspection).filter fun t =>
        !types.any (·.name == t.name) }⟩

/-- A step that may fail, with the input types whose fields were taken. -/
abbrev Resolving := StateT (List String) (Except BuildError)

namespace Resolving

def within (wrap : BuildError → BuildError) {α : Type} (r : Resolving α) : Resolving α :=
  fun taken => (r taken).mapError wrap

end Resolving

/-- Values of the enum that nodes of other kinds do not have. -/
def enumFault (nodes : List (TypeDefinition Unit)) : Except BuildError Unit :=
  nodes.forM fun d => match d.body with
    | .enum vs => vs.forM fun v => sound (deprecation v.directives)
    | b => throw (.noValues b.kind)

/-- Faults that show as soon as a type is defined. Its extensions have to be of its kind. -/
def definitionFault (extensions : List (TypeDefinition Unit)) (d : TypeDefinition Unit) :
    Except BuildError Unit := do
  let own := extensions.filter (·.name == d.name)
  match d.body with
  | .enum _ => enumFault (d :: own)
  | .scalar => sound (specifiedBy d.directives)
  | _ => pure ()
  if own.any (·.body.kind != d.body.kind) then throw (.extensionKind d.name d.body.kind)

/-- Faults of the extensions of a type that is there already. They have to be of its kind. -/
def extensionFault (t : NamedType) (extensions : List (TypeDefinition Unit)) :
    Except BuildError Unit := do
  match t.shape with
  | .enum _ => enumFault extensions
  | .scalar _ => extensions.forM fun d => sound (specifiedBy d.directives)
  | _ => pure ()
  if extensions.any (·.body.kind != t.shape.kind) then throw (.extensionKind t.name t.shape.kind)

namespace Draft
variable (d : Draft)

/-- The shape of a type as it is defined, where a member may stand more than once. -/
def definedShape? (name : String) : Option TypeShape :=
  (d.types.find? (·.name == name)).map (·.shape)

def isKnown (name : String) : Bool := (d.settled.shape? name).isSome

def known (t : TypeRef) : Resolving TypeShape :=
  match d.settled.shape? t.base with
  | some s => return s
  | none => throw (.unknownType t.base)

/-- Goes through the wrappers of a type: `items` reads a list literal at an item type, `atName`
a literal at a named type. -/
def throughType (isNull : Bool) (items : Option (TypeRef → Resolving Bool))
    (atName : String → Resolving Bool) : TypeRef → Resolving Bool
  | .nonNull t => if isNull then return false else throughType isNull items atName t
  | .list t =>
    if isNull then return true
    else match items with
      | some f => f t
      | none => throughType isNull items atName t
  | .named n => if isNull then return true else atName n

/-- Reads items up to the first one without a value. -/
def readItems : List (TypeRef → Resolving Bool) → TypeRef → Resolving Bool
  | [], _ => return true
  | item :: items, t => do
    if ← item t then readItems items t else return false

/-- Reads the given fields of an input object in the order of its type, up to one without a
value. -/
def readFields (given : List (String × (TypeRef → Resolving Bool))) :
    List InputValue → Resolving Bool
  | [] => return true
  | f :: fs => do
    let present ← match given.reverse.lookup f.name with
      | some field => field f.type
      | none => pure (!f.type.isNonNull || (f.default d.settled).isSome)
    if present then readFields given fs else return false

/-- Reads a literal at a named type. `enter` takes the fields of an input type, and `given` are
the fields of the literal if it is an object. -/
def readNamed (enter : String → Resolving Unit) (l : Constant)
    (given : Option (List (String × (TypeRef → Resolving Bool)))) (name : String) :
    Resolving Bool := do
  match d.settled.shape? name with
  | some (.input _ fields) =>
    match given with
    | some given =>
      enter name
      if ← d.readFields given fields then
        return (l.coerce? d.settled [] (.named name)).isSome
      else return false
    | none => return false
  | some shape =>
    if shape.isInput then return (Literal.leafValue? [] name shape l).isSome
    else throw (.defaultNotInput name)
  | none => throw (.unknownType name)

mutual
/-- Reads a literal at a type and says whether it has a value there. -/
def read (enter : String → Resolving Unit) : Constant → TypeRef → Resolving Bool
  | .null _, t => throughType true none (fun _ => return true) t
  | .list m xs, t =>
    let items := itemReadings enter xs
    throughType false (some (readItems items)) (d.readNamed enter (.list m xs) none) t
  | .object m fs, t =>
    let given := fieldReadings enter fs
    throughType false none (d.readNamed enter (.object m fs) (some given)) t
  | l, t => throughType false none (d.readNamed enter l none) t
def itemReadings (enter : String → Resolving Unit) :
    List Constant → List (TypeRef → Resolving Bool)
  | [] => []
  | x :: xs => read enter x :: itemReadings enter xs
def fieldReadings (enter : String → Resolving Unit) :
    List (Unit × String × Constant) → List (String × (TypeRef → Resolving Bool))
  | [] => []
  | (_, n, v) :: r => (n, read enter v) :: fieldReadings enter r
end

/-- Resolves the type, the default and the deprecation of an argument or input field. -/
def resolveInput (enter : String → Resolving Unit) (wrong : BuildError) (v : InputValue) :
    Resolving Unit := do
  let s ← d.known v.type
  match v.default? with
  | some (.written l) => discard (d.read enter l v.type)
  | _ => pure ()
  sound (deprecation v.applied)
  if !s.isInput then throw wrong

/-- Takes the fields of an input type. Each type on the way to its defaults uses up a step. -/
def takeFields : Nat → String → Resolving Unit
  | 0, _ => return ()
  | fuel + 1, name => do
    if (← get).contains name then return ()
    modify (name :: ·)
    match d.definedShape? name with
    | some (.input _ fs) =>
      Resolving.within (.inFields name)
        (fs.forM (d.resolveInput (takeFields fuel) .inputFieldNotInput))
    | _ => return ()

def enter : String → Resolving Unit := d.takeFields (d.types.length + 1)

def resolveArgument : InputValue → Resolving Unit := d.resolveInput d.enter .argumentNotInput

def resolveField (f : Field) : Resolving Unit := do
  let s ← d.known f.type
  f.arguments.forM d.resolveArgument
  sound (deprecation f.applied)
  if !s.isOutput then throw .fieldNotOutput

/-- All names are known and their types satisfy `ok`. -/
def resolveNames (names : List String) (ok : TypeShape → Bool) (wrong : BuildError)
    (wrap : BuildError → BuildError) : Resolving Unit := do
  let shapes ← names.mapM fun n => Resolving.within wrap (d.known (.named n))
  if !shapes.all ok then throw wrong

def resolveMembers (name : String) (interfaces : List String) (fields : List Field) :
    Resolving Unit := do
  d.resolveNames interfaces TypeShape.isInterface (.notInterfaces name) (.inInterfaces name)
  Resolving.within (.inFields name) (fields.forM d.resolveField)

def resolveType (t : NamedType) : Resolving Unit :=
  match t.shape with
  | .object is fs => d.resolveMembers t.name is fs
  | .interface is fs => d.resolveMembers t.name is fs
  | .union ms => d.resolveNames ms TypeShape.isObject (.notObjects t.name) (.inMembers t.name)
  | .input .. => d.enter t.name
  | _ => return ()

/-- Resolves the arguments of directives and then the types. -/
def resolve (arguments : List InputValue) : Except BuildError Unit :=
  ((do
    arguments.forM d.resolveArgument
    d.types.forM d.resolveType : Resolving Unit).run []).map (·.1)

end Draft
end Subgraph.Build
