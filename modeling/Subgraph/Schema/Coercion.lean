import Subgraph.Decimal.Numeral
import Subgraph.Schema.Basic
import Subgraph.Value.Text

/-!
What a literal means at a type, and how a value of a type is written as a literal.

`Literal.coerce?` gives the value of a literal at a type, if it has one there: a single item
stands for a list of one, and an input object takes the defaults of the fields it leaves out.
`Value.literal?` goes back.
-/

namespace Subgraph

variable {μ : Type}

abbrev Variables := Entries Value

def leastInt : Int := -2147483648
def greatestInt : Int := 2147483647

def fitsInt (n : Int) : Bool := leastInt ≤ n && n ≤ greatestInt

namespace Literal

/-- The integer that digits are; no number if there are too many of them. -/
def plainInt (digits : String) : Value :=
  match Numeral.int 10 digits with
  | .ok n => .int n
  | .error _ => .float .nan

mutual
/-- The value of a literal where no type says what it is. -/
def plainValue (vars : Variables) : Literal μ → Value
  | .variable _ n => (Entries.get? vars n).getD .missing
  | .int _ s => plainInt s
  | .float _ s => .float (doubleOfText s)
  | .string _ s _ => .text s
  | .bool _ b => .bool b
  | .null _ => .null
  | .enum _ n => .text n
  | .list _ xs => .list (plainItems vars xs)
  | .object _ fs => .record (Entries.ofPairs (plainFields vars fs))
def plainItems (vars : Variables) : List (Literal μ) → List Value
  | [] => []
  | x :: xs => x.plainValue vars :: plainItems vars xs
def plainFields (vars : Variables) : List (μ × String × Literal μ) → List (String × Value)
  | [] => []
  | (_, n, v) :: r => (n, v.plainValue vars) :: plainFields vars r
end

/-- The value of a literal at a scalar or enum type. -/
def leafValue? (vars : Variables) (name : String) (shape : TypeShape) (l : Literal μ) :
    Option Value :=
  match shape with
  | .enum values =>
    match l with
    | .enum _ n => if values.any (·.name == n) then some (.text n) else none
    | _ => none
  | .scalar _ =>
    match name, l with
    | "Int", .int _ s => if fitsInt (intOfText s) then some (.int (intOfText s)) else none
    | "Float", .int _ s => some (.float (doubleOfText s))
    | "Float", .float _ s => some (.float (doubleOfText s))
    | "String", .string _ s _ => some (.text s)
    | "Boolean", .bool _ b => some (.bool b)
    | "ID", .string _ s _ => some (.text s)
    | "ID", .int _ s => some (.text s)
    | n, l =>
      if builtinScalarNames.contains n then none
      else match l.plainValue vars with
        | .missing => none
        | v => some v
  | _ => none

/-- Goes through the wrappers of a type: `items` is the value of a list literal at an item
type, `atName` the value at a named type. -/
def throughType (isNull : Bool) (items : Option (TypeRef → Option Value))
    (atName : String → Option Value) : TypeRef → Option Value
  | .nonNull t => if isNull then none else throughType isNull items atName t
  | .list t =>
    if isNull then some .null
    else match items with
      | some f => f t
      | none => (throughType isNull items atName t).map fun v => .list [v]
  | .named n => if isNull then some .null else atName n

/-- A variable that was given no value. -/
def isMissing (vars : Variables) : Literal μ → Bool
  | .variable _ n => !Entries.has vars n
  | _ => false

/-- A field of an input object literal: whether it counts as given, and its value at a type. -/
structure FieldMeaning where
  name : String
  isGiven : Bool
  value? : TypeRef → Option Value

/-- The entries of an input object, in the order of its type. `defaults` gives the default of
a field. -/
def objectEntries (given : List FieldMeaning) (defaults : String → Option Value) :
    List InputValue → Option (Entries Value)
  | [] => some []
  | f :: fs => do
    let entry : Option Value ← match given.reverse.find? (·.name == f.name) with
      | some g => if g.isGiven then some <$> g.value? f.type else absent f
      | none => absent f
    let rest ← objectEntries given defaults fs
    return match entry with
      | some v => (f.name, v) :: rest
      | none => rest
where
  absent (f : InputValue) : Option (Option Value) :=
    match f.default? with
    | some _ => match defaults f.name with
      | some v => some (some v)
      | none => if f.type.isNonNull then none else some none
    | none => if f.type.isNonNull then none else some none

/-- Exactly one entry, which is not null. -/
def hasOneValue : Entries Value → Bool
  | [(_, .null)] => false
  | [_] => true
  | _ => false

/-- The value of an input object literal. -/
def objectValue? (shape : TypeShape) (given : List FieldMeaning)
    (defaults : String → Option Value) : Option Value :=
  match shape with
  | .input oneOf fields => do
    let es ← objectEntries given defaults fields
    if oneOf && !hasOneValue es then none else return .record es
  | _ => none

/-- The value at an item type of each item of a list; a missing variable stands for null. -/
def listValue? (items : List (Bool × (TypeRef → Option Value))) (t : TypeRef) : Option Value := do
  let vs ← items.mapM fun (missing, value?) =>
    if missing then (if t.isNonNull then none else some .null) else value? t
  return .list vs

mutual
/-- The value of a literal at a type, where `defaults` gives the defaults of input fields. -/
def valueWith (s : Schema) (vars : Variables) (defaults : String → String → Option Value) :
    Literal μ → TypeRef → Option Value
  | .variable _ n, t =>
    match Entries.get? vars n with
    | some .null => if t.isNonNull then none else some .null
    | some v => some v
    | none => none
  | .null _, t => throughType true none (fun _ => none) t
  | .list m xs, t =>
    let items := itemMeanings s vars defaults xs
    throughType false (some (listValue? items))
      (fun n => (s.shape? n).bind fun shape => leafValue? vars n shape (.list m xs)) t
  | .object m fs, t =>
    let given := fieldMeanings s vars defaults fs
    throughType false none
      (fun n => (s.shape? n).bind fun shape =>
        match shape with
        | .input .. => objectValue? shape given (defaults n)
        | _ => leafValue? vars n shape (.object m fs)) t
  | l, t =>
    throughType false none (fun n => (s.shape? n).bind fun shape => leafValue? vars n shape l) t
def itemMeanings (s : Schema) (vars : Variables) (defaults : String → String → Option Value) :
    List (Literal μ) → List (Bool × (TypeRef → Option Value))
  | [] => []
  | x :: xs => (isMissing vars x, valueWith s vars defaults x) :: itemMeanings s vars defaults xs
def fieldMeanings (s : Schema) (vars : Variables) (defaults : String → String → Option Value) :
    List (μ × String × Literal μ) → List FieldMeaning
  | [] => []
  | (_, n, v) :: r =>
    ⟨n, !isMissing vars v, valueWith s vars defaults v⟩ :: fieldMeanings s vars defaults r
end

end Literal

/-- The default of an input field. Defaults nest at most as deep as there are types. -/
def Schema.fieldDefault (s : Schema) : Nat → String → String → Option Value
  | 0, _, _ => none
  | depth + 1, typeName, fieldName => do
    match ← s.shape? typeName with
    | .input _ fields =>
      let f ← fields.find? (·.name == fieldName)
      match ← f.default? with
      | .written l => Literal.valueWith s [] (s.fieldDefault depth) l f.type
      | .value v => some v
    | _ => none

/-- The value of a literal at a type. -/
def Literal.coerce? (s : Schema) (vars : Variables) (l : Literal μ) (t : TypeRef) : Option Value :=
  l.valueWith s vars (s.fieldDefault (s.types.length + 1)) t

/-- The default of an argument or input field, if it has one that fits its type. -/
def InputValue.default (s : Schema) (v : InputValue) : Option Value :=
  v.default?.bind fun
    | .written l => l.coerce? s [] v.type
    | .value d => some d

/-- Takes the value of the default in place of how it is written. -/
def InputValue.evaluated (s : Schema) (v : InputValue) : InputValue :=
  { v with default? := (v.default s).map .value }

/-- A value has to be given where neither null nor a default stands in. -/
def InputValue.isRequired (s : Schema) (v : InputValue) : Bool :=
  v.type.isNonNull && (v.default s).isNone

/-- Whether an identifier is written as a number; a line feed may end it. -/
def isWholeNumber (s : String) : Bool :=
  let cs := if s.toList.getLast? = some '\n' then s.toList.dropLast else s.toList
  let ds := match cs with
    | '-' :: r => r
    | cs => cs
  match ds with
  | ['0'] => true
  | c :: r => c != '0' && (c :: r).all fun c => '0' ≤ c && c ≤ '9'
  | [] => false

/-- Whole floats are written without a fraction. -/
def floatDigits (d : Double) : String :=
  let cs := d.text.toList
  if ['.', '0'].isSuffixOf cs then String.ofList (cs.take (cs.length - 2)) else String.ofList cs

namespace Value

/-- A value that no type says more about; lists and records have no such form. -/
def leafLiteral? (isEnum isIdentifier : Bool) : Value → Option Constant
  | .null => some (.null ())
  | .bool b => some (.bool () b)
  | .int n => some (.int () (toString n))
  | .float d => if d.isFinite then some (.float () (floatDigits d)) else none
  | .text t =>
    if isEnum then some (.enum () t)
    else if isIdentifier && isWholeNumber t then some (.int () t)
    else some (.string () t false)
  | _ => none

mutual
/-- How a value of a type is written. -/
def literal? (s : Schema) : Value → TypeRef → Option Constant
  | .null, t => if t.isNonNull then none else some (.null ())
  | .list xs, t =>
    match t.nullable with
    | .list item => some (.list () ((itemLiterals s xs).filterMap (· item)))
    | _ => none
  | .record es, t =>
    let fields := entryLiterals s es
    match s.shape? t.nullable.base with
    | some (.input _ fs) => some (.object () (fs.filterMap fun f =>
        ((fields.lookup f.name).bind (· f.type)).map fun l => ((), f.name, l)))
    | _ => none
  | v, t =>
    match s.shape? t.base with
    | some (.enum _) => leafLiteral? true false v
    | some (.scalar _) => leafLiteral? false (t.base == "ID") v
    | _ => none
def itemLiterals (s : Schema) : List Value → List (TypeRef → Option Constant)
  | [] => []
  | x :: xs => literal? s x :: itemLiterals s xs
def entryLiterals (s : Schema) :
    List (String × Value) → List (String × (TypeRef → Option Constant))
  | [] => []
  | (n, v) :: r => (n, literal? s v) :: entryLiterals s r
end

/-- A part of a default that cannot be written: a list or record where a scalar is wanted, a
number that is not finite, or one that a type for numbers refuses. -/
inductive Unwritable where
  | value (v : Value)
  | number (d : Double)

def Unwritable.message : Unwritable → String
  | .value v => "Cannot convert value to AST: " ++ v.inspect ++ "."
  | .number d => "Float cannot represent non numeric value: " ++ (Value.float d).inspect

mutual
/-- The part of a value that cannot be written at a type. -/
def unwritable? (s : Schema) : Value → TypeRef → Option Unwritable
  | .list xs, t =>
    match t.nullable with
    | .list item => (unwritableItems s xs).findSome? (· item)
    | _ => some (.value (.list xs))
  | .record es, t =>
    match s.shape? t.nullable.base with
    | some (.input _ fs) =>
      let parts := unwritableEntries s es
      fs.findSome? fun f => (parts.lookup f.name).bind (· f.type)
    | _ => some (.value (.record es))
  | .float d, t =>
    if d.isFinite then none
    else some (if t.base = "Float" then .number d else .value (.float d))
  | _, _ => none
def unwritableItems (s : Schema) : List Value → List (TypeRef → Option Unwritable)
  | [] => []
  | x :: xs => unwritable? s x :: unwritableItems s xs
def unwritableEntries (s : Schema) :
    List (String × Value) → List (String × (TypeRef → Option Unwritable))
  | [] => []
  | (n, v) :: r => (n, unwritable? s v) :: unwritableEntries s r
end

end Value
end Subgraph
