import Subgraph.Value.Template

/-!
What a field finds in a value under its own name.

Records have entries and objects attributes. Plain values have members as well: a number has its
parts, and every kind has operations. A field calls the operation that it finds with a description
of itself, in front of its arguments by their names. Few operations take that: a text can be filled
in as a template, or have its characters replaced.
-/

namespace Subgraph.Value

/-- What a member is: a value, or an operation with what a call of it gives. -/
inductive Member where
  | value (v : Value)
  | operation (call : Described → Entries Value → Except String Value)

namespace Member

/-- How operations of one family take a call without arguments. -/
structure Family where
  names : List String
  /-- What a call says, by the name of the operation. -/
  refusal : String → String

/-- How an operation refuses an argument by its name. -/
def refuseNamed (kind name : String) : String :=
  let isShort := kind == "str"
    && ["count", "find", "index", "rfind", "rindex", "startswith", "endswith"].contains name
  (if isShort then "" else kind ++ ".") ++ name ++ "() takes no keyword arguments"

/-- An operation that takes no arguments by name. -/
def withoutNames (kind name : String) (call : Described → Except String Value) : Member :=
  .operation fun d as => if as.isEmpty then call d else .error (refuseNamed kind name)

/-- An operation that knows no arguments, with what it gives without them. -/
def withoutArguments (kind name : String) (result : Except String Value) : Member :=
  withoutNames kind name fun _ => result

/-- Checks that an operation gets no more arguments than it has parameters. -/
def checkCount (name : String) (parameters : List String) (as : Entries Value) :
    Except String Unit :=
  let n := parameters.length
  if n < as.length + 1 then
    .error (name ++ "() takes at most " ++ toString n ++ " argument" ++ (if n = 1 then "" else "s")
      ++ " (" ++ toString (as.length + 1) ++ " given)")
  else .ok ()

/-- An operation that takes arguments by name. The description is the first of them. -/
def withNames (name : String) (parameters : List String)
    (call : Entries Value → Except String Value) : Member :=
  .operation fun _ as => do
    checkCount name parameters as
    if let p :: _ := parameters then
      if Entries.has as p then
        throw ("argument for " ++ name ++ "() given by name ('" ++ p ++ "') and position (1)")
    if let some (n, _) := as.find? fun a => !parameters.contains a.1 then
      throw ("'" ++ n ++ "' is an invalid keyword argument for " ++ name ++ "()")
    call as

def noArgument (kind : String) (name : String) : String :=
  kind ++ "." ++ name ++ "() takes no arguments (1 given)"

def notInteger (_ : String) : String :=
  "'GraphQLResolveInfo' object cannot be interpreted as an integer"

def notText (_ : String) : String := "must be str, not GraphQLResolveInfo"

/-- The operations of integers, which truth values share. -/
def integerFamilies (kind : String) : List Family :=
  [⟨["as_integer_ratio", "bit_count", "bit_length", "conjugate"], noArgument kind⟩]

def floatFamilies : List Family :=
  [⟨["as_integer_ratio", "conjugate", "hex", "is_integer"], noArgument "float"⟩,
   ⟨["fromhex"], fun _ => "bad argument type for built-in operation"⟩]

def textFamilies : List Family :=
  [⟨["capitalize", "casefold", "isalnum", "isalpha", "isascii", "isdecimal", "isdigit",
     "isidentifier", "islower", "isnumeric", "isprintable", "isspace", "istitle", "isupper",
     "lower", "swapcase", "title", "upper"], noArgument "str"⟩,
   ⟨["center", "ljust", "rjust", "zfill"], notInteger⟩,
   ⟨["count", "find", "index", "partition", "rfind", "rindex", "rpartition"], notText⟩,
   ⟨["lstrip", "rstrip", "strip"], fun n => n ++ " arg must be None or str"⟩,
   ⟨["removeprefix", "removesuffix"],
     fun n => n ++ "() argument must be str, not GraphQLResolveInfo"⟩,
   ⟨["startswith", "endswith"],
     fun n => "tuple for " ++ n ++ " must only contain str, not list"⟩,
   ⟨["join"], fun _ => "sequence item 1: expected str instance, list found"⟩,
   ⟨["maketrans"], fun _ => "if you give only one argument to maketrans it must be a dict"⟩,
   ⟨["replace"], fun _ => "replace expected at least 2 arguments, got 1"⟩]

def listFamilies : List Family :=
  [⟨["clear", "copy", "reverse"], noArgument "list"⟩,
   ⟨["insert"], fun _ => "insert expected 2 arguments, got 1"⟩,
   ⟨["pop"], notInteger⟩,
   ⟨["remove"], fun _ => "list.remove(x): x not in list"⟩,
   ⟨["index"], fun _ => "the item is not in list"⟩]

/-- The operation of a name among families. -/
def ofFamilies? (kind : String) (fs : List Family) (name : String) : Option Member :=
  (fs.find? (·.names.contains name)).map fun f =>
    withoutArguments kind name (.error (f.refusal name))

/-- Refuses what is no integer. -/
def checkInteger (v : Value) : Except String Unit :=
  match v with
  | .int _ => .ok ()
  | .bool _ => .ok ()
  | v => .error ("'" ++ v.kindName ++ "' object cannot be interpreted as an integer")

/-- Checks the order of bytes, before the description shows to have none. -/
def fromBytes (as : Entries Value) : Except String Value := do
  match Entries.get? as "byteorder" with
  | none => pure ()
  | some (.text s) =>
    if s ≠ "little" ∧ s ≠ "big" then throw "byteorder must be either 'little' or 'big'"
  | some v =>
    let kind := if v.isNull then "None" else v.kindName
    throw ("from_bytes() argument 'byteorder' must be str, not " ++ kind)
  throw "'str' object cannot be interpreted as an integer"

/-- Checks how often a text is to be split, before the description shows to be no text. -/
def split (as : Entries Value) : Except String Value := do
  if let some v := Entries.get? as "maxsplit" then checkInteger v
  throw "must be str or None, not GraphQLResolveInfo"

def ofInteger? (kind : String) (n : Int) (name : String) : Option Member :=
  if name == "real" || name == "numerator" then some (.value (.int n))
  else if name == "imag" then some (.value (.int 0))
  else if name == "denominator" then some (.value (.int 1))
  else if name == "to_bytes" then
    some (withNames name ["length", "byteorder", "signed"] fun _ => .error (notInteger name))
  else if name == "from_bytes" then
    some (withNames name ["bytes", "byteorder", "signed"] fromBytes)
  else ofFamilies? kind (integerFamilies kind) name

def ofFloat? (d : Double) (name : String) : Option Member :=
  if name == "real" then some (.value (.float d))
  else if name == "imag" then some (.value (.float (.zero false)))
  else ofFamilies? "float" floatFamilies name

/-- Fills in a template. Fields by place are for the description, and fields by name for the
arguments. -/
def filled (s : String) (d : Described) (as : Entries Value) : Except String Value :=
  let named := as.map fun a => (a.1, Described.value a.2)
  ((Template.fill ⟨some [d], .ok named⟩ s).map .text).mapError TemplateFault.message

/-- Fills in a template from a description alone, which has no parts under the names of fields. -/
def filledWithout (s : String) : Except String Value :=
  ((Template.fill ⟨none, .error (.nameAsIndex "tuple")⟩ s).map .text).mapError TemplateFault.message

/-- What a description puts in the place of a character: its part at the code point, if it has one.
-/
def replacement (d : Described) (c : Char) : Except String (List Char) :=
  match d.itemAt c.toNat with
  | .error _ => .ok [c]
  | .ok (.value .null) => .ok []
  | .ok (.value (.text s)) => .ok s.toList
  | .ok (.value (.int n)) => character n
  | .ok (.value (.bool b)) => character (if b then 1 else 0)
  | .ok _ => .error "character mapping must return integer, None or str"
where
  character (n : Int) : Except String (List Char) :=
    if 0 ≤ n ∧ n ≤ 0x10FFFF then .ok [Char.ofNat n.toNat]
    else .error "character mapping must be in range(0x110000)"

/-- Replaces the characters of a text. -/
def replaced (s : String) (d : Described) : Except String Value := do
  return .text (String.ofList (← s.toList.mapM (replacement d)).flatten)

def ofText? (s : String) (name : String) : Option Member :=
  match name with
  | "format" => some (.operation (filled s))
  | "format_map" => some (withoutNames "str" name fun _ => filledWithout s)
  | "translate" => some (withoutNames "str" name (replaced s))
  | "encode" => some (withNames name ["encoding", "errors"] fun _ =>
      .error "encode() argument 'encoding' must be str, not GraphQLResolveInfo")
  | "split" => some (withNames name ["sep", "maxsplit"] split)
  | "rsplit" => some (withNames name ["sep", "maxsplit"] split)
  | "splitlines" => some (withNames name ["keepends"] fun _ => .error (notInteger name))
  | "expandtabs" => some (withNames name ["tabsize"] fun _ => .error (notInteger name))
  | name =>
    -- The description begins with the field's name, which is that of the operation.
    if (name == "startswith" && s.startsWith name) || (name == "endswith" && s.endsWith name) then
      some (withoutArguments "str" name (.ok (.bool true)))
    else ofFamilies? "str" textFamilies name

def ofList? (name : String) : Option Member :=
  if name == "append" || name == "extend" then some (withoutArguments "list" name (.ok .null))
  else if name == "count" then some (withoutArguments "list" name (.ok (.int 0)))
  else if name == "sort" then
    some (.operation fun _ as => do
      checkCount name ["key", "reverse"] as
      throw "sort() takes no positional arguments")
  else ofFamilies? "list" listFamilies name

end Member

/-- The member of a name. -/
def memberOf? (v : Value) (name : String) : Option Member :=
  match v with
  | .bool b => Member.ofInteger? "bool" (if b then 1 else 0) name
  | .int n => Member.ofInteger? "int" n name
  | .float d => Member.ofFloat? d name
  | .text s => Member.ofText? s name
  | .list _ => Member.ofList? name
  | v => (v.member? name).map .value

/-- What a field without a rule of its own answers: the value that it finds under its name, what
the operation there gives for a description of the field, or nothing. -/
def answer (v : Value) (name : String) (describe : Unit → Described) (arguments : Entries Value) :
    Except String Value :=
  match v.memberOf? name with
  | some (.value w) => .ok w
  | some (.operation call) => call (describe ()) arguments
  | none => .ok .null

/-! Beside its members, every value that is no record has some that stand for signs. -/

/-- The signs that values of all kinds have. -/
def commonSigns : List String :=
  ["class", "delattr", "dir", "doc", "eq", "format", "ge", "getattribute", "getstate", "gt",
   "hash", "init", "init_subclass", "le", "lt", "ne", "new", "reduce", "reduce_ex", "repr",
   "setattr", "sizeof", "str", "subclasshook"]

def numberSigns : List String :=
  ["abs", "add", "bool", "ceil", "divmod", "float", "floor", "floordiv", "getnewargs", "int",
   "mod", "mul", "neg", "pos", "pow", "radd", "rdivmod", "rfloordiv", "rmod", "rmul", "round",
   "rpow", "rsub", "rtruediv", "sub", "truediv", "trunc"]

def integerSigns : List String :=
  ["and", "index", "invert", "lshift", "or", "rand", "rlshift", "ror", "rrshift", "rshift",
   "rxor", "xor"]

def textSigns : List String :=
  ["add", "contains", "getitem", "getnewargs", "iter", "len", "mod", "mul", "rmod", "rmul"]

def listSigns : List String :=
  ["add", "class_getitem", "contains", "delitem", "getitem", "iadd", "imul", "iter", "len", "mul",
   "reversed", "rmul", "setitem"]

/-- The signs that values of a kind have. -/
def signs : Value → List String
  | .record _ => []
  | .null => "bool" :: commonSigns
  | .bool _ => integerSigns ++ numberSigns ++ commonSigns
  | .int _ => integerSigns ++ numberSigns ++ commonSigns
  | .float _ => "getformat" :: numberSigns ++ commonSigns
  | .text _ => textSigns ++ commonSigns
  | .list _ => listSigns ++ commonSigns
  | .object .entity _ => "dict" :: "module" :: "weakref" :: commonSigns
  | .object .slots _ => "module" :: "slots" :: commonSigns
  | _ => commonSigns

/-- Whether a value has something under a name. -/
def offers (v : Value) (name : String) : Bool :=
  (v.memberOf? name).isSome || v.signs.any fun s => "__" ++ s ++ "__" == name

end Subgraph.Value
