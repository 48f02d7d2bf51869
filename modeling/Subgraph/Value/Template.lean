import Subgraph.Value.Format

/-!
Templates: texts with fields in braces, which are filled in with values.

A field names something by its place or its name, and then attributes and items of it. It may have a
conversion and a format, and the format may have fields of its own. Braces that are written twice
are text.
-/

namespace Subgraph

/-- What fields of a template can name: values, rows of named parts, and things that have some text,
a longer description, and attributes. -/
inductive Described where
  | value (v : Value)
  | row (kind : String) (parts : List (String × Described))
  | thing (kind text description : String) (attributes : List (String × Described))
  | list (items : List Described)

namespace Described

def kindName : Described → String
  | .value v => v.kindName
  | .row kind _ => kind
  | .thing kind .. => kind
  | .list _ => "list"

mutual
/-- The text as a part of a larger one. -/
def display : Described → String
  | .value v => v.display
  | .row kind parts => kind ++ "(" ++ ", ".intercalate (displayParts parts) ++ ")"
  | .thing _ _ description _ => description
  | .list items => "[" ++ ", ".intercalate (displayItems items) ++ "]"
def displayParts : List (String × Described) → List String
  | [] => []
  | (n, d) :: r => (n ++ "=" ++ d.display) :: displayParts r
def displayItems : List Described → List String
  | [] => []
  | d :: r => d.display :: displayItems r
end

def plain : Described → String
  | .value v => v.plain
  | .thing _ text _ _ => text
  | d => d.display

def formatted (d : Described) (format : String) : Except FormatFault String :=
  match d with
  | .value v => v.formatted format
  | d => if format = "" then .ok d.plain else .error (.unsupported d.kindName)

end Described

inductive TemplateFault where
  | single (brace : Char)
  | unclosed
  | braceInName
  | unclosedFormat
  | noConversion
  | behindConversion
  | unknownConversion (c : Char)
  | emptyAttribute
  | behindItem
  | unclosedItem
  | longNumber
  | tooDeep
  | numberedAfterCounted
  | countedAfterNumbered
  | noPlace (n : Nat)
  | placeWithoutPlaces
  | noName (name : String)
  | noKey (text : String)
  | noIndex (kind : String)
  | nameAsIndex (kind : String)
  | noItems (kind : String)
  | noAttribute (kind name : String)
  | format (f : FormatFault)
  deriving DecidableEq, Repr

namespace TemplateFault

def message : TemplateFault → String
  | .single c => "Single '" ++ c.toString ++ "' encountered in format string"
  | .unclosed => "expected '\x7d' before end of string"
  | .braceInName => "unexpected '\x7b' in field name"
  | .unclosedFormat => "unmatched '\x7b' in format spec"
  | .noConversion => "end of string while looking for conversion specifier"
  | .behindConversion => "expected ':' after conversion specifier"
  | .unknownConversion c =>
    "Unknown conversion specifier "
      ++ (if 32 < c.toNat && c.toNat < 127 then c.toString
        else "\\x" ++ String.ofList (Nat.toDigits 16 c.toNat))
  | .emptyAttribute => "Empty attribute in format string"
  | .behindItem => "Only '.' or '[' may follow ']' in format field specifier"
  | .unclosedItem => "Missing ']' in format string"
  | .longNumber => FormatFault.longNumber.message
  | .tooDeep => "Max string recursion exceeded"
  | .numberedAfterCounted =>
    "cannot switch from automatic field numbering to manual field specification"
  | .countedAfterNumbered =>
    "cannot switch from manual field specification to automatic field numbering"
  | .noPlace n =>
    "Replacement index " ++ toString n ++ " out of range for positional args tuple"
  | .placeWithoutPlaces => "Format string contains positional fields"
  | .noName n => Text.display n
  | .noKey t => t
  | .noIndex k => k ++ " index out of range"
  | .nameAsIndex k =>
    if k = "str" then "string indices must be integers, not 'str'"
    else k ++ " indices must be integers or slices, not str"
  | .noItems k => "'" ++ k ++ "' object is not subscriptable"
  | .noAttribute k n => "'" ++ k ++ "' object has no attribute '" ++ n ++ "'"
  | .format f => f.message

end TemplateFault

namespace Described

/-- The attributes of a value that are values themselves. -/
def valueAttribute? (v : Value) (name : String) : Option Value :=
  match v, name with
  | .bool b, "real" => some (.int (if b then 1 else 0))
  | .bool b, "numerator" => some (.int (if b then 1 else 0))
  | .bool _, "imag" => some (.int 0)
  | .bool _, "denominator" => some (.int 1)
  | .int n, "real" => some (.int n)
  | .int n, "numerator" => some (.int n)
  | .int _, "imag" => some (.int 0)
  | .int _, "denominator" => some (.int 1)
  | .float d, "real" => some (.float d)
  | .float _, "imag" => some (.float (.zero false))
  | .object _ as, n => Entries.get? as n
  | _, _ => none

/-- What every value has: its kind, which has a name. -/
def kindOf (d : Described) : Described :=
  let text := "<class '" ++ d.kindName ++ "'>"
  .thing "type" text text [("__name__", .value (.text d.kindName))]

/-- The attribute of a name. -/
def member (d : Described) (name : String) : Except TemplateFault Described :=
  let found :=
    if name = "__class__" then some d.kindOf
    else match d with
      | .value v => (valueAttribute? v name).map .value
      | .row _ parts => Entries.get? parts name
      | .thing _ _ _ as => Entries.get? as name
      | .list _ => none
  match found with
  | some e => .ok e
  | none => .error (.noAttribute d.kindName name)

/-- The item at a place. -/
def itemAt (d : Described) (n : Nat) : Except TemplateFault Described :=
  let among := fun (kind : String) (ds : List Described) =>
    match ds[n]? with
    | some e => .ok e
    | none => .error (.noIndex kind)
  match d with
  | .value (.list xs) => among "list" (xs.map .value)
  | .value (.text s) => among "string" (s.toList.map fun c => .value (.text c.toString))
  | .value (.record _) => .error (.noKey (toString n))
  | .row _ parts => among "tuple" (parts.map (·.2))
  | .list ds => among "list" ds
  | d => .error (.noItems d.kindName)

/-- The item of a name. -/
def itemOf (d : Described) (name : String) : Except TemplateFault Described :=
  match d with
  | .value (.record es) =>
    match Entries.get? es name with
    | some v => .ok (.value v)
    | none => .error (.noKey (Text.display name))
  | .value (.list _) => .error (.nameAsIndex "list")
  | .value (.text _) => .error (.nameAsIndex "str")
  | .row .. => .error (.nameAsIndex "tuple")
  | .list _ => .error (.nameAsIndex "list")
  | d => .error (.noItems d.kindName)

end Described

/-- Where a value is found in another one. -/
inductive Access where
  | member (name : String)
  | index (n : Nat)
  | item (name : String)
  deriving DecidableEq, Repr

/-- A field in braces as it is written. -/
structure TemplateField where
  name : List Char
  conversion : Option Char
  format : List Char
  /-- Whether the format has fields of its own. -/
  isNested : Bool
  deriving DecidableEq, Repr

/-- How the fields without a place are counted: not yet, with the next place, or not at all since
places are given. -/
inductive Counting where
  | uncounted
  | counted (next : Nat)
  | numbered
  deriving DecidableEq, Repr

/-- What fields can name: things by place, if places are allowed, and things by name. -/
structure TemplateScope where
  places : Option (List Described)
  named : Except TemplateFault (List (String × Described))

namespace Template

/-- A number that a whole text stands for, if it does. -/
def wholeNumber? (cs : List Char) : Except TemplateFault (Option Nat) :=
  if cs.isEmpty || cs.any fun c => (Text.decimalValue? c).isNone then .ok none
  else
    let n := cs.foldl (fun n c => 10 * n + (Text.decimalValue? c).getD 0) 0
    if Format.greatestNumber < n then .error .longNumber else .ok (some n)

/-- The way to a value behind the name that a field begins with, step by step. -/
def accesses : Nat → List Char → List (Except TemplateFault Access)
  | 0, _ => []
  | _, [] => []
  | fuel + 1, c :: r =>
    if c == '.' then
      let name := r.takeWhile fun c => c != '.' && c != '['
      if name.isEmpty then [.error .emptyAttribute]
      else .ok (.member (String.ofList name)) :: accesses fuel (r.drop name.length)
    else if c == '[' then
      let name := r.takeWhile (· != ']')
      if name.length = r.length then [.error .unclosedItem]
      else match wholeNumber? name with
        | .error f => [.error f]
        | .ok n =>
          if name.isEmpty then [.error .emptyAttribute]
          else
            let step := match n with
              | some n => Access.index n
              | none => .item (String.ofList name)
            .ok step :: accesses fuel (r.drop (name.length + 1))
    else [.error .behindItem]

/-- What follows a step from something. -/
def follow (d : Described) (a : Except TemplateFault Access) : Except TemplateFault Described := do
  match ← a with
  | .member n => d.member n
  | .index n => d.itemAt n
  | .item n => d.itemOf n

/-- The place that a field has, if it has no name, and how fields are counted from then on. -/
def place (counting : Counting) (isEmpty : Bool) (given : Option Nat) :
    Except TemplateFault (Option Nat × Counting) :=
  if isEmpty then
    match counting with
    | .uncounted => .ok (some 0, .counted 1)
    | .counted n => .ok (some n, .counted (n + 1))
    | .numbered => .error .countedAfterNumbered
  else match given with
    | none => .ok (none, counting)
    | some n =>
      match counting with
      | .counted _ => .error .numberedAfterCounted
      | _ => .ok (some n, .numbered)

/-- What a field names. -/
def named (scope : TemplateScope) (counting : Counting) (cs : List Char) :
    Except TemplateFault (Described × Counting) := do
  let first := cs.takeWhile fun c => c != '.' && c != '['
  let (n, counting) ← place counting first.isEmpty (← wholeNumber? first)
  let start ← match n, scope.places with
    | some _, none => throw .placeWithoutPlaces
    | some n, some ds =>
      match ds[n]? with
      | some d => pure d
      | none => throw (.noPlace n)
    | none, _ =>
      match Entries.get? (← scope.named) (String.ofList first) with
      | some d => pure d
      | none => throw (.noName (String.ofList first))
  return (← (accesses (cs.length + 1) (cs.drop first.length)).foldlM follow start, counting)

/-- The name of a field behind its opening brace, and the sign that ends it with what follows. Signs
in brackets do not. -/
def fieldName (isItem : Bool) (done : List Char) :
    List Char → Except TemplateFault (List Char × Char × List Char)
  | [] => .error .unclosed
  | c :: r =>
    if isItem then fieldName (c != ']') (c :: done) r
    else if c == '\x7b' then .error .braceInName
    else if c == '\x7d' || c == ':' || c == '!' then .ok (done.reverse, c, r)
    else fieldName (c == '[') (c :: done) r

/-- A format up to the brace that closes its field, and what follows. -/
def fieldFormat (depth : Nat) (done : List Char) :
    List Char → Except TemplateFault (List Char × List Char)
  | [] => .error .unclosedFormat
  | c :: r =>
    if c == '\x7b' then fieldFormat (depth + 1) (c :: done) r
    else if c == '\x7d' then
      match depth with
      | 0 => .ok (done.reverse, r)
      | depth + 1 => fieldFormat depth (c :: done) r
    else fieldFormat depth (c :: done) r

/-- The field behind an opening brace, and what follows it. -/
def field (cs : List Char) : Except TemplateFault (TemplateField × List Char) := do
  let withFormat := fun (name : List Char) (conversion : Option Char) (r : List Char) => do
    let (format, r) ← fieldFormat 0 [] r
    return (⟨name, conversion, format, format.contains '\x7b'⟩, r)
  match ← fieldName false [] cs with
  | (name, ':', r) => withFormat name none r
  | (name, '!', r) =>
    match r with
    | [] => throw .noConversion
    | [_] => throw .unclosedFormat
    | c :: '\x7d' :: r => return (⟨name, some c, [], false⟩, r)
    | c :: ':' :: r => withFormat name (some c) r
    | _ => throw .behindConversion
  | (name, _, r) => return (⟨name, none, [], false⟩, r)

/-- The text in front of a template, and the field behind it if there is one, with what follows. -/
def next (cs : List Char) :
    Except TemplateFault (List Char × Option TemplateField × List Char) := do
  let isBrace := fun c => c == '\x7b' || c == '\x7d'
  let text := cs.takeWhile (!isBrace ·)
  match cs.drop text.length with
  | [] => return (text, none, [])
  | c :: r =>
    if r.head? == some c then return (text ++ [c], none, r.drop 1)
    else if c == '\x7d' || r.isEmpty then throw (.single c)
    else
      let (f, r) ← field r
      return (text, some f, r)

/-- A text with escapes for all characters beyond ASCII. -/
def ascii (s : String) : String :=
  String.ofList (s.toList.flatMap fun c =>
    if c.toNat < 0x80 then [c]
    else if c.toNat < 0x100 then '\\' :: 'x' :: Text.lowerHex 2 c.toNat
    else if c.toNat < 0x10000 then '\\' :: 'u' :: Text.lowerHex 4 c.toNat
    else '\\' :: 'U' :: Text.lowerHex 8 c.toNat)

/-- Something as its conversion gives it. -/
def converted (d : Described) : Option Char → Except TemplateFault Described
  | none => .ok d
  | some 'r' => .ok (.value (.text d.display))
  | some 's' => .ok (.value (.text d.plain))
  | some 'a' => .ok (.value (.text (ascii d.display)))
  | some c => .error (.unknownConversion c)

mutual
/-- Fills in a template, whose formats can have fields down to some depth. -/
def filled (scope : TemplateScope) (depth : Nat) :
    Nat → Counting → List Char → Except TemplateFault (List Char × Counting)
  | 0, counting, _ => .ok ([], counting)
  | _, counting, [] => .ok ([], counting)
  | fuel + 1, counting, cs => do
    let (text, f?, r) ← next cs
    let (shown, counting) ← match f? with
      | some f => filledField scope depth fuel counting f
      | none => pure ([], counting)
    let (rest, counting) ← filled scope depth fuel counting r
    return (text ++ shown ++ rest, counting)
/-- Fills in a field. -/
def filledField (scope : TemplateScope) (depth : Nat) :
    Nat → Counting → TemplateField → Except TemplateFault (List Char × Counting)
  | 0, counting, _ => .ok ([], counting)
  | fuel + 1, counting, f => do
    let (d, counting) ← named scope counting f.name
    let d ← converted d f.conversion
    let (format, counting) ←
      if f.isNested then
        match depth with
        | 0 => throw .tooDeep
        | depth + 1 => filled scope depth fuel counting f.format
      else pure (f.format, counting)
    let text ← (d.formatted (String.ofList format)).mapError .format
    return (text.toList, counting)
end

/-- Fills in a template. -/
def fill (scope : TemplateScope) (template : String) : Except TemplateFault String := do
  let cs := template.toList
  let (text, _) ← filled scope 1 (2 * cs.length + 2) .uncounted cs
  return String.ofList text

end Template
end Subgraph
