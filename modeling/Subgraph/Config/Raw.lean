import Subgraph.Decimal.Numeral
import Subgraph.Federation.Settings
import Subgraph.Text.Points
import Subgraph.Yaml.Timestamp

/-!
Settings as they are given, before anything is checked: plain data, reference functions, and
settings that are ready.

A collection may contain itself. It then has a name, which stands for it inside; `unfolded` puts
the collection itself in the place of its name.
-/

namespace Subgraph.Config
open Federation Yaml

inductive Raw where
  | null
  | bool (b : Bool)
  | int (n : Int)
  | float (d : Double)
  | text (s : String)
  /-- A text with surrogates that belong to no character. -/
  | unpaired (ps : Text.Points)
  | moment (t : Timestamp)
  | bytes (values : List Nat)
  | list (items : List Raw)
  | tuple (items : List Raw)
  | set (items : List Raw)
  | record (entries : List (Raw × Raw))
  | recursive (name : String) (body : Raw)
  /-- The collection of a name around this place: a record or a list. -/
  | around (name : String) (isRecord : Bool)
  | function (f : Reference)
  | thing (kind : String)
  | settings (t : TypeSettings)
  deriving Inhabited

namespace Raw

def kindName : Raw → String
  | .null => "NoneType"
  | .bool _ => "bool"
  | .int _ => "int"
  | .float _ => "float"
  | .text _ => "str"
  | .unpaired _ => "str"
  | .moment t => t.kind
  | .bytes _ => "bytes"
  | .list _ => "list"
  | .tuple _ => "tuple"
  | .set _ => "set"
  | .record _ => "dict"
  | .recursive _ b => b.kindName
  | .around _ isRecord => if isRecord then "dict" else "list"
  | .function _ => "function"
  | .thing k => k
  | .settings _ => "TypeFederationConfig"

/-- The name of a kind with that of the family of kinds that it is from. -/
def fullKindName : Raw → String
  | .moment t => "datetime." ++ t.kind
  | v => v.kindName

mutual
/-- Puts a value in the place of a name. -/
def replace (name : String) (value : Raw) : Raw → Raw
  | .around n isRecord => if n = name then value else .around n isRecord
  | .recursive n b => if n = name then .recursive n b else .recursive n (replace name value b)
  | .list xs => .list (replaceIn name value xs)
  | .tuple xs => .tuple (replaceIn name value xs)
  | .record es => .record (replaceAmong name value es)
  | v => v
def replaceIn (name : String) (value : Raw) : List Raw → List Raw
  | [] => []
  | x :: xs => replace name value x :: replaceIn name value xs
def replaceAmong (name : String) (value : Raw) : List (Raw × Raw) → List (Raw × Raw)
  | [] => []
  | (k, v) :: r => (k, replace name value v) :: replaceAmong name value r
end

/-- A value whose outermost part can be looked at. -/
def unfolded : Raw → Raw
  | .recursive n b => replace n (.recursive n b) b
  | v => v

/-- Nothing, zero and emptiness stand for settings without entries. -/
def isEmpty : Raw → Bool
  | .null => true
  | .bool b => !b
  | .int n => n == 0
  | .float d => d.isZero
  | .text s => s == ""
  | .bytes bs => List.isEmpty bs
  | .list xs => List.isEmpty xs
  | .tuple xs => List.isEmpty xs
  | .set xs => List.isEmpty xs
  | .record es => List.isEmpty es
  | _ => false

def isSequence : Raw → Bool
  | .list _ => true
  | .tuple _ => true
  | .recursive _ (.list _) => true
  | _ => false

def isUnpaired : Raw → Bool
  | .unpaired _ => true
  | _ => false

def isBytes : Raw → Bool
  | .bytes _ => true
  | _ => false

/-- The number that a key counts as; truth values count as zero and one. -/
def number? : Raw → Option (Int ⊕ Double)
  | .bool b => some (.inl (if b then 1 else 0))
  | .int n => some (.inl n)
  | .float d =>
    match d.toInt? with
    | some n => some (.inl n)
    | none => some (.inr d)
  | _ => none

mutual
/-- Whether two keys are the same entry of a record. -/
def sameKey : Raw → Raw → Bool
  | .text a, .text b => a == b
  | .unpaired a, .unpaired b => a == b
  | .null, .null => true
  | .moment a, .moment b => a.isSame b
  | .bytes a, .bytes b => a == b
  | .tuple a, .tuple b => sameKeys a b
  | a, b =>
    match a.number?, b.number? with
    | some (.inl m), some (.inl n) => m == n
    | some (.inr d), some (.inr e) => d == e && d != .nan
    | _, _ => false
def sameKeys : List Raw → List Raw → Bool
  | [], [] => true
  | a :: r, b :: t => sameKey a b && sameKeys r t
  | _, _ => false
end

/-- Bytes between quotes; those that are no visible character are written as numbers. -/
def displayBytes (bs : List Nat) : String :=
  let cs := bs.map Char.ofNat
  let quote := Text.displayQuote cs
  String.ofList ('b' :: quote :: cs.flatMap (fun c =>
    if c.toNat < 0x7f then Text.displayChar quote c
    else '\\' :: 'x' :: Text.lowerHex 2 c.toNat) ++ [quote])

/-- Whether an integer has more digits than can be written. -/
def isUnwritable (n : Int) : Bool := Numeral.mostDigits < (toString n.natAbs).length

mutual
/-- The text of a value in a message, if all of it can be written. -/
def display? : Raw → Option String
  | .null => some "None"
  | .bool b => some (if b then "True" else "False")
  | .int n => if isUnwritable n then none else some (toString n)
  | .float d => some d.text
  | .text s => some (Text.display s)
  | .unpaired ps => some (Text.Points.display ps)
  | .moment t => some t.shown
  | .bytes bs => some (displayBytes bs)
  | .recursive _ b => display? b
  | .around _ isRecord => some (if isRecord then "\x7b...\x7d" else "[...]")
  | .set [] => some "set()"
  | .set xs => do return "\x7b" ++ ", ".intercalate (← displayItems xs) ++ "\x7d"
  | .record es => do return "\x7b" ++ ", ".intercalate (← displayEntries es) ++ "\x7d"
  | .tuple xs => do
    return "(" ++ ", ".intercalate (← displayItems xs) ++ (if xs.length == 1 then ",)" else ")")
  | .list xs => do return "[" ++ ", ".intercalate (← displayItems xs) ++ "]"
  | v => some ("<" ++ v.kindName ++ ">")
def displayItems : List Raw → Option (List String)
  | [] => some []
  | x :: xs => do return (← display? x) :: (← displayItems xs)
def displayEntries : List (Raw × Raw) → Option (List String)
  | [] => some []
  | (k, v) :: r => do return ((← display? k) ++ ": " ++ (← display? v)) :: (← displayEntries r)
end

/-- The text of a value in a message. -/
def display (v : Raw) : String :=
  v.display?.getD ("<unprintable " ++ v.kindName ++ " object>")

/-- Writes an entry; one with the same key is changed where it stands. -/
def putEntry {α : Type} : List (Raw × α) → Raw → α → List (Raw × α)
  | [], k, v => [(k, v)]
  | (j, w) :: r, k, v => if sameKey j k then (j, v) :: r else (j, w) :: putEntry r k v

def lookup? (entries : List (Raw × Raw)) (name : String) : Option Raw :=
  (entries.find? fun e => sameKey e.1 (.text name)).map (·.2)

end Raw
end Subgraph.Config
