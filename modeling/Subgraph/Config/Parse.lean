import Subgraph.Config.Import
import Subgraph.Config.Raw
import Subgraph.Log
import Subgraph.Yaml.Fault

/-!
Checking raw settings.

Each type's settings become `TypeSettings`, or the list of all that is wrong with them: faults
of the fields in their order, then the entries that are no settings.
-/

namespace Subgraph.Config
open Federation

inductive Step where
  | key (name : String)
  | index (n : Int)
  deriving DecidableEq, Repr

inductive FaultCause where
  | notRecord
  | notTuple
  | notText
  | notUnicode
  | emptyKeySet
  | unclearBool
  | notBool
  | notImported (e : ImportError)
  | notCallable
  | unknownEntry
  | keyNotText
  deriving DecidableEq, Repr

namespace FaultCause

def kind : FaultCause → String
  | .notRecord => "model_type"
  | .notTuple => "tuple_type"
  | .notText => "string_type"
  | .notUnicode => "string_unicode"
  | .emptyKeySet => "value_error"
  | .unclearBool => "bool_parsing"
  | .notBool => "bool_type"
  | .notImported _ => "import_error"
  | .notCallable => "callable_type"
  | .unknownEntry => "extra_forbidden"
  | .keyNotText => "invalid_key"

def message : FaultCause → String
  | .notRecord => "Input should be a valid dictionary or instance of TypeFederationConfig"
  | .notTuple => "Input should be a valid tuple"
  | .notText => "Input should be a valid string"
  | .notUnicode =>
    "Input should be a valid string, unable to parse raw data as a unicode string"
  | .emptyKeySet => "Value error, Key field sets must not be empty"
  | .unclearBool => "Input should be a valid boolean, unable to interpret input"
  | .notBool => "Input should be a valid boolean"
  | .notImported e => "Invalid python path: " ++ e.message
  | .notCallable => "Input should be callable"
  | .unknownEntry => "Extra inputs are not permitted"
  | .keyNotText => "Keys should be strings"

end FaultCause

/-- What is wrong at a place, with the value that is given there. -/
structure Fault where
  place : List Step
  cause : FaultCause
  given : Raw

namespace Fault

/-- A place as names and numbers with points between them; names with points are marked. -/
def placeText (place : List Step) : String :=
  let mark := (Char.ofNat 0x60).toString
  ".".intercalate (place.map fun
    | .key n => if n.contains '.' then mark ++ n ++ mark else n
    | .index n => toString n)

/-- How many bytes of a value's text are shown in full. -/
def mostBytes : Nat := 50

/-- The first characters of a list that fit into a number of bytes. -/
def fitting (bytes : Nat) : List Char → List Char
  | [] => []
  | c :: r => if c.utf8Size ≤ bytes then c :: fitting (bytes - c.utf8Size) r else []

/-- Both ends of a text that is too long. -/
def shortened (s : String) : String :=
  if s.utf8ByteSize ≤ mostBytes then s
  else
    let front := fitting (mostBytes / 2) s.toList
    let back := fitting (mostBytes / 2 - 1) s.toList.reverse
    String.ofList (front ++ ['.', '.', '.'] ++ back.reverse)

/-- Where the kinds of faults are explained. -/
def guide : String := "https:" ++ "//errors.pydantic.dev/2.14/v/"

/-- A fault as lines: its place, if it has one, what is wrong, and where that is explained. -/
def report (f : Fault) : List String :=
  (if f.place.isEmpty then [] else [placeText f.place]) ++
    ["  " ++ f.cause.message ++ " [type=" ++ f.cause.kind ++ ", input_value="
        ++ shortened f.given.display ++ ", input_type=" ++ f.given.kindName ++ "]",
      "    For further information visit " ++ guide ++ f.cause.kind]

end Fault

inductive ConfigError where
  | notMapping (kind : String)
  | rootNotMapping (kind : String)
  | faults (fs : List Fault)
  | notIterable (kind : String)
  | nameNotText (index : Nat) (kind : String)
  | relativeImport (e : ImportError)
  | badScalar (f : Failure)
  | unreadable (f : Yaml.Fault)

/-- The error for a text that is no YAML. -/
def ConfigError.ofFault (f : Yaml.Fault) : ConfigError :=
  match f.failure? with
  | some g => .badScalar g
  | none => .unreadable f

def ConfigError.message : ConfigError → String
  | .notMapping k => "Federation config must be a mapping, got " ++ k
  | .rootNotMapping k => "Federation config root must be a mapping (YAML object), got " ++ k
  | .faults fs =>
    "\n".intercalate ((toString fs.length ++ " validation error"
      ++ (if fs.length == 1 then "" else "s") ++ " for TypeFederationConfig")
      :: fs.flatMap Fault.report)
  | .notIterable k => "'" ++ k ++ "' object is not iterable"
  | .nameNotText i k =>
    "sequence item " ++ toString i ++ ": expected str instance, " ++ k ++ " found"
  | .relativeImport e => e.message
  | .badScalar f => f.message
  | .unreadable f => f.message

/-- What checking a value gives: a result or faults, or an error that ends everything. -/
abbrev Checked (α : Type) := Except ConfigError (Except (List Fault) α)

def accept {α : Type} (a : α) : Checked α := .ok (.ok a)
def reject {α : Type} (place : List Step) (cause : FaultCause) (given : Raw) : Checked α :=
  .ok (.error [⟨place, cause, given⟩])

/-- The items of what stands for a key set among several, or the kind of what cannot. -/
def setItems (v : Raw) : Except String (List Raw) :=
  match v.unfolded with
  | .text s => .ok [.text s]
  | .unpaired ps => .ok [.unpaired ps]
  | .list xs => .ok xs
  | .tuple xs => .ok xs
  | .set xs => .ok xs
  | .record es => .ok (es.map (·.1))
  | .bytes bs => .ok (bs.map fun (b : Nat) => .int (Int.ofNat b))
  | v => .error v.fullKindName

/-- The key sets of a list in which at least one item is a list. -/
def severalSets (place : List Step) (given : Raw) : List Raw → Checked (List (List Raw))
  | [] => accept []
  | v :: vs =>
    match setItems v with
    | .error k => .error (.notIterable k)
    | .ok [] => reject place .emptyKeySet given
    | .ok items => (severalSets place given vs).map fun r => r.map (items :: ·)

/-- The key sets that a value stands for: nothing, one text, the items of one set, or one set
an item. -/
def keySets (place : List Step) (v : Raw) : Checked (List (List Raw)) :=
  match v.unfolded with
  | .null => accept []
  | .text s => accept [[.text s]]
  | .unpaired ps => accept [[.unpaired ps]]
  | .set xs => if xs.isEmpty then accept [] else
    .ok (.error (xs.zipIdx.map fun (x, i) => ⟨place ++ [.index i], .notTuple, x⟩))
  | .list xs => sequence xs
  | .tuple xs => sequence xs
  | _ => reject place .notTuple v
where
  sequence (xs : List Raw) : Checked (List (List Raw)) :=
    if xs.any Raw.isSequence then severalSets place v xs
    else accept (if xs.isEmpty then [] else [xs])

def asText? : Raw → Option String
  | .text s => some s
  | .unpaired ps => some (Text.Points.joined ps)
  | .bytes bs => String.fromUTF8? ⟨(bs.map UInt8.ofNat).toArray⟩
  | _ => none

/-- The faults of the items that are not texts. -/
def itemFaults (place : List Step) (items : List Raw) : List Fault :=
  items.zipIdx.filterMap fun (v, i) =>
    if (asText? v).isSome then none
    else some ⟨place ++ [.index i], if v.isBytes then .notUnicode else .notText, v⟩

def textSets (place : List Step) (sets : List (List Raw)) : Except (List Fault) (List KeySet) :=
  let faults := sets.zipIdx.flatMap fun (items, i) => itemFaults (place ++ [.index i]) items
  if faults.isEmpty then .ok (sets.map fun items => items.filterMap asText?) else .error faults

def checkKeySets (place : List Step) (v : Raw) : Checked (List KeySet) :=
  (keySets place v).map fun r => r.bind (textSets place)

def falseWords : List String := ["0", "off", "f", "false", "n", "no"]
def trueWords : List String := ["1", "on", "t", "true", "y", "yes"]

def boolOfText? (s : String) : Option Bool :=
  if falseWords.contains s.toLower then some false
  else if trueWords.contains s.toLower then some true
  else none

def boolOfInt? (n : Int) : Option Bool :=
  if n = 0 then some false else if n = 1 then some true else none

/-- Whether an integer fits into a signed word of 64 bits. -/
def isWord (n : Int) : Bool := -0x8000000000000000 ≤ n && n < 0x8000000000000000

/-- What a value means as a truth value, if it can mean one: a text, or a number of the size of a
word. -/
def boolMeaning? : Raw → Option (Option Bool)
  | .bool b => some (some b)
  | .int n => if isWord n then some (boolOfInt? n) else none
  | .float d => (d.toInt?.filter fun n => isWord n && isWord (n - 1)).map boolOfInt?
  | .text s => some (boolOfText? s)
  | .bytes bs => some ((asText? (.bytes bs)).bind boolOfText?)
  | _ => none

def checkBool (place : List Step) (v : Raw) : Checked Bool :=
  match boolMeaning? v with
  | some (some b) => accept b
  | some none => reject place .unclearBool v
  | none => reject place (if v.isUnpaired then .notUnicode else .notBool) v

def checkReference (registry : Registry) (place : List Step) (v : Raw) :
    Checked (Option Reference) :=
  match v with
  | .null => accept none
  | .function f => accept (some f)
  | .text s => named (Text.Points.ofString s)
  | .unpaired ps => named ps
  | _ => reject place .notCallable v
where
  named (path : Text.Points) : Checked (Option Reference) :=
    match registry.find path with
    | .ok (.function f) => accept (some f)
    | .ok .other => reject place .notCallable (.thing "object")
    | .error (.relative n) => .error (.relativeImport (.relative n))
    | .error e => reject place (.notImported e) v

/-- The entry of a field by the first of its names that is there. -/
def namedField? (entries : List (Raw × Raw)) (names : List String) : Option (String × Raw) :=
  names.findSome? fun n => (Raw.lookup? entries n).map (n, ·)

def keySetNames : List String := ["keyFields", "key_fields"]
def extendNames : List String := ["extend"]
def referenceNames : List String := ["resolveReference", "resolve_reference"]

/-- Checks a field, which has a value of its own where it is not given. -/
def checkField {α : Type} (entries : List (Raw × Raw)) (names : List String) (absent : α)
    (check : List Step → Raw → Checked α) : Checked α :=
  match namedField? entries names with
  | none => accept absent
  | some (n, v) => check [.key n] v

/-- The names under which fields were found. -/
def usedNames (entries : List (Raw × Raw)) : List String :=
  [keySetNames, extendNames, referenceNames].filterMap fun ns =>
    (namedField? entries ns).map (·.1)

/-- How a key that is not a text is placed: by its number, if it has one of the size of a word. -/
def keyStep : Raw → Step
  | .bool b => .index (if b then 1 else 0)
  | .int n => if isWord n then .index n else .key (Raw.int n).display
  | k => .key k.display

def unknownFaults (entries : List (Raw × Raw)) : List Fault :=
  let used := usedNames entries
  entries.filterMap fun (k, v) =>
    match k with
    | .text s => if used.contains s then none else some ⟨[.key s], .unknownEntry, v⟩
    | .unpaired ps => some ⟨[.key (Text.Points.joined ps)], .unknownEntry, v⟩
    | k => some ⟨[keyStep k], .keyNotText, k⟩

def faultsOf {α : Type} : Except (List Fault) α → List Fault
  | .ok _ => []
  | .error fs => fs

def checkEntries (registry : Registry) (entries : List (Raw × Raw)) :
    Except ConfigError TypeSettings := do
  let ks ← checkField entries keySetNames [] checkKeySets
  let ex ← checkField entries extendNames false checkBool
  let rf ← checkField entries referenceNames none (checkReference registry)
  let faults := faultsOf ks ++ faultsOf ex ++ faultsOf rf ++ unknownFaults entries
  match ks, ex, rf, faults with
  | .ok ks, .ok ex, .ok rf, [] => return ⟨ks, ex, rf⟩
  | _, _, _, faults => throw (.faults faults)

/-- Settings that are empty or nothing stand for settings without entries. -/
def checkSettings (registry : Registry) (raw : Raw) : Except ConfigError TypeSettings :=
  match raw.unfolded with
  | .settings t => .ok t
  | .record es => checkEntries registry es
  | v => if v.isEmpty then checkEntries registry [] else .error (.faults [⟨[], .notRecord, raw⟩])

def checkAll (registry : Registry) :
    List (Raw × Raw) → Except ConfigError (List (Raw × TypeSettings))
  | [] => .ok []
  | (k, v) :: r => do
    let t ← checkSettings registry v
    return (k, t) :: (← checkAll registry r)

/-- The names of types have to be texts. -/
def nameAll (index : Nat) : List (Raw × TypeSettings) → Except ConfigError Config
  | [] => .ok []
  | (.text s, t) :: r => do return (s, t) :: (← nameAll (index + 1) r)
  | (.unpaired ps, t) :: r => do
    return (Text.Points.joined ps, t) :: (← nameAll (index + 1) r)
  | (k, _) :: _ => .error (.nameNotText index k.fullKindName)

def parse (registry : Registry) (raw : Raw) : Except ConfigError Config :=
  match raw.unfolded with
  | .record es => do nameAll 0 (← checkAll registry es)
  | v => .error (.notMapping v.kindName)

def parseRecord (c : Config) : LogRecord :=
  debug ("Parsed federation config for types: " ++ listed (Entries.names c))

end Subgraph.Config
