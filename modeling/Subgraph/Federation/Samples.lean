import Subgraph.Config.Import
import Subgraph.Federation.Names
import Subgraph.Value.Text

/-!
Sample reference functions, to try a configuration with: some answer at once and some later,
some fail, and `mixed` does what the representation asks for.
-/

namespace Subgraph.Federation.Samples
open Config

def identifier (rep : Value) : Value := rep.memberOrNull "id"

/-- The representation with another entry. -/
def withEntry (rep : Value) (name : String) (v : Value) : Value :=
  match rep with
  | .record es => .record (Entries.put es name v)
  | v => v

def named (rep : Value) (name : String) : Value := withEntry rep "name" (.text name)

def runtimeError (message : String) : Failure := ⟨"RuntimeError", message⟩
def lookupError (message : String) : Failure := ⟨"LookupError", message⟩
def keyError (key : Value) : Failure := ⟨"KeyError", key.display⟩
def typeError (message : String) : Failure := ⟨"TypeError", message⟩

def entry (rep : Value) (name : String) : Except Failure Value :=
  match rep.member? name with
  | some v => .ok v
  | none => .error (keyError (.text name))

def byKeys (rep : Value) : Except Failure Value := do
  let id ← entry rep "id"
  let name ← entry rep "absent"
  return .record [("id", id), ("name", name)]

/-- The index that a value stands for, if it is one; truth values count as zero and one. -/
def index? : Value → Option Int
  | .int n => some n
  | .bool b => some (if b then 1 else 0)
  | _ => none

/-- The greatest index that anything can have. -/
def lastIndex : Int := 0x7fffffffffffffff

/-- The item at an index, which counts from the end if it is negative. -/
def itemAt {α : Type} (xs : List α) (kind : String) (n : Int) : Except Failure α :=
  let at' := if n < 0 then n + xs.length else n
  if lastIndex < n ∨ n < -lastIndex - 1 then
    .error ⟨"IndexError", "cannot fit 'int' into an index-sized integer"⟩
  else match (if at' < 0 then none else xs[at'.toNat]?) with
  | some x => .ok x
  | none => .error ⟨"IndexError", kind ++ " index out of range"⟩

/-- The entry of a value that may be no record. -/
def subscript (v key : Value) : Except Failure Value :=
  match v, key with
  | .record es, .text k =>
    match Entries.get? es k with
    | some w => .ok w
    | none => .error (keyError key)
  | .record _, .list _ => .error (typeError "unhashable type: 'list'")
  | .record _, .record _ => .error (typeError "unhashable type: 'dict'")
  | .record _, _ => .error (keyError key)
  | .list xs, key =>
    match index? key with
    | some n => itemAt xs "list" n
    | none => .error (typeError ("list indices must be integers or slices, not " ++ key.kindName))
  | .text s, key =>
    match index? key with
    | some n => (itemAt s.toList "string" n).map fun c => .text c.toString
    | none =>
      .error (typeError ("string indices must be integers, not '" ++ key.kindName ++ "'"))
  | v, _ => .error (typeError ("'" ++ v.kindName ++ "' object is not subscriptable"))

def byContext (rep : Value) (r : Request) : Except Failure Value := do
  let id ← entry rep "id"
  let names ← subscript r.context (.text "names")
  return .record [("id", id), ("name", ← subscript names id)]

def entity (rep : Value) (name : String) : Value :=
  .object .entity [("id", identifier rep), ("name", .text name)]

def fieldName (rep : Value) (r : Request) : Value :=
  .record [("id", identifier rep), ("name", .text (r.field ++ " of " ++ r.parentType))]

/-- How often a delayed answer yields, and how it says so. What counts as false stands for no
delay. -/
def delay (rep : Value) : Except Failure (Nat × String) :=
  let ticks := rep.memberOrNull "ticks"
  if !ticks.isTruthy then .ok (0, "0")
  else match index? ticks with
    | some n => .ok (n.toNat, ticks.plain)
    | none => .error (typeError
        ("'" ++ ticks.kindName ++ "' object cannot be interpreted as an integer"))

def ticking (rep : Value) : Answer :=
  let id := (identifier rep).plain
  let started := ["start " ++ id]
  match delay rep with
  | .error f => .later 0 started [] (.failed f)
  | .ok (yields, shown) =>
    let outcome := match rep.member? "fail" with
      | some v => .failed (lookupError v.plain)
      | none => .value (named rep ("after " ++ shown))
    .later yields started ["end " ++ id] outcome

def answers (name : String) (calls : Nat) (rep : Value) (r : Request) : Answer :=
  let id := (identifier rep).plain
  match name with
  | "none" => .now (.ok .null)
  | "mock_name" => .now (.ok (named rep "mock name"))
  | "retype" => .now (.ok (withEntry rep typenameKey (.text "Other")))
  | "fail" => .now (.error (runtimeError ("cannot resolve " ++ id)))
  | "fail_key" => .now (byKeys rep)
  | "returned_error" => .now (.ok (.failure (lookupError ("no entity " ++ id))))
  | "entity" => .now (.ok (entity rep "desk"))
  | "slots" => .now (.ok (.object .slots [("id", identifier rep), ("name", .text "slot")]))
  | "number" => .now (.ok (.int 42))
  | "text" => .now (.ok (.text "text"))
  | "listed" => .now (.ok (.list [rep]))
  | "counter" => .now (.ok (named rep ("call " ++ toString (calls + 1))))
  | "from_context" => .now (byContext rep r)
  | "field_name" => .now (.ok (fieldName rep r))
  | "async_echo" => .later 0 [] [] (.value rep)
  | "async_none" => .later 0 [] [] (.value .null)
  | "async_entity" => .later 0 [] [] (.value (entity rep "async desk"))
  | "async_fail" => .later 0 [] [] (.failed (runtimeError ("async cannot resolve " ++ id)))
  | "async_ticks" => ticking rep
  | "Entity" => .now (.error (typeError
      "Entity.__init__() takes 1 positional argument but 4 were given"))
  | "Slots" => .now (.error (typeError
      "Slots.__init__() takes 3 positional arguments but 4 were given"))
  | _ => .now (.ok rep)

def mixedNames : List String :=
  ["none", "fail", "fail_key", "returned_error", "entity", "number", "text", "listed", "retype",
   "counter", "async_echo", "async_none", "async_entity", "async_fail", "async_ticks"]

/-- The function that a representation asks for. -/
def asked (rep : Value) : String :=
  match rep.memberOrNull "how" with
  | .text s => if mixedNames.contains s then s else "echo"
  | _ => "echo"

def mixed : Reference :=
  ⟨"mixed", fun rep => asked rep == "counter", fun calls rep r => answers (asked rep) calls rep r⟩

def plainNames : List String :=
  ["echo", "same", "none", "mock_name", "retype", "fail", "fail_key", "returned_error", "entity",
   "slots", "number", "text", "listed", "counter", "from_context", "field_name", "async_echo",
   "async_none", "async_entity", "async_fail", "async_ticks", "Entity", "Slots"]

def reference (name : String) : Reference :=
  ⟨name, fun _ => name == "counter", answers name⟩

def registry : Registry :=
  ⟨"refs", mixed :: plainNames.map reference, ["NOT_CALLABLE", "MIXED", "COUNT"]⟩

end Subgraph.Federation.Samples
