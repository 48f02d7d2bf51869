import Subgraph.Federation.Reference
import Subgraph.Text.Blank
import Subgraph.Text.Lines
import Subgraph.Text.Points

/-!
Import paths: how settings name a reference function by text.

A path is a module and an attribute with a colon between them, or with a dot if no module has
the whole path as its name. There is one module, whose attributes are functions and other
things.
-/

namespace Subgraph.Config
open Federation
open Text (Points)

structure Registry where
  module : String
  functions : List Reference
  others : List String

/-- What a path leads to. -/
inductive Imported where
  | function (f : Reference)
  | other

inductive ImportError where
  | colons (path : Points)
  | noModule (path : Points)
  | unknownModule (name : Points)
  | noPackage (name package : Points)
  | noAttribute (name module : Points)
  | relative (name : Points)
  deriving DecidableEq, Repr

def ImportError.message : ImportError → String
  | .colons p => "Import strings should have at most one ':'; received " ++ Points.display p
  | .noModule p =>
    "Import strings should have a nonempty module name; received " ++ Points.display p
  | .unknownModule n => "No module named " ++ Points.display n
  | .noPackage n p =>
    "No module named " ++ Points.display n ++ "; " ++ Points.display p ++ " is not a package"
  | .noAttribute n m => "cannot import name " ++ Points.display n ++ " from " ++ Points.display m
  | .relative n =>
    "the 'package' argument is required to perform a relative import for " ++ Points.display n

def dot : Nat := '.'.toNat
def colon : Nat := ':'.toNat

namespace Registry
variable (r : Registry)

def isModule (name : Points) : Bool := name == Points.ofString r.module

/-- Why no module has a dotted name: the first part of it that leads nowhere. -/
def missing (name : Points) : ImportError :=
  match Text.splitAt (· == dot) name with
  | first :: second :: _ =>
    if r.isModule first then .noPackage (first ++ dot :: second) first else .unknownModule first
  | _ => .unknownModule name

/-- What every module says about itself; none of it is a function. -/
def aboutModule : List String :=
  ["__name__", "__doc__", "__package__", "__loader__", "__spec__", "__file__", "__cached__",
   "__builtins__", "__dict__", "__annotations__"]

/-- The attribute of the module with a name. -/
def member? (name : String) : Option Imported :=
  match r.functions.find? (·.name == name) with
  | some f => some (.function f)
  | none => if r.others.contains name || aboutModule.contains name then some .other else none

def member (name : Points) : Except ImportError Imported :=
  match (Points.string? name).bind r.member? with
  | some i => .ok i
  | none => .error (.noAttribute name (Points.ofString r.module))

/-- Looks up a module, and an attribute of it if one is asked for. -/
def load (module : Points) (name : Option Points) : Except ImportError Imported :=
  if module.head? = some dot then .error (.relative module)
  else if r.isModule module then
    match name with
    | some n => r.member n
    | none => .ok .other
  else .error (r.missing module)

/-- The parts of a name before and after its last dot. -/
def splitLast (name : Points) : Option (Points × Points) :=
  match (Text.splitAt (· == dot) name).reverse with
  | last :: first :: r => some ([dot].intercalate (first :: r).reverse, last)
  | _ => none

/-- A path without the white space at its ends. -/
def stripped (path : Points) : Points :=
  let isWhite := fun n => Text.isScalar n && Text.isWhite (Char.ofNat n)
  ((path.dropWhile isWhite).reverse.dropWhile isWhite).reverse

/-- Finds what a path names. If no module has the whole name, the last dot may stand for the
colon; the first failure is reported. -/
def find (path : Points) : Except ImportError Imported :=
  match Text.splitAt (· == colon) (stripped path) with
  | [] => .error (.noModule path)
  | [module] =>
    if module.isEmpty then .error (.noModule path)
    else match r.load module none with
      | .ok i => .ok i
      | .error (.relative n) => .error (.relative n)
      | .error e =>
        match splitLast module with
        | some (m, n) => if r.isModule m then (r.member n).mapError fun _ => e else .error e
        | none => .error e
  | [module, name] => if module.isEmpty then .error (.noModule path) else r.load module (some name)
  | _ => .error (.colons path)

end Registry
end Subgraph.Config
