import Subgraph.Decimal.Arithmetic
import Subgraph.Decimal.Numeral
import Subgraph.Schema.Suggestion
import Subgraph.Schema.Coercion

/-!
Values at scalar and enum types: how results are written, and which inputs are taken.
-/

namespace Subgraph.Leaf

def inRange (v : Value) (n : Int) : Except String Value :=
  if fitsInt n then .ok (.int n)
  else .error ("Int cannot represent non 32-bit signed integer value: " ++ v.inspect)

def notInteger (v : Value) : Except String Value :=
  .error ("Int cannot represent non-integer value: " ++ v.inspect)

def serializeInt (v : Value) : Except String Value :=
  match v with
  | .bool b => .ok (.int (if b then 1 else 0))
  | .int n => inRange v n
  | .float d =>
    match d.toInt? with
    | some n => inRange v n
    | none => notInteger v
  | .text s =>
    match Numeral.int 10 s with
    | .ok n => inRange v n
    | .error _ => notInteger v
  | v => notInteger v

def notNumeric (v : Value) : Except String Value :=
  .error ("Float cannot represent non numeric value: " ++ v.inspect)

def doubleOfInt (n : Int) : Except String Value :=
  match Double.ofInt? n with
  | some d => .ok (.float d)
  | none => .error Numeral.tooLargeMessage

def serializeFloat (v : Value) : Except String Value :=
  match v with
  | .bool b => .ok (.int (if b then 1 else 0))
  | .int n => doubleOfInt n
  | .float d => if d.isFinite then .ok v else notNumeric v
  | .text s =>
    match Numeral.double? s with
    | some d => if d.isFinite then .ok (.float d) else notNumeric v
    | none => notNumeric v
  | v => notNumeric v

def serializeString (v : Value) : Except String Value :=
  match v with
  | .text s => .ok (.text s)
  | .bool b => .ok (.text (if b then "true" else "false"))
  | .int n => .ok (.text (toString n))
  | .float d =>
    if d.isFinite then .ok (.text d.text)
    else .error ("String cannot represent value: " ++ v.inspect)
  | .object .. => .ok (.text v.display)
  | v => .error ("String cannot represent value: " ++ v.inspect)

def serializeBoolean (v : Value) : Except String Value :=
  let no := Except.error ("Boolean cannot represent a non boolean value: " ++ v.inspect)
  match v with
  | .bool b => .ok (.bool b)
  | .int n => .ok (.bool (n != 0))
  | .float d => if d.isFinite then .ok (.bool !d.isZero) else no
  | _ => no

def serializeId (v : Value) : Except String Value :=
  let no := Except.error ("ID cannot represent value: " ++ v.inspect)
  match v with
  | .text s => .ok (.text s)
  | .int n => .ok (.text (toString n))
  | .float d =>
    match d.toInt? with
    | some n => .ok (.text (toString n))
    | none => no
  | .object .. => .ok (.text v.display)
  | _ => no

/-- A result as it is written at a scalar type; scalars of the schema take anything. -/
def serializeScalar (name : String) (v : Value) : Except String Value :=
  match name with
  | "Int" => serializeInt v
  | "Float" => serializeFloat v
  | "String" => serializeString v
  | "Boolean" => serializeBoolean v
  | "ID" => serializeId v
  | _ => .ok v

def serializeEnum (name : String) (values : List EnumValue) (v : Value) : Except String Value :=
  let no := Except.error ("Enum '" ++ name ++ "' cannot represent value: " ++ v.inspect)
  match v with
  | .text s => if values.any (·.name == s) then .ok (.text s) else no
  | _ => no

def parseInt (v : Value) : Except String Value :=
  match v.integer? with
  | some n => inRange v n
  | none => notInteger v

def parseFloat (v : Value) : Except String Value :=
  match v with
  | .int n => (doubleOfInt n).mapError fun m => "Expected type 'Float'. " ++ m
  | .float d => if d.isFinite then .ok v else notNumeric v
  | v => notNumeric v

def parseString (v : Value) : Except String Value :=
  match v with
  | .text s => .ok (.text s)
  | v => .error ("String cannot represent a non string value: " ++ v.inspect)

def parseBoolean (v : Value) : Except String Value :=
  match v with
  | .bool b => .ok (.bool b)
  | v => .error ("Boolean cannot represent a non boolean value: " ++ v.inspect)

def parseId (v : Value) : Except String Value :=
  match v, v.integer? with
  | .text s, _ => .ok (.text s)
  | _, some n => .ok (.text (toString n))
  | v, none => .error ("ID cannot represent value: " ++ v.inspect)

/-- An input at a scalar type; scalars of the schema take anything. -/
def parseScalar (name : String) (v : Value) : Except String Value :=
  match name with
  | "Int" => parseInt v
  | "Float" => parseFloat v
  | "String" => parseString v
  | "Boolean" => parseBoolean v
  | "ID" => parseId v
  | _ => .ok v

def parseEnum (name : String) (values : List EnumValue) (v : Value) : Except String Value :=
  let refused := fun text message =>
    match Suggestion.enumHint text (values.map (·.name)) with
    | .ok hint => .error (message ++ hint)
    | .error f => .error ("Expected type '" ++ name ++ "'. " ++ f.message)
  match v with
  | .text s =>
    if values.any (·.name == s) then .ok (.text s)
    else refused s ("Value '" ++ s ++ "' does not exist in '" ++ name ++ "' enum.")
  | v =>
    refused v.inspect ("Enum '" ++ name ++ "' cannot represent non-string value: " ++ v.inspect
      ++ ".")

end Subgraph.Leaf
