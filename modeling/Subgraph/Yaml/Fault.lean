import Subgraph.Decimal.Numeral
import Subgraph.Text.Display
import Subgraph.Value.Basic
import Subgraph.Yaml.Base64

/-!
What can be wrong with a YAML text. A message says what was being read or built, or what stands
where it may not. An escape that asks for a code point that does not exist, and a number that is
too long, are failures of their own.
-/

namespace Subgraph.Yaml

inductive Fault where
  | character (code : Nat)
  | scanning (what : String)
  | parsing (what : String)
  | building (what : String)
  | notAllowed (what : String)
  | secondVersion
  | foreignVersion
  | secondHandle (handle : String)
  | noStart (found : String)
  | undefinedAlias (name : String)
  | secondAnchor (name : String)
  | secondDocument
  | codePoint (code : Nat)
  | longNumber (digits : Nat)
  | unknownTag (name : String)
  | wrongKind (wanted found : String)
  | base64 (f : Base64.Fault)
  deriving DecidableEq, Repr

namespace Fault
open Text

def message : Fault → String
  | .character n =>
    "unacceptable character #x" ++ String.ofList (lowerHex 4 n)
      ++ ": special characters are not allowed"
  | .scanning s => "while scanning " ++ s
  | .parsing s => "while parsing " ++ s
  | .building s => "while constructing " ++ s
  | .notAllowed s => s ++ " are not allowed here"
  | .secondVersion => "found duplicate YAML directive"
  | .foreignVersion => "found incompatible YAML document (version 1.* is required)"
  | .secondHandle h => "duplicate tag handle " ++ display h
  | .noStart f => "expected '<document start>', but found " ++ display f
  | .undefinedAlias n => "found undefined alias " ++ display n
  | .secondAnchor n => "found duplicate anchor " ++ display n ++ "; first occurrence"
  | .secondDocument => "expected a single document in the stream"
  | .codePoint n =>
    if n < 0x80000000 then "chr() arg not in range(0x110000)"
    else "Python int too large to convert to C int"
  | .longNumber n => Numeral.tooLongMessage n
  | .unknownTag n => "could not determine a constructor for the tag " ++ display n
  | .wrongKind w f => "expected a " ++ w ++ " node, but found " ++ f
  | .base64 f => f.message

/-- The failure that a fault is, if it is not one of the text's form. -/
def failure? (f : Fault) : Option Failure :=
  match f with
  | .codePoint n => some ⟨if n < 0x80000000 then "ValueError" else "OverflowError", f.message⟩
  | .longNumber _ => some ⟨"ValueError", f.message⟩
  | _ => none

end Fault

end Subgraph.Yaml
