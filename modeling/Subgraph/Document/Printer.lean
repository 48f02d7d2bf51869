import Subgraph.Document.Basic
import Subgraph.Text.Quoted
import Subgraph.Text.Block

/-!
Writing the values and directives of a document. Numbers keep their digits, strings their
form, and arguments their order.
-/

namespace Subgraph

variable {μ : Type}

def braced (s : String) : String := "\x7b" ++ s ++ "\x7d"

namespace Literal

mutual
def print : Literal μ → String
  | .variable _ n => "$" ++ n
  | .int _ s => s
  | .float _ s => s
  | .string _ s true => Text.layoutBlock s
  | .string _ s false => Text.quote s
  | .bool _ b => if b then "true" else "false"
  | .null _ => "null"
  | .enum _ n => n
  | .list _ xs => "[" ++ ", ".intercalate (printItems xs) ++ "]"
  | .object _ fs => braced (", ".intercalate (printFields fs))
def printItems : List (Literal μ) → List String
  | [] => []
  | x :: xs => x.print :: printItems xs
def printFields : List (μ × String × Literal μ) → List String
  | [] => []
  | (_, n, v) :: r => (n ++ ": " ++ v.print) :: printFields r
end

end Literal

def Argument.print (a : Argument μ) : String := a.name ++ ": " ++ a.value.print

def Directive.print (d : Directive μ) : String :=
  "@" ++ d.name ++
    if d.arguments.isEmpty then ""
    else "(" ++ ", ".intercalate (d.arguments.map Argument.print) ++ ")"

namespace Literal

mutual
/-- The value with other marks. -/
def remark {ν : Type} (f : μ → ν) : Literal μ → Literal ν
  | .variable m n => .variable (f m) n
  | .int m s => .int (f m) s
  | .float m s => .float (f m) s
  | .string m s b => .string (f m) s b
  | .bool m b => .bool (f m) b
  | .null m => .null (f m)
  | .enum m n => .enum (f m) n
  | .list m xs => .list (f m) (remarkItems f xs)
  | .object m fs => .object (f m) (remarkFields f fs)
def remarkItems {ν : Type} (f : μ → ν) : List (Literal μ) → List (Literal ν)
  | [] => []
  | x :: xs => x.remark f :: remarkItems f xs
def remarkFields {ν : Type} (f : μ → ν) :
    List (μ × String × Literal μ) → List (ν × String × Literal ν)
  | [] => []
  | (m, n, v) :: r => (f m, n, v.remark f) :: remarkFields f r
end

end Literal

end Subgraph
