import Subgraph.Federation.KeyFields
import Subgraph.Federation.Names
import Subgraph.Schema.Basic
import Subgraph.Document.Printer

/-!
Directives on declarations: those of the source that a printed declaration does not show on its
own, and those of the federation protocol.
-/

namespace Subgraph.Federation

/-- The directives that a printed declaration shows without being told. -/
def printedNames : List String := ["deprecated", "specifiedBy", "oneOf"]

/-- The directives to restore, in the order of their application. -/
def restored (applied : List Applied) : List Applied :=
  applied.filter fun d => !printedNames.contains d.name

def keyApplication (k : KeySet) : Applied :=
  ⟨(), keyDirective, [⟨(), "fields", .string () k.joined false⟩]⟩

def extendsApplication : Applied := ⟨(), extendsDirective, []⟩

/-- The additions whose printed form is not among `seen` nor among the additions before. -/
def fresh (seen : List String) : List Applied → List Applied
  | [] => []
  | d :: ds =>
    if seen.contains d.print then fresh seen ds else d :: fresh (d.print :: seen) ds

/-- Appends the directives that are not there yet with the same arguments. -/
def merge (existing additions : List Applied) : List Applied :=
  existing ++ fresh (existing.map Directive.print) additions

@[simp] theorem merge_nil (existing : List Applied) : merge existing [] = existing := by
  simp [merge, fresh]

end Subgraph.Federation
