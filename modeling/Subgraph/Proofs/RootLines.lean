import Subgraph.Federation.Additions
import Subgraph.Proofs.Indentation
import Subgraph.Proofs.SdlOutline

/-!
# The lines of the schema definition

The schema definition has one line for each root, which ends with the name of the root type. The
line of a query root that was created is left out again, and no other line goes with it as long as
the description has no indented line. Without any other root nothing is left of the definition.
-/

namespace Subgraph

open Text

/-- The schema definition with a description above and lines for the roots. -/
def definitionText (description : Option String) (roots : List String) : String :=
  printDescription description "" true ++ "schema " ++ braced ("\n" ++ "\n".intercalate roots ++ "\n")

def definitionHead (description : Option String) : String :=
  printDescription description "" true ++ "schema \x7b"

namespace Schema
variable (s : Schema)

def rootLines : List String :=
  [OperationKind.query, .mutation, .subscription].filterMap s.printRoot

theorem printDefinition_eq : s.printDefinition =
    if s.description.isNone && s.hasDefaultRoots then none
    else some (definitionText s.description s.rootLines) := rfl

theorem printDefinition_of_roots {s s' : Schema} (hdescribed : s'.description = s.description)
    (hroot : s'.root = s.root) : s'.printDefinition = s.printDefinition := by
  have hprint : s'.printRoot = s.printRoot := by
    funext k
    rw [printRoot, printRoot, hroot]
  have hlines : s'.rootLines = s.rootLines := by rw [rootLines, rootLines, hprint]
  have hdefault : s'.hasDefaultRoots = s.hasDefaultRoots := by
    rw [hasDefaultRoots, hasDefaultRoots, hroot]
  rw [printDefinition_eq, printDefinition_eq, hdescribed, hlines, hdefault]

end Schema

theorem definitionText_eq (description : Option String) (roots : List String) :
    definitionText description roots
      = definitionHead description ++ "\n" ++ ("\n".intercalate roots ++ "\n" ++ "\x7d") := by
  have hopen : ("schema \x7b" : String) = "schema " ++ "\x7b" := rfl
  rw [definitionText, definitionHead, braced, hopen]
  simp only [String.append_assoc]

theorem splitLines_brace : splitLines "\x7d" = ["\x7d"] := by decide

theorem hasIndentedLine_brace : hasIndentedLine "\x7d" = false := by
  rw [hasIndentedLine_eq_scan]
  decide

section Lines
variable {description : Option String} {roots : List String}

theorem splitLines_definitionText (hne : roots ≠ [])
    (h : ∀ l ∈ roots, ∀ c ∈ l.toList, (c == '\n') = false) :
    splitLines (definitionText description roots)
      = splitLines (definitionHead description) ++ roots ++ ["\x7d"] := by
  rw [definitionText_eq, splitLines_append_break, splitLines_append_break,
    splitLines_intercalate hne h, splitLines_brace, List.append_assoc]

theorem hasIndentedLine_head (h : ∀ d, description = some d → hasIndentedLine d = false) :
    hasIndentedLine (definitionHead description) = false := by
  have hdescription := hasIndentedLine_printDescription h
  have hend : ∀ k, scanIndent k "schema \x7b".toList = false := fun k => by cases k <;> decide
  rw [hasIndentedLine_eq_scan] at hdescription ⊢
  rw [definitionHead, String.toList_append]
  exact scanIndent_append hdescription hend

end Lines

theorem lastPart_rootLine (k n : String) (hn : ':' ∉ n.toList) :
    Federation.lastPart ": " ("  " ++ k ++ ": " ++ n) = n := by
  have hlast : afterLast? [':', ' '] (':' :: ' ' :: n.toList) = some n.toList := by
    have hrest : ':' ∉ ' ' :: n.toList := by simpa using hn
    rw [afterLast?, afterLast?_eq_none hrest]
    simp [List.isPrefixOf]
  have hline : ("  " ++ k ++ ": " ++ n).toList
      = ("  " ++ k).toList ++ ':' :: ' ' :: n.toList := by
    simp [String.toList_append]
  have hseparator : (": " : String).toList = [':', ' '] := rfl
  rw [Federation.lastPart, hseparator, hline, afterLast?_append hlast]
  simp

/-- What holds of the roots that a definition is printed with: their names are free of the
characters that lines are told apart by. -/
def Schema.RootsNamed (s : Schema) : Prop :=
  ∀ k n, s.root k = some n → n.toList.all isNameChar = true

section Roots
variable {s : Schema}

theorem Schema.mem_rootLines {l : String} (h : l ∈ s.rootLines) :
    ∃ k n, s.root k = some n ∧ l = "  " ++ k.name ++ ": " ++ n := by
  obtain ⟨k, -, hk⟩ := List.mem_filterMap.mp h
  obtain ⟨n, hn, rfl⟩ := Option.map_eq_some_iff.mp hk
  exact ⟨k, n, hn, rfl⟩

theorem not_mem_of_isNameChar {n : String} {c : Char} (h : n.toList.all isNameChar = true)
    (hc : isNameChar c = false) : c ∉ n.toList := fun hmem => by
  rw [List.all_eq_true.mp h c hmem] at hc
  cases hc

theorem Schema.RootsNamed.noBreak (h : s.RootsNamed) :
    ∀ l ∈ s.rootLines, ∀ c ∈ l.toList, (c == '\n') = false := by
  intro l hl c hc
  obtain ⟨k, n, hn, rfl⟩ := Schema.mem_rootLines hl
  have hname := not_mem_of_isNameChar (h k n hn) (c := '\n') (by decide)
  refine beq_eq_false_iff_ne.mpr fun hbreak => ?_
  rw [hbreak] at hc
  simp only [String.toList_append, List.mem_append] at hc
  rcases hc with ((hc | hc) | hc) | hc
  · revert hc; decide
  · revert hc; cases k <;> decide
  · revert hc; decide
  · exact hname hc

/-- A line stays unless it is indented and ends with the name of a type that is left out. -/
def keepsLine (leftOut : List String) (l : String) : Bool :=
  !(isIndented l && leftOut.contains (Federation.lastPart ": " l))

theorem keepsLine_rootLine (leftOut : List String) (h : s.RootsNamed)
    (hroots : ∀ k n, s.root k = some n → n ∉ leftOut) :
    ∀ l ∈ s.rootLines, keepsLine leftOut l = true := by
  intro l hl
  obtain ⟨k, n, hn, rfl⟩ := Schema.mem_rootLines hl
  have hlast := lastPart_rootLine k.name n (not_mem_of_isNameChar (h k n hn) (by decide))
  have hfree : leftOut.contains n = false := by simpa using hroots k n hn
  rw [keepsLine, hlast, hfree, Bool.and_false, Bool.not_false]

theorem keepsLine_head (hdescription : ∀ d, s.description = some d → hasIndentedLine d = false)
    (leftOut : List String) :
    ∀ l ∈ splitLines (definitionHead s.description), keepsLine leftOut l = true := by
  intro l hl
  have hnone : isIndented l = false :=
    Bool.not_eq_true _ |>.mp (List.any_eq_false.mp (hasIndentedLine_head hdescription) l hl)
  rw [keepsLine, hnone, Bool.false_and, Bool.not_false]

theorem isIndented_brace : isIndented "\x7d" = false := by
  simpa [hasIndentedLine, splitLines_brace] using hasIndentedLine_brace

theorem hasIndentedLine_rootless (hdescription : ∀ d, s.description = some d → hasIndentedLine d = false) :
    hasIndentedLine (definitionText s.description []) = false := by
  have hempty : hasIndentedLine ("\n".intercalate []) = false := by
    rw [hasIndentedLine_eq_scan]
    decide
  rw [definitionText_eq, hasIndentedLine_append_break, hasIndentedLine_append_break,
    hasIndentedLine_head hdescription, hempty, hasIndentedLine_brace]
  rfl

theorem filter_created (hnamed : s.RootsNamed)
    (hother : ∀ k, s.root k ≠ some Federation.defaultQuery)
    (hdescription : ∀ d, s.description = some d → hasIndentedLine d = false) :
    (splitLines (definitionText s.description ("  query: Query" :: s.rootLines))).filter
        (keepsLine [Federation.defaultQuery])
      = splitLines (definitionHead s.description) ++ s.rootLines ++ ["\x7d"] := by
  have hcreated : keepsLine [Federation.defaultQuery] "  query: Query" = false := by
    have hindented : isIndented "  query: Query" = true := isIndented_iff.mpr ⟨"query: Query", rfl⟩
    have hlast : Federation.lastPart ": " "  query: Query" = Federation.defaultQuery :=
      lastPart_rootLine "query" "Query" (by decide)
    rw [keepsLine, hindented, hlast]
    rfl
  have hroots := keepsLine_rootLine [Federation.defaultQuery] hnamed fun k n hn hmem =>
    hother k (List.mem_singleton.mp hmem ▸ hn)
  have hbreak : ∀ l ∈ "  query: Query" :: s.rootLines, ∀ c ∈ l.toList, (c == '\n') = false := by
    have hroot : "  query: Query".toList.all (fun c => !(c == '\n')) = true := by decide
    refine List.forall_mem_cons.mpr ⟨fun c hc => ?_, hnamed.noBreak⟩
    simpa using List.all_eq_true.mp hroot c hc
  rw [splitLines_definitionText (List.cons_ne_nil _ _) hbreak, List.filter_append,
    List.filter_append, List.filter_eq_self.mpr (keepsLine_head hdescription _), List.filter_cons,
    hcreated, if_neg Bool.false_ne_true, List.filter_eq_self.mpr hroots]
  simp [keepsLine, isIndented_brace]

/-- A created root is left out of the schema definition. -/
theorem printDefinition_created {s' : Schema} (hdescribed : s'.description = s.description)
    (hquery : s.query = none) (hquery' : s'.query = some Federation.defaultQuery)
    (hmutation : s'.mutation = s.mutation) (hsubscription : s'.subscription = s.subscription)
    (hnamed : s.RootsNamed) (hother : ∀ k, s.root k ≠ some Federation.defaultQuery)
    (hdescription : ∀ d, s.description = some d → hasIndentedLine d = false) :
    Federation.printDefinition s' [Federation.defaultQuery] = Federation.printDefinition s [] := by
  have hdefault : s'.hasDefaultRoots = s.hasDefaultRoots := by
    simp only [Schema.hasDefaultRoots, List.all_cons, Schema.root, hquery, hquery', hmutation,
      hsubscription]
    rfl
  have hlines : s'.rootLines = "  query: Query" :: s.rootLines := by
    simp only [Schema.rootLines, List.filterMap_cons, Schema.printRoot, Schema.root, hquery,
      hquery', hmutation, hsubscription]
    rfl
  rw [Federation.printDefinition_nil, Schema.printDefinition_shown, Federation.printDefinition,
    Schema.printDefinition_eq, Schema.printDefinition_eq, hdescribed, hdefault, hlines]
  split
  · rfl
  · have hbind : ∀ d : String, ((some d).bind fun d =>
          let keep := (splitLines d).filter (keepsLine [Federation.defaultQuery])
          if keep.any isIndented then some (joinLines keep) else none)
        = if ((splitLines d).filter (keepsLine [Federation.defaultQuery])).any isIndented then
            some (joinLines ((splitLines d).filter (keepsLine [Federation.defaultQuery])))
          else none := fun _ => rfl
    refine (hbind _).trans ?_
    rw [filter_created hnamed hother hdescription, Option.filter_some]
    cases hroot : s.rootLines with
    | nil =>
      -- Without another root nothing indented is left, so no definition is shown.
      have hhead : (splitLines (definitionHead s.description)).any isIndented = false :=
        hasIndentedLine_head hdescription
      rw [hasIndentedLine_rootless hdescription, List.append_nil, List.any_append, hhead,
        List.any_cons, isIndented_brace]
      rfl
    | cons l ls =>
      have hsame : splitLines (definitionText s.description (l :: ls))
          = splitLines (definitionHead s.description) ++ (l :: ls) ++ ["\x7d"] :=
        splitLines_definitionText (List.cons_ne_nil _ _) (hroot ▸ hnamed.noBreak)
      rw [← hsame, joinLines_splitLines]
      rfl

end Roots
end Subgraph
