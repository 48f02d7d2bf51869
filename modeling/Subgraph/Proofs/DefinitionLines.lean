import Subgraph.Proofs.Declarations

/-!
# The lines that a schema definition loses

A schema definition is shown without the lines of the roots whose types are left out. These lines are
told from the lines of the description by two spaces at their start and by what follows the last colon.
So they are found wherever the roots have names; a description keeps its lines as long as none of them
looks like the line of a root.
-/

namespace Subgraph.Federation
open Text

section Definition
variable (s : Schema) (left : List String)

/-- The roots whose types are not left out. -/
def rootsWithout : List (OperationKind × String) := (rootsOf s).filter fun o => !left.contains o.2

/-- The schema definition with its description and the roots that stay; none if the schema is printed
without a definition, or no root stays. -/
def definitionWithout : Option String :=
  if s.printDefinition.isNone || (rootsWithout s left).isEmpty then none
  else some (Subgraph.definitionText s.description ((rootsWithout s left).map rootText))

/-- The lines above the roots that start as the lines of roots do. -/
def indentedHead : List String := (splitLines (definitionHead s.description)).filter isIndented

/-- No line above the roots is taken for that of a root: none ends as the line of a root that goes, and
where no root stays there is none that would stay for a root. -/
def Undisturbed : Prop :=
  if (rootsWithout s left).isEmpty then ∀ l ∈ indentedHead s, lastPart ": " l ∈ left
  else ∀ l ∈ indentedHead s, lastPart ": " l ∉ left

/-- The lines that stay: of the description and the opening line, of the roots, and the closing one. -/
def linesWithout : List String :=
  (splitLines (definitionHead s.description)).filter (keepsLine left)
    ++ (if (rootsOf s).isEmpty then [""] else (rootsWithout s left).map rootText) ++ ["\x7d"]

variable {s left}

theorem keepsLine_iff {l : String} :
    keepsLine left l = true ↔ (isIndented l = true → lastPart ": " l ∉ left) := by
  rw [keepsLine]
  cases isIndented l <;> simp

theorem noBreak_rootText (hs : s.RootsNamed) {o : OperationKind × String} (ho : o ∈ rootsOf s) :
    ∀ c ∈ (rootText o).toList, (c == '\n') = false := by
  apply hs.noBreak
  rw [rootLines_eq]
  exact List.mem_map_of_mem ho

theorem splitLines_linesWithout (hs : s.RootsNamed) (left : List String) :
    splitLines (joinLines (linesWithout s left)) = linesWithout s left := by
  apply splitLines_intercalate
  · simp [linesWithout]
  intro l hl
  rw [linesWithout, List.mem_append, List.mem_append] at hl
  rcases hl with (hl | hl) | hl
  · exact noBreak_of_mem_splitLines (List.mem_of_mem_filter hl)
  · split at hl
    · rw [List.mem_singleton.mp hl]
      simp
    · obtain ⟨o, ho, rfl⟩ := List.mem_map.mp hl
      exact noBreak_rootText hs (List.mem_of_mem_filter ho)
  · rw [List.mem_singleton.mp hl]
    simp

/-- With a root that stays, the definition has the lines that stay exactly if the description keeps all of
its lines. -/
theorem joinLines_eq_definitionText_iff (hs : s.RootsNamed)
    (hkept : (rootsWithout s left).isEmpty = false) :
    joinLines (linesWithout s left)
        = Subgraph.definitionText s.description ((rootsWithout s left).map rootText)
      ↔ ∀ l ∈ indentedHead s, lastPart ": " l ∉ left := by
  have hne : (rootsWithout s left).map rootText ≠ [] := by simpa using hkept
  have hroots : (rootsOf s).isEmpty = false := by
    cases hnone : (rootsOf s).isEmpty with
    | false => rfl
    | true => rw [rootsWithout, List.isEmpty_iff.mp hnone] at hkept; cases hkept
  have htext : splitLines (Subgraph.definitionText s.description ((rootsWithout s left).map rootText))
      = splitLines (definitionHead s.description) ++ (rootsWithout s left).map rootText ++ ["\x7d"] := by
    apply splitLines_definitionText hne
    intro l hl
    obtain ⟨o, ho, rfl⟩ := List.mem_map.mp hl
    exact noBreak_rootText hs (List.mem_of_mem_filter ho)
  have hlines : joinLines (linesWithout s left)
        = Subgraph.definitionText s.description ((rootsWithout s left).map rootText)
      ↔ (splitLines (definitionHead s.description)).filter (keepsLine left)
        = splitLines (definitionHead s.description) := by
    constructor
    · intro h
      have hsplit := congrArg splitLines h
      rw [splitLines_linesWithout hs, htext, linesWithout, hroots, if_neg Bool.false_ne_true] at hsplit
      simpa only [List.append_cancel_right_eq] using hsplit
    · intro h
      rw [linesWithout, hroots, if_neg Bool.false_ne_true, h, ← htext, joinLines_splitLines]
  rw [hlines, List.filter_eq_self]
  simp only [indentedHead, List.mem_filter, keepsLine_iff, and_imp]

/-- Without a root that stays, nothing of the definition stays exactly if no line above is taken for
that of a root that stays. -/
theorem any_isIndented_iff : ((splitLines (definitionHead s.description)).filter (keepsLine left)).any
      isIndented = false
    ↔ ∀ l ∈ indentedHead s, lastPart ": " l ∈ left := by
  rw [List.any_eq_false]
  constructor
  · intro h l hl
    obtain ⟨hl, hindented⟩ := List.mem_filter.mp hl
    by_contra hleft
    exact h l (List.mem_filter.mpr ⟨hl, keepsLine_iff.mpr fun _ => hleft⟩) hindented
  · intro h l hl hindented
    obtain ⟨hl, hkeeps⟩ := List.mem_filter.mp hl
    exact keepsLine_iff.mp hkeeps hindented (h l (List.mem_filter.mpr ⟨hl, hindented⟩))

end Definition

/-- The definition that is printed has the lines that stay. It is the definition with its description and
the roots whose types are not left out exactly if no line of the description is taken for that of a
root. -/
theorem printDefinition_drops_roots {s : Schema} (hs : s.RootsNamed) (left : List String) :
    (printDefinition s left = definitionWithout s left
        ↔ s.printDefinition = none ∨ Undisturbed s left)
      ∧ ∀ text, printDefinition s left = some text → splitLines text = linesWithout s left := by
  have hprint := printDefinition_lines s left hs
  have hdefined := Schema.printDefinition_eq s
  split at hprint
  · next hnone =>
    rw [if_pos hnone] at hdefined
    refine ⟨iff_of_true ?_ (.inl hdefined), fun text h => ?_⟩
    · rw [hprint, definitionWithout, hdefined]
      rfl
    · rw [hprint] at h
      cases h
  · next hsome =>
    rw [if_neg hsome] at hdefined
    have hwithout : definitionWithout s left = if (rootsWithout s left).isEmpty then none
        else some (Subgraph.definitionText s.description ((rootsWithout s left).map rootText)) := by
      rw [definitionWithout, hdefined]
      rfl
    rw [hwithout, hdefined, Undisturbed]
    change printDefinition s left = if (rootsWithout s left).isEmpty
        && !((splitLines (definitionHead s.description)).filter (keepsLine left)).any isIndented
      then none else some (joinLines (linesWithout s left)) at hprint
    constructor
    · rw [hprint]
      simp only [reduceCtorEq, false_or]
      cases hkept : (rootsWithout s left).isEmpty with
      | true =>
        rw [Bool.true_and, if_pos rfl, if_pos rfl, ← any_isIndented_iff]
        simp
      | false =>
        rw [Bool.false_and, if_neg Bool.false_ne_true, if_neg Bool.false_ne_true,
          if_neg Bool.false_ne_true, Option.some.injEq]
        exact joinLines_eq_definitionText_iff hs hkept
    · intro text h
      rw [hprint] at h
      split at h
      · cases h
      · cases h
        exact splitLines_linesWithout hs left

section Described

/-- A schema with two roots. -/
def described (description : String) : Schema :=
  { Schema.empty with description := some description, query := some "Root", mutation := some "Orders" }

theorem rootsNamed_described (description : String) : (described description).RootsNamed := by
  intro k n h
  cases k with
  | query => cases h; decide
  | mutation => cases h; decide
  | subscription => cases h

/-- A line that speaks of a root in the way of the definition is lost with that root, but not with
another; and an indented line keeps a definition that has no roots. -/
theorem printDefinition_drops_roots_described :
    (described "Roots:\n  query: Root").RootsNamed
      ∧ printDefinition (described "Roots:\n  query: Root") ["Orders"]
        = definitionWithout (described "Roots:\n  query: Root") ["Orders"]
      ∧ printDefinition (described "Roots:\n  query: Root") ["Root"]
        ≠ definitionWithout (described "Roots:\n  query: Root") ["Root"]
      ∧ printDefinition (described "See\n  below") ["Root", "Orders"]
        ≠ definitionWithout (described "See\n  below") ["Root", "Orders"] := by
  have hroots := rootsNamed_described "Roots:\n  query: Root"
  refine ⟨hroots, ?_, ?_, ?_⟩
  · rw [(printDefinition_drops_roots hroots ["Orders"]).1, Undisturbed]
    exact .inr (by decide +kernel)
  · rw [ne_eq, (printDefinition_drops_roots hroots ["Root"]).1, Undisturbed]
    exact not_or_intro (by decide +kernel) (by decide +kernel)
  · rw [ne_eq, (printDefinition_drops_roots (rootsNamed_described _) ["Root", "Orders"]).1, Undisturbed]
    exact not_or_intro (by decide +kernel) (by decide +kernel)

end Described

end Subgraph.Federation
