import Subgraph.Text.Lines

/-!
# Laws of splitting a text into lines

Splitting at line feeds loses nothing, so joining the lines gives the text again, and a text
that is put together around a line feed has the lines of its parts. A line is indented when two
spaces start it.
-/

namespace Subgraph.Text

variable {α : Type}

theorem splitAt_cons_sep {p : α → Bool} {c : α} (hc : p c = true) (r : List α) :
    splitAt p (c :: r) = [] :: splitAt p r := by
  simp only [splitAt, hc, if_true]

theorem splitAt_cons_other {p : α → Bool} {c : α} (hc : p c = false) (r : List α) :
    ∃ l ls, splitAt p r = l :: ls ∧ splitAt p (c :: r) = (c :: l) :: ls := by
  cases h : splitAt p r with
  | nil => exact absurd h (splitAt_ne_nil p r)
  | cons l ls => exact ⟨l, ls, rfl, by simp [splitAt, hc, h]⟩

theorem splitAt_append_sep {p : α → Bool} {c : α} (hc : p c = true) (a b : List α) :
    splitAt p (a ++ c :: b) = splitAt p a ++ splitAt p b := by
  induction a with
  | nil => simpa [splitAt] using splitAt_cons_sep hc b
  | cons x a ih =>
    cases hx : p x with
    | true =>
      rw [List.cons_append, splitAt_cons_sep hx, splitAt_cons_sep hx, ih, List.cons_append]
    | false =>
      obtain ⟨l, ls, h, hcons⟩ := splitAt_cons_other hx a
      obtain ⟨l', ls', h', hcons'⟩ := splitAt_cons_other hx (a ++ c :: b)
      rw [ih, h, List.cons_append] at h'
      obtain ⟨rfl, rfl⟩ := List.cons.inj h'
      rw [List.cons_append, hcons, hcons', List.cons_append]

theorem splitAt_of_all {p : α → Bool} {cs : List α} (h : ∀ c ∈ cs, p c = false) :
    splitAt p cs = [cs] := by
  induction cs with
  | nil => rfl
  | cons c cs ih =>
    obtain ⟨l, ls, hs, hcons⟩ := splitAt_cons_other (h c List.mem_cons_self) cs
    rw [ih fun x hx => h x (List.mem_cons_of_mem c hx)] at hs
    obtain ⟨rfl, rfl⟩ := List.cons.inj hs
    exact hcons

theorem intercalate_splitAt [BEq α] [LawfulBEq α] (c : α) (cs : List α) :
    List.intercalate [c] (splitAt (· == c) cs) = cs := by
  induction cs with
  | nil => rfl
  | cons x cs ih =>
    cases hx : x == c with
    | true =>
      rw [splitAt_cons_sep (p := (· == c)) hx, List.intercalate_cons_of_ne_nil (splitAt_ne_nil _ _),
        ih, eq_of_beq hx]
      rfl
    | false =>
      obtain ⟨l, ls, h, hcons⟩ := splitAt_cons_other (p := (· == c)) hx cs
      rw [hcons]
      rw [h] at ih
      cases ls with
      | nil => simpa using ih
      | cons l' ls => simpa [List.intercalate_cons_cons] using ih

theorem joinLines_splitLines (s : String) : joinLines (splitLines s) = s := by
  have h := intercalate_splitAt '\n' s.toList
  apply String.toList_injective
  simpa [joinLines, splitLines, String.toList_intercalate, Function.comp_def] using h

theorem splitLines_append_break (a b : String) :
    splitLines (a ++ "\n" ++ b) = splitLines a ++ splitLines b := by
  have h := splitAt_append_sep (p := (· == '\n')) (c := '\n') rfl a.toList b.toList
  simpa [splitLines] using congrArg (List.map String.ofList) h

theorem splitLines_of_noBreak {s : String} (h : ∀ c ∈ s.toList, (c == '\n') = false) :
    splitLines s = [s] := by
  simp [splitLines, splitAt_of_all h]

theorem splitLines_intercalate {ls : List String} (hne : ls ≠ [])
    (h : ∀ l ∈ ls, ∀ c ∈ l.toList, (c == '\n') = false) : splitLines ("\n".intercalate ls) = ls := by
  induction ls with
  | nil => exact absurd rfl hne
  | cons l ls ih =>
    have hl := splitLines_of_noBreak (h l List.mem_cons_self)
    cases ls with
    | nil => rw [String.intercalate_singleton, hl]
    | cons l' ls =>
      rw [String.intercalate_cons_cons, splitLines_append_break, hl,
        ih (List.cons_ne_nil _ _) fun x hx => h x (List.mem_cons_of_mem l hx)]
      rfl

theorem not_sep_of_mem_splitAt {p : α → Bool} {cs l : List α} (h : l ∈ splitAt p cs) :
    ∀ c ∈ l, p c = false := by
  induction cs generalizing l with
  | nil =>
    obtain rfl : l = [] := List.mem_singleton.mp h
    exact fun c hc => absurd hc List.not_mem_nil
  | cons c cs ih =>
    cases hc : p c with
    | true =>
      rw [splitAt_cons_sep hc] at h
      rcases List.mem_cons.mp h with rfl | h
      · exact fun d hd => absurd hd List.not_mem_nil
      · exact ih h
    | false =>
      obtain ⟨first, rest, hsplit, hcons⟩ := splitAt_cons_other hc cs
      rw [hcons] at h
      rw [hsplit] at ih
      rcases List.mem_cons.mp h with rfl | h
      · intro d hd
        rcases List.mem_cons.mp hd with rfl | hd
        · exact hc
        · exact ih List.mem_cons_self d hd
      · exact ih (List.mem_cons_of_mem first h)

theorem noBreak_of_mem_splitLines {s l : String} (h : l ∈ splitLines s) :
    ∀ c ∈ l.toList, (c == '\n') = false := by
  obtain ⟨cs, hcs, rfl⟩ := List.mem_map.mp h
  rw [String.toList_ofList]
  exact not_sep_of_mem_splitAt hcs

theorem afterLast?_append [BEq α] {separator a b r : List α} (h : afterLast? separator b = some r) :
    afterLast? separator (a ++ b) = some r := by
  induction a with
  | nil => exact h
  | cons c a ih => rw [List.cons_append, afterLast?, ih, Option.some_or]

theorem afterLast?_eq_none [BEq α] [LawfulBEq α] {c : α} {separator cs : List α} (h : c ∉ cs) :
    afterLast? (c :: separator) cs = none := by
  induction cs with
  | nil => rfl
  | cons d cs ih =>
    rw [List.mem_cons, not_or] at h
    have hd : (c == d) = false := beq_eq_false_iff_ne.mpr h.1
    rw [afterLast?, ih h.2]
    simp [List.isPrefixOf, hd]

/-- A line that two spaces start, as the lines inside braces are. -/
def isIndented (line : String) : Bool := line.startsWith "  "

theorem isIndented_iff {line : String} : isIndented line = true ↔ ∃ rest, line = "  " ++ rest := by
  rw [isIndented, String.startsWith_string_iff, List.prefix_iff_eq_append]
  constructor
  · intro h
    refine ⟨String.ofList (line.toList.drop 2), String.toList_injective ?_⟩
    simpa using h.symm
  · rintro ⟨rest, rfl⟩
    simp

theorem splitLines_indented (s : String) :
    ∃ first rest, splitLines ("  " ++ s) = ("  " ++ first) :: rest := by
  obtain ⟨l, ls, -, h⟩ := splitAt_cons_other (p := (· == '\n')) (c := ' ') rfl s.toList
  obtain ⟨l', ls', h', h''⟩ :=
    splitAt_cons_other (p := (· == '\n')) (c := ' ') rfl (' ' :: s.toList)
  rw [h] at h'
  obtain ⟨rfl, rfl⟩ := List.cons.inj h'
  refine ⟨String.ofList l, ls.map String.ofList, ?_⟩
  have hl : (("  " ++ s).toList) = ' ' :: ' ' :: s.toList := by simp
  have hfirst : String.ofList (' ' :: ' ' :: l) = "  " ++ String.ofList l :=
    String.toList_injective (by simp)
  rw [splitLines, hl, h'', List.map_cons, hfirst]

def hasIndentedLine (s : String) : Bool := (splitLines s).any isIndented

theorem hasIndentedLine_append_break (a b : String) :
    hasIndentedLine (a ++ "\n" ++ b) = (hasIndentedLine a || hasIndentedLine b) := by
  rw [hasIndentedLine, splitLines_append_break, List.any_append]
  rfl

theorem hasIndentedLine_of_indented (s : String) : hasIndentedLine ("  " ++ s) = true := by
  obtain ⟨first, rest, h⟩ := splitLines_indented s
  rw [hasIndentedLine, h, List.any_cons, isIndented_iff.mpr ⟨first, rfl⟩, Bool.true_or]

end Subgraph.Text
