/-!
Named entries in the order of their first writing. Writing an existing name changes the
entry where it stands.
-/

namespace Subgraph

abbrev Entries (α : Type) := List (String × α)

namespace Entries

variable {α : Type}

def get? (es : Entries α) (name : String) : Option α := es.lookup name

def has (es : Entries α) (name : String) : Bool := es.any (·.1 == name)

def names (es : Entries α) : List String := es.map (·.1)

def put : Entries α → String → α → Entries α
  | [], n, a => [(n, a)]
  | (m, b) :: r, n, a => if m = n then (m, a) :: r else (m, b) :: put r n a

def ofPairs (ps : List (String × α)) : Entries α := ps.foldl (fun es p => put es p.1 p.2) []

@[simp] theorem get?_nil (n : String) : get? ([] : Entries α) n = none := rfl

theorem get?_cons (m n : String) (b : α) (r : Entries α) :
    get? ((m, b) :: r) n = if n = m then some b else get? r n := by
  by_cases h : n = m
  · simp [get?, h]
  · simp [get?, List.lookup_cons, beq_eq_false_iff_ne.mpr h, h]

theorem get?_put (es : Entries α) (m n : String) (a : α) :
    get? (put es m a) n = if n = m then some a else get? es n := by
  induction es with
  | nil => simp [put, get?_cons]
  | cons e r ih =>
    obtain ⟨k, b⟩ := e
    by_cases hk : k = m
    · subst hk
      by_cases hn : n = k <;> simp [put, get?_cons, hn]
    · by_cases hn : n = m
      · subst hn
        simp [put, hk, get?_cons, ih, Ne.symm hk]
      · simp [put, hk, get?_cons, ih, hn]

theorem names_put (es : Entries α) (m : String) (a : α) :
    names (put es m a) = if m ∈ names es then names es else names es ++ [m] := by
  induction es with
  | nil => simp [put, names]
  | cons e r ih =>
    obtain ⟨k, b⟩ := e
    by_cases hk : k = m
    · simp [put, names, hk]
    · simp only [names] at ih
      simp only [put, hk, if_false, names, List.map_cons, List.mem_cons, ih]
      by_cases hm : m ∈ r.map (·.1)
      · simp [hm]
      · simp [hm, Ne.symm hk]

end Entries
end Subgraph
