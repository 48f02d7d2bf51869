import Mathlib.Data.List.Basic

/-!
# Lists by their members

Two functions that agree on the members of a list go through it alike. Association lists are
looked up by their first entry. Steps that may fail give a result only if each of them does.
-/

namespace Subgraph

variable {α β : Type}

theorem filterMap_eq_of_mem {f g : α → Option β} {xs : List α} (h : ∀ x ∈ xs, f x = g x) :
    xs.filterMap f = xs.filterMap g := by
  induction xs with
  | nil => rfl
  | cons x xs ih =>
    have hx := h x List.mem_cons_self
    have hxs := ih fun y hy => h y (List.mem_cons_of_mem x hy)
    rw [List.filterMap_cons, List.filterMap_cons, hx, hxs]

theorem findSome?_eq_of_mem {f g : α → Option β} {xs : List α} (h : ∀ x ∈ xs, f x = g x) :
    xs.findSome? f = xs.findSome? g := by
  induction xs with
  | nil => rfl
  | cons x xs ih =>
    have hx := h x List.mem_cons_self
    have hxs := ih fun y hy => h y (List.mem_cons_of_mem x hy)
    rw [List.findSome?_cons, List.findSome?_cons, hx, hxs]

theorem find?_eq_of_mem {f g : α → Bool} {xs : List α} (h : ∀ x ∈ xs, f x = g x) :
    xs.find? f = xs.find? g := by
  induction xs with
  | nil => rfl
  | cons x xs ih =>
    rw [List.find?_cons, List.find?_cons, h x List.mem_cons_self,
      ih fun y hy => h y (List.mem_cons_of_mem x hy)]

theorem flatMap_eq_of_mem {f g : α → List β} {xs : List α} (h : ∀ x ∈ xs, f x = g x) :
    xs.flatMap f = xs.flatMap g := by
  induction xs with
  | nil => rfl
  | cons x xs ih =>
    have hx := h x List.mem_cons_self
    have hxs := ih fun y hy => h y (List.mem_cons_of_mem x hy)
    rw [List.flatMap_cons, List.flatMap_cons, hx, hxs]

theorem mapM_eq_of_mem {f g : α → Option β} {xs : List α} (h : ∀ x ∈ xs, f x = g x) :
    xs.mapM f = xs.mapM g := by
  induction xs with
  | nil => rfl
  | cons x xs ih =>
    have hx := h x List.mem_cons_self
    have hxs := ih fun y hy => h y (List.mem_cons_of_mem x hy)
    rw [List.mapM_cons, List.mapM_cons, hx, hxs]

theorem mapM_map_option {γ : Type} (f : β → Option γ) (g : α → β) (xs : List α) :
    (xs.map g).mapM f = xs.mapM fun x => f (g x) := by
  induction xs with
  | nil => rfl
  | cons x xs ih => rw [List.map_cons, List.mapM_cons, List.mapM_cons, ih]

theorem lookup_map_values (f : α → β) (es : List (String × α)) (n : String) :
    (es.map fun e => (e.1, f e.2)).lookup n = (es.lookup n).map f := by
  induction es with
  | nil => rfl
  | cons e r ih =>
    obtain ⟨m, a⟩ := e
    simp only [List.map_cons, List.lookup_cons]
    cases n == m with
    | true => rfl
    | false => exact ih

theorem mem_of_lookup {κ : Type} [BEq κ] [LawfulBEq κ] {es : List (κ × α)} {n : κ} {a : α}
    (h : es.lookup n = some a) : (n, a) ∈ es := by
  induction es with
  | nil => cases h
  | cons e r ih =>
    obtain ⟨m, b⟩ := e
    rw [List.lookup_cons] at h
    cases hm : n == m with
    | true =>
      rw [hm] at h
      cases h
      rw [eq_of_beq hm]
      exact List.mem_cons_self
    | false =>
      rw [hm] at h
      exact List.mem_cons_of_mem _ (ih h)

theorem lookup_filter {κ : Type} [BEq κ] [LawfulBEq κ] {p : κ → Bool} {k : κ} (hk : p k = true)
    (es : List (κ × α)) : (es.filter fun e => p e.1).lookup k = es.lookup k := by
  induction es with
  | nil => rfl
  | cons e es ih =>
    obtain ⟨n, a⟩ := e
    by_cases hn : k = n
    · subst hn
      simp [hk]
    · have hne : (k == n) = false := beq_eq_false_iff_ne.mpr hn
      rw [List.filter_cons, List.lookup_cons, hne]
      split
      · rw [List.lookup_cons, hne]
        exact ih
      · exact ih

theorem nodup_eraseDups [DecidableEq α] (xs : List α) : xs.eraseDups.Nodup := by
  cases xs with
  | nil => exact List.nodup_nil
  | cons x xs =>
    rw [List.eraseDups_cons, List.nodup_cons]
    refine ⟨fun hx => ?_, nodup_eraseDups _⟩
    have hrest := List.mem_filter.mp (List.mem_eraseDups.mp hx)
    simp at hrest
termination_by xs.length
decreasing_by exact Nat.lt_succ_of_le (List.length_filter_le _ _)

theorem Except.of_bind_ok {ε : Type} {x : Except ε α} {f : α → Except ε β} {b : β}
    (h : (x >>= f) = .ok b) : ∃ a, x = .ok a ∧ f a = .ok b := by
  cases x with
  | error e => cases h
  | ok a => exact ⟨a, rfl, h⟩

theorem Except.of_map_ok {ε : Type} {x : Except ε α} {f : α → β} {b : β} (h : x.map f = .ok b) :
    ∃ a, x = .ok a ∧ f a = b := by
  cases x with
  | error e => cases h
  | ok a => exact ⟨a, rfl, Except.ok.inj h⟩

theorem Except.of_mapError_ok {ε ε' : Type} {x : Except ε α} {f : ε → ε'} {a : α}
    (h : x.mapError f = .ok a) : x = .ok a := by
  cases x with
  | error e => cases h
  | ok b =>
    cases h
    rfl

theorem Except.of_toOption {ε : Type} {x : Except ε α} {a : α} (h : x.toOption = some a) : x = .ok a := by
  cases x with
  | error e => cases h
  | ok b => exact congrArg _ (Option.some.inj h)

theorem Except.of_forM_ok {ε : Type} {f : α → Except ε Unit} {xs : List α}
    (h : xs.forM f = .ok ()) {x : α} (hx : x ∈ xs) : f x = .ok () := by
  induction xs with
  | nil => cases hx
  | cons y ys ih =>
    obtain ⟨_, hy, hys⟩ := Except.of_bind_ok h
    rcases List.mem_cons.mp hx with rfl | hx
    · exact hy
    · exact ih hys hx

theorem foldlM_eq_of_mem {ε : Type} {f g : β → α → Except ε β} {xs : List α}
    (h : ∀ x ∈ xs, ∀ b, f b x = g b x) (b : β) : xs.foldlM f b = xs.foldlM g b := by
  induction xs generalizing b with
  | nil => rfl
  | cons x xs ih =>
    have hx := h x List.mem_cons_self
    have hxs := ih fun y hy => h y (List.mem_cons_of_mem x hy)
    rw [List.foldlM_cons, List.foldlM_cons, hx]
    simp only [hxs]

theorem foldl_eq_of_keeps {f g : β → α → β} {xs : List α} {I : β → Prop}
    (hstep : ∀ b, I b → ∀ x ∈ xs, f b x = g b x) (hkeeps : ∀ b, I b → ∀ x ∈ xs, I (g b x)) {b : β}
    (hb : I b) : xs.foldl f b = xs.foldl g b := by
  induction xs generalizing b with
  | nil => rfl
  | cons x xs ih =>
    rw [List.foldl_cons, List.foldl_cons, hstep b hb x List.mem_cons_self]
    exact ih (fun b hb y hy => hstep b hb y (List.mem_cons_of_mem x hy))
      (fun b hb y hy => hkeeps b hb y (List.mem_cons_of_mem x hy)) (hkeeps b hb x List.mem_cons_self)

theorem foldlM_keeps {ε : Type} {f : β → α → Except ε β} {xs : List α} {I : β → Prop}
    (h : ∀ x ∈ xs, ∀ b b', I b → f b x = .ok b' → I b') {b b' : β} (hb : I b)
    (hrun : xs.foldlM f b = .ok b') : I b' := by
  induction xs generalizing b with
  | nil =>
    cases hrun
    exact hb
  | cons x xs ih =>
    rw [List.foldlM_cons] at hrun
    cases hx : f b x with
    | error e => rw [hx] at hrun; cases hrun
    | ok c =>
      rw [hx] at hrun
      exact ih (fun y hy => h y (List.mem_cons_of_mem x hy)) (h x List.mem_cons_self b c hb hx) hrun

end Subgraph
