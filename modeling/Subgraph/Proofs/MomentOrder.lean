import Subgraph.Federation.Gather

/-!
# The order of moments

Moments are ordered by their lengths, and those of one length as in a dictionary. Events that are put in
order keep their order within a moment, so an ordered list of events is known by what it has at each
moment.
-/

namespace Subgraph.Federation

namespace Moment

theorem dictionaryLe_refl (a : Moment) : dictionaryLe a a = true := by
  induction a with
  | nil => rfl
  | cons i a ih => simp [dictionaryLe, ih]

theorem dictionaryLe_total (a b : Moment) : (dictionaryLe a b || dictionaryLe b a) = true := by
  induction a generalizing b with
  | nil => rfl
  | cons i a ih =>
    cases b with
    | nil => rfl
    | cons j b =>
      have hrest := ih b
      simp only [dictionaryLe, Bool.or_eq_true, Bool.and_eq_true, decide_eq_true_eq, beq_iff_eq] at hrest ⊢
      rcases Nat.lt_trichotomy i j with h | rfl | h
      · exact .inl (.inl h)
      · exact hrest.imp (fun h => .inr ⟨rfl, h⟩) fun h => .inr ⟨rfl, h⟩
      · exact .inr (.inl h)

theorem dictionaryLe_antisymm {a b : Moment} (h : dictionaryLe a b = true) (h' : dictionaryLe b a = true) :
    a = b := by
  induction a generalizing b with
  | nil =>
    cases b with
    | nil => rfl
    | cons j b => cases h'
  | cons i a ih =>
    cases b with
    | nil => cases h
    | cons j b =>
      simp only [dictionaryLe, Bool.or_eq_true, Bool.and_eq_true, decide_eq_true_eq, beq_iff_eq] at h h'
      rcases h with h | ⟨rfl, h⟩
      · omega
      · rcases h' with h' | ⟨-, h'⟩
        · omega
        · rw [ih h h']

theorem dictionaryLe_trans {a b c : Moment} (h : dictionaryLe a b = true) (h' : dictionaryLe b c = true) :
    dictionaryLe a c = true := by
  induction a generalizing b c with
  | nil => rfl
  | cons i a ih =>
    cases b with
    | nil => cases h
    | cons j b =>
      cases c with
      | nil => cases h'
      | cons k c =>
        simp only [dictionaryLe, Bool.or_eq_true, Bool.and_eq_true, decide_eq_true_eq, beq_iff_eq] at h h' ⊢
        rcases h with h | ⟨rfl, h⟩
        · exact .inl (by omega)
        · rcases h' with h' | ⟨rfl, h'⟩
          · exact .inl h'
          · exact .inr ⟨rfl, ih h h'⟩

theorem le_iff {a b : Moment} :
    le a b = true ↔ a.length < b.length ∨ a.length = b.length ∧ dictionaryLe a b = true := by
  simp [le]

theorem le_refl (a : Moment) : le a a = true := le_iff.mpr (.inr ⟨rfl, dictionaryLe_refl a⟩)

theorem le_total (a b : Moment) : (le a b || le b a) = true := by
  have hdictionary := dictionaryLe_total a b
  rw [Bool.or_eq_true] at hdictionary ⊢
  rw [le_iff, le_iff]
  rcases Nat.lt_trichotomy a.length b.length with h | h | h
  · exact .inl (.inl h)
  · exact hdictionary.imp (fun h' => .inr ⟨h, h'⟩) fun h' => .inr ⟨h.symm, h'⟩
  · exact .inr (.inl h)

theorem le_trans {a b c : Moment} (h : le a b = true) (h' : le b c = true) : le a c = true := by
  rw [le_iff] at h h' ⊢
  rcases h with h | ⟨hlength, h⟩
  · exact .inl (by omega)
  · rcases h' with h' | ⟨hlength', h'⟩
    · exact .inl (by omega)
    · exact .inr ⟨by omega, dictionaryLe_trans h h'⟩

theorem le_antisymm {a b : Moment} (h : le a b = true) (h' : le b a = true) : a = b := by
  rw [le_iff] at h h'
  rcases h with h | ⟨hlength, h⟩
  · omega
  · rcases h' with h' | ⟨-, h'⟩
    · omega
    · exact dictionaryLe_antisymm h h'

/-- Of two moments that go on alike from one moment, that of the thing set going first comes first. -/
theorem le_of_index {m : Moment} {i j : Nat} (h : i < j) (k : Nat) :
    le ((m.next i).later k) ((m.next j).later k) = true := by
  have hdictionary : ∀ a b : Moment, dictionaryLe (m ++ i :: a) (m ++ j :: b) = true := by
    intro a b
    induction m with
    | nil => simp [dictionaryLe, h]
    | cons n m ih => simp [dictionaryLe, ih]
  apply le_iff.mpr
  right
  constructor
  · simp
  · simpa [next, later] using hdictionary (List.replicate k 0) (List.replicate k 0)

end Moment

section Events

/-- Events that come in the order of their moments. -/
def Ordered (es : List Event) : Prop := es.Pairwise fun a b => a.moment.le b.moment = true

def atMoment (m : Moment) (es : List Event) : List Event := es.filter (·.moment == m)

variable {es es' : List Event}

theorem event_le_trans (a b c : Event) (h : a.moment.le b.moment = true)
    (h' : b.moment.le c.moment = true) : a.moment.le c.moment = true :=
  Moment.le_trans h h'

theorem event_le_total (a b : Event) : (a.moment.le b.moment || b.moment.le a.moment) = true :=
  Moment.le_total a.moment b.moment

theorem ordered_inOrder (es : List Event) : Ordered (inOrder es) :=
  List.pairwise_mergeSort event_le_trans event_le_total es

theorem atMoment_inOrder (m : Moment) (es : List Event) : atMoment m (inOrder es) = atMoment m es := by
  have hordered : (atMoment m es).Pairwise fun a b => a.moment.le b.moment = true := by
    refine List.Pairwise.imp_of_mem ?_ (List.pairwise_of_forall (R := fun _ _ => True) fun _ _ => trivial)
    intro a b ha hb _
    rw [eq_of_beq (List.mem_filter.mp ha).2, eq_of_beq (List.mem_filter.mp hb).2]
    exact Moment.le_refl m
  have hsublist : (atMoment m es).Sublist (inOrder es) :=
    List.sublist_mergeSort event_le_trans event_le_total hordered List.filter_sublist
  have hfiltered : (atMoment m es).Sublist (atMoment m (inOrder es)) := by
    have h := hsublist.filter (·.moment == m)
    simpa only [atMoment, List.filter_filter, Bool.and_self] using h
  refine (hfiltered.eq_of_length ?_).symm
  exact (((List.mergeSort_perm es _).filter _).length_eq).symm

theorem Ordered.eq (h : Ordered es) (h' : Ordered es')
    (hmoments : ∀ m, atMoment m es = atMoment m es') : es = es' := by
  -- By induction on the first list: at the least moment both have the same first event.
  induction es generalizing es' with
  | nil =>
    cases es' with
    | nil => rfl
    | cons e' es' =>
      have hfirst := hmoments e'.moment
      simp [atMoment] at hfirst
  | cons e es ih =>
    cases es' with
    | nil =>
      have hfirst := hmoments e.moment
      simp [atMoment] at hfirst
    | cons e' es' =>
      have hle : ∀ {a : Event} {as : List Event} {b : Event}, Ordered (a :: as) → b ∈ a :: as →
          a.moment.le b.moment = true := by
        intro a as b hordered hb
        rcases List.mem_cons.mp hb with rfl | hb
        · exact Moment.le_refl _
        · exact List.rel_of_pairwise_cons hordered hb
      have hmem : ∀ {a : Event} {as bs : List Event}, atMoment a.moment (a :: as) = atMoment a.moment bs →
          a ∈ bs := by
        intro a as bs heq
        have ha : a ∈ atMoment a.moment (a :: as) := by simp [atMoment]
        rw [heq] at ha
        exact (List.mem_filter.mp ha).1
      have hsame : e.moment = e'.moment :=
        Moment.le_antisymm (hle h (hmem (hmoments e'.moment).symm)) (hle h' (hmem (hmoments e.moment)))
      have hfirst := hmoments e.moment
      simp only [atMoment, List.filter_cons, hsame, beq_self_eq_true, if_true, List.cons.injEq] at hfirst
      obtain ⟨rfl, -⟩ := hfirst
      rw [ih (List.Pairwise.of_cons h) (List.Pairwise.of_cons h')]
      intro m
      have hm := hmoments m
      simp only [atMoment, List.filter_cons] at hm ⊢
      split at hm
      · exact (List.cons.inj hm).2
      · exact hm

end Events
end Subgraph.Federation
