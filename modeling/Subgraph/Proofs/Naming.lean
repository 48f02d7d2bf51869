import Subgraph.Entries
import Subgraph.Proofs.Lists
import Subgraph.Schema.Define

/-!
# Lists in which every name stands once

Writing entries one after another keeps the first place and the last item of each name. On lists
without a repeated name this is a substitution followed by what is new, and a list without
repetitions stays as it is.
-/

namespace Subgraph

variable {α : Type}

namespace Entries

theorem names_put_of_mem {es : Entries α} {n : String} {a : α} (hes : es.names.Nodup)
    (hn : n ∈ es.names) :
    es.put n a = es.map fun e => if e.1 = n then (e.1, a) else e := by
  induction es with
  | nil => cases hn
  | cons e r ih =>
    obtain ⟨m, b⟩ := e
    simp only [names, List.map_cons, List.nodup_cons] at hes
    by_cases hm : m = n
    · subst hm
      have hrest : r.map (fun e => if e.1 = m then (e.1, a) else e) = r := by
        refine (List.map_congr_left fun e he => ?_).trans (List.map_id r)
        have hne : e.1 ≠ m := fun h => hes.1 (h ▸ List.mem_map_of_mem he)
        rw [if_neg hne, id]
      rw [put, if_pos rfl, List.map_cons, if_pos rfl, hrest]
    · have hr : n ∈ names r := by
        rcases List.mem_cons.mp hn with h | h
        · exact absurd h.symm hm
        · exact h
      rw [put, if_neg hm, List.map_cons, if_neg hm, ih hes.2 hr]

theorem put_of_not_mem {es : Entries α} {n : String} {a : α} (hn : n ∉ es.names) :
    es.put n a = es ++ [(n, a)] := by
  induction es with
  | nil => rfl
  | cons e r ih =>
    obtain ⟨m, b⟩ := e
    simp only [names, List.map_cons, List.mem_cons, not_or] at hn
    rw [put, if_neg (Ne.symm hn.1), ih hn.2, List.cons_append]

theorem lookup_eq_none_of_not_mem {es : Entries α} {n : String} (hn : n ∉ es.names) :
    es.lookup n = none := by
  cases h : es.lookup n with
  | none => rfl
  | some a => exact absurd (List.mem_map_of_mem (mem_of_lookup h)) hn

theorem foldl_put {es ps : Entries α} (hes : es.names.Nodup) (hps : ps.names.Nodup) :
    ps.foldl (fun es p => put es p.1 p.2) es
      = es.map (fun e => (e.1, (ps.lookup e.1).getD e.2))
        ++ ps.filter fun p => !(es.names.contains p.1) := by
  induction ps generalizing es with
  | nil => simp
  | cons p r ih =>
    obtain ⟨n, a⟩ := p
    simp only [names, List.map_cons, List.nodup_cons] at hps
    have hr : r.lookup n = none := lookup_eq_none_of_not_mem hps.1
    rw [List.foldl_cons]
    -- An old name gets its value where it stands; a new one goes to the end.
    by_cases hn : n ∈ es.names
    · have hput := names_put_of_mem (a := a) hes hn
      have hnames : (es.put n a).names = es.names := by rw [names_put, if_pos hn]
      rw [ih (hnames ▸ hes) hps.2, hnames, hput, List.map_map]
      congr 1
      · refine List.map_congr_left fun e he => ?_
        by_cases he : e.1 = n
        · simp [he, hr]
        · simp [he, List.lookup_cons, beq_eq_false_iff_ne.mpr he]
      · simp [hn]
    · have hput := put_of_not_mem (a := a) hn
      have hnames : (es.put n a).names = es.names ++ [n] := by rw [names_put, if_neg hn]
      have hnodup : (es.put n a).names.Nodup := by
        rw [hnames]
        refine List.nodup_append.mpr ⟨hes, by simp, fun m hm k hk => ?_⟩
        rw [List.mem_singleton.mp hk]
        exact fun h => hn (h ▸ hm)
      have hleft : es.map (fun e => (e.1, (r.lookup e.1).getD e.2))
          = es.map fun e => (e.1, (((n, a) :: r).lookup e.1).getD e.2) := by
        refine List.map_congr_left fun e he => ?_
        have hne : e.1 ≠ n := fun h => hn (h ▸ List.mem_map_of_mem he)
        simp [List.lookup_cons, beq_eq_false_iff_ne.mpr hne]
      have hright : r.filter (fun p => !((es.names ++ [n]).contains p.1))
          = r.filter fun p => !(es.names.contains p.1) := by
        refine List.filter_congr fun p hp => ?_
        have hne : p.1 ≠ n := fun h => hps.1 (h ▸ List.mem_map_of_mem hp)
        simp [hne]
      rw [ih hnodup hps.2, hnames, hput, List.map_append, hleft, hright]
      simp [hn, hr]

theorem names_foldl_put_nodup {es ps : Entries α} (hes : es.names.Nodup) :
    (ps.foldl (fun es p => put es p.1 p.2) es).names.Nodup := by
  induction ps generalizing es with
  | nil => exact hes
  | cons p r ih =>
    refine ih ?_
    rw [names_put]
    split
    · exact hes
    · next hn =>
      refine List.nodup_append.mpr ⟨hes, by simp, fun m hm k hk => ?_⟩
      rw [List.mem_singleton.mp hk]
      exact fun h => hn (h ▸ hm)

theorem mem_put {es : Entries α} {n : String} {a : α} {e : String × α} (h : e ∈ es.put n a) :
    e ∈ es ∨ e = (n, a) := by
  induction es with
  | nil => exact .inr (List.mem_singleton.mp h)
  | cons p r ih =>
    obtain ⟨m, b⟩ := p
    by_cases hm : m = n
    · rw [put, if_pos hm] at h
      rcases List.mem_cons.mp h with rfl | h
      · exact .inr (by rw [hm])
      · exact .inl (List.mem_cons_of_mem _ h)
    · rw [put, if_neg hm] at h
      rcases List.mem_cons.mp h with rfl | h
      · exact .inl List.mem_cons_self
      · exact (ih h).imp_left (List.mem_cons_of_mem _)

theorem mem_foldl_put {es ps : Entries α} {e : String × α}
    (h : e ∈ ps.foldl (fun es p => put es p.1 p.2) es) : e ∈ es ∨ e ∈ ps := by
  induction ps generalizing es with
  | nil => exact .inl h
  | cons p r ih =>
    rcases ih h with h | h
    · rcases mem_put h with h | h
      · exact .inl h
      · exact .inr (h ▸ List.mem_cons_self)
    · exact .inr (List.mem_cons_of_mem _ h)

end Entries

section LastByName
variable {name : α → String}

theorem mem_of_mem_lastByName {xs : List α} {x : α} (h : x ∈ lastByName name xs) : x ∈ xs := by
  obtain ⟨e, he, rfl⟩ := List.mem_map.mp h
  rcases Entries.mem_foldl_put he with he | he
  · cases he
  · obtain ⟨y, hy, rfl⟩ := List.mem_map.mp he
    exact hy

theorem lastByName_nodup {xs : List α} : ((lastByName name xs).map name).Nodup := by
  have hkeys : (lastByName name xs).map name = (Entries.ofPairs (xs.map fun x => (name x, x))).names := by
    rw [lastByName, List.map_map, Entries.names]
    refine List.map_congr_left fun e he => ?_
    rcases Entries.mem_foldl_put he with he | he
    · cases he
    · obtain ⟨x, -, rfl⟩ := List.mem_map.mp he
      rfl
  rw [hkeys]
  exact Entries.names_foldl_put_nodup List.nodup_nil

theorem lookup_pairs (xs : List α) (n : String) :
    (xs.map fun x => (name x, x)).lookup n = xs.find? (name · == n) := by
  induction xs with
  | nil => rfl
  | cons x xs ih =>
    rw [List.map_cons, List.lookup_cons, List.find?_cons, ih, BEq.comm]

theorem Entries.get?_foldl_put (es ps : Entries α) (n : String) :
    (ps.foldl (fun es p => put es p.1 p.2) es).get? n = (ps.reverse.lookup n).or (es.get? n) := by
  induction ps generalizing es with
  | nil => rfl
  | cons p r ih =>
    obtain ⟨m, a⟩ := p
    rw [List.foldl_cons, ih, Entries.get?_put, List.reverse_cons, List.lookup_append, Option.or_assoc]
    congr 1
    by_cases hn : n = m
    · simp [hn]
    · simp [hn, List.lookup_cons, beq_eq_false_iff_ne.mpr hn]

/-- Looking up a name finds the last item that has it. -/
theorem find?_lastByName (xs : List α) (n : String) :
    (lastByName name xs).find? (name · == n) = xs.reverse.find? (name · == n) := by
  have hkeys : ∀ es : Entries α, (∀ e ∈ es, e.1 = name e.2) →
      (es.map (·.2)).find? (name · == n) = es.get? n := by
    intro es
    induction es with
    | nil => exact fun _ => rfl
    | cons e es ih =>
      intro h
      obtain ⟨m, a⟩ := e
      have hm : m = name a := h (m, a) List.mem_cons_self
      rw [List.map_cons, List.find?_cons, Entries.get?_cons,
        ih fun e he => h e (List.mem_cons_of_mem _ he), hm]
      by_cases hn : n = name a
      · simp [hn]
      · simp [hn, beq_eq_false_iff_ne.mpr (Ne.symm hn)]
  rw [lastByName, hkeys, Entries.ofPairs, Entries.get?_foldl_put, ← List.map_reverse, lookup_pairs]
  · exact Option.or_none
  · intro e he
    rcases Entries.mem_foldl_put he with he | he
    · cases he
    · obtain ⟨x, -, rfl⟩ := List.mem_map.mp he
      rfl

theorem Entries.map_put {β : Type} (g : α → β) (es : Entries α) (n : String) (a : α) :
    (put es n a).map (fun e => (e.1, g e.2)) = put (es.map fun e => (e.1, g e.2)) n (g a) := by
  induction es with
  | nil => rfl
  | cons e es ih =>
    obtain ⟨m, b⟩ := e
    by_cases hm : m = n
    · simp [put, hm]
    · simp [put, hm, ih]

theorem lastByName_map {β : Type} {name' : β → String} {g : α → β} (hg : ∀ x, name' (g x) = name x)
    (xs : List α) : (lastByName name xs).map g = lastByName name' (xs.map g) := by
  have hput : ∀ (ps : List α) (es : Entries α),
      ((ps.map fun x => (name x, x)).foldl (fun es p => Entries.put es p.1 p.2) es).map
          (fun e => (e.1, g e.2))
        = ((ps.map g).map fun y => (name' y, y)).foldl (fun es p => Entries.put es p.1 p.2)
            (es.map fun e => (e.1, g e.2)) := by
    intro ps
    induction ps with
    | nil => exact fun _ => rfl
    | cons x ps ih =>
      intro es
      simp only [List.map_cons, List.foldl_cons, ih, Entries.map_put, hg]
  have hall := congrArg (List.map Prod.snd) (hput xs [])
  rw [List.map_map] at hall
  rw [lastByName, lastByName, Entries.ofPairs, Entries.ofPairs, List.map_map]
  exact hall

theorem lastByName_append {xs ys : List α} (hxs : (xs.map name).Nodup)
    (hys : (ys.map name).Nodup) :
    lastByName name (xs ++ ys)
      = xs.map (fun x => (ys.find? (name · == name x)).getD x)
        ++ ys.filter fun y => !((xs.map name).contains (name y)) := by
  have hnames : ∀ zs : List α, Entries.names (zs.map fun x => (name x, x)) = zs.map name := by
    intro zs
    rw [Entries.names, List.map_map]
    rfl
  have hfirst : Entries.ofPairs (xs.map fun x => (name x, x)) = xs.map fun x => (name x, x) := by
    have h := @Entries.foldl_put α [] (xs.map fun x => (name x, x)) List.nodup_nil
      ((hnames xs).symm ▸ hxs)
    simpa [Entries.ofPairs, Entries.names] using h
  have hsecond := Entries.foldl_put ((hnames xs).symm ▸ hxs) ((hnames ys).symm ▸ hys)
  rw [Entries.ofPairs] at hfirst
  rw [lastByName, List.map_append, Entries.ofPairs, List.foldl_append, hfirst, hsecond, hnames,
    List.map_append, List.map_map, List.map_map, List.filter_map, List.map_map]
  simp only [Function.comp_def, lookup_pairs, List.map_id']

theorem name_find?_getD (ys : List α) (x : α) :
    name ((ys.find? (name · == name x)).getD x) = name x := by
  cases h : ys.find? (name · == name x) with
  | none => rfl
  | some y =>
    have hy := List.find?_some h
    exact eq_of_beq hy

theorem names_lastByName_append {xs ys : List α} (hxs : (xs.map name).Nodup)
    (hys : (ys.map name).Nodup) : (lastByName name (xs ++ ys)).map name
      = xs.map name ++ (ys.filter fun y => !((xs.map name).contains (name y))).map name := by
  rw [lastByName_append hxs hys, List.map_append, List.map_map]
  congr 1
  exact List.map_congr_left fun x _ => name_find?_getD ys x

theorem lastByName_append_ne_nil {xs ys : List α} (hxs : (xs.map name).Nodup)
    (hys : (ys.map name).Nodup) (h : xs ≠ []) : lastByName name (xs ++ ys) ≠ [] := by
  rw [lastByName_append hxs hys]
  exact List.append_ne_nil_of_left_ne_nil (by simpa using h) _

theorem filter_lastByName_append {xs ys : List α} (hxs : (xs.map name).Nodup)
    (hys : (ys.map name).Nodup) {p : String → Bool} (hp : ∀ y ∈ ys, p (name y) = false) :
    (lastByName name (xs ++ ys)).filter (p <| name ·) = xs.filter (p <| name ·) := by
  have hnew : (ys.filter fun y => !((xs.map name).contains (name y))).filter (p <| name ·) = [] := by
    refine List.filter_eq_nil_iff.mpr fun y hy => ?_
    rw [hp y (List.mem_of_mem_filter hy)]
    exact Bool.false_ne_true
  rw [lastByName_append hxs hys, List.filter_append, hnew, List.append_nil, List.filter_map]
  simp only [Function.comp_def, name_find?_getD]
  refine (List.map_congr_left fun x hx => ?_).trans (List.map_id _)
  cases h : ys.find? (name · == name x) with
  | none => rfl
  | some y =>
    have hy := List.find?_some h
    have hfalse := hp y (List.mem_of_find?_eq_some h)
    rw [eq_of_beq hy, (List.mem_filter.mp hx).2] at hfalse
    cases hfalse

theorem lastByName_of_nodup {xs : List α} (h : (xs.map name).Nodup) :
    lastByName name xs = xs := by
  have hall := @lastByName_append α name [] xs List.nodup_nil h
  simpa using hall

theorem find?_of_mem {xs : List α} (hxs : (xs.map name).Nodup) {x : α} (hx : x ∈ xs) :
    xs.find? (name · == name x) = some x := by
  induction xs with
  | nil => cases hx
  | cons y ys ih =>
    rw [List.map_cons, List.nodup_cons] at hxs
    rcases List.mem_cons.mp hx with rfl | hx
    · rw [List.find?_cons, beq_self_eq_true]
    · have hne : name y ≠ name x := fun h => hxs.1 (h ▸ List.mem_map_of_mem hx)
      rw [List.find?_cons, beq_eq_false_iff_ne.mpr hne]
      exact ih hxs.2 hx

theorem filter_of_mem {xs : List α} (hxs : (xs.map name).Nodup) {x : α} (hx : x ∈ xs) :
    xs.filter (name · == name x) = [x] := by
  induction xs with
  | nil => cases hx
  | cons y ys ih =>
    rw [List.map_cons, List.nodup_cons] at hxs
    rcases List.mem_cons.mp hx with rfl | hx
    · have hnone : ys.filter (name · == name x) = [] := List.filter_eq_nil_iff.mpr fun z hz heq =>
        hxs.1 (eq_of_beq heq ▸ List.mem_map_of_mem hz)
      rw [List.filter_cons, if_pos (beq_self_eq_true (name x)), hnone]
    · have hne : name y ≠ name x := fun h => hxs.1 (h ▸ List.mem_map_of_mem hx)
      rw [List.filter_cons_of_neg (by simpa using hne)]
      exact ih hxs.2 hx

theorem find?_reverse_of_nodup {xs : List α} (hxs : (xs.map name).Nodup) (n : String) :
    xs.reverse.find? (name · == n) = xs.find? (name · == n) := by
  rw [← find?_lastByName, lastByName_of_nodup hxs]

theorem find?_eq_none_iff_not_mem {xs : List α} {n : String} :
    xs.find? (name · == n) = none ↔ n ∉ xs.map name := by
  rw [List.find?_eq_none]
  constructor
  · intro h hn
    obtain ⟨x, hx, rfl⟩ := List.mem_map.mp hn
    exact h x hx (beq_self_eq_true _)
  · intro h x hx heq
    exact h (eq_of_beq heq ▸ List.mem_map_of_mem hx)

theorem mem_names_lastByName {xs : List α} {n : String} :
    n ∈ (lastByName name xs).map name ↔ n ∈ xs.map name := by
  rw [← not_iff_not, ← find?_eq_none_iff_not_mem, ← find?_eq_none_iff_not_mem, find?_lastByName,
    List.find?_eq_none, List.find?_eq_none]
  simp only [List.mem_reverse]

theorem find?_map_of_name {f : α → α} (hf : ∀ x, name (f x) = name x) (xs : List α) (n : String) :
    (xs.map f).find? (name · == n) = (xs.find? (name · == n)).map f := by
  rw [List.find?_map]
  simp only [Function.comp_def, hf]

end LastByName

end Subgraph
