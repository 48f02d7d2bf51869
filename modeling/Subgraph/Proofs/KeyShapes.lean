import Subgraph.Proofs.FirstFaults
import Subgraph.Proofs.IdentifyingKeys

/-!
# The shapes of key fields

Key fields that are plain data are accepted in a few shapes: nothing, a text, a list of texts, and a list of
texts and lists of texts with something in them. But where one item is a list, the others are made lists
too: a record is accepted for its keys, and at what has no items reading breaks off.
-/

namespace Subgraph.Federation
open Config Text

/-- A value that is a text. -/
inductive IsText : Raw → String → Prop where
  | text (s : String) : IsText (.text s) s
  | unpaired (ps : Points) : IsText (.unpaired ps) (Points.joined ps)

/-- Values without functions, settings or other things: nothing, truth values, numbers, texts, lists, and
records with texts as keys. -/
inductive IsPlain : Raw → Prop where
  | null : IsPlain .null
  | bool (b : Bool) : IsPlain (.bool b)
  | int (n : Int) : IsPlain (.int n)
  | float (d : Double) : IsPlain (.float d)
  | text {v : Raw} {s : String} (h : IsText v s) : IsPlain v
  | list {xs : List Raw} (items : ∀ x ∈ xs, IsPlain x) : IsPlain (.list xs)
  | record {es : List (Raw × Raw)} (keys : ∀ e ∈ es, ∃ s, IsText e.1 s)
      (values : ∀ e ∈ es, IsPlain e.2) : IsPlain (.record es)

/-- An item among several key sets, and the key set that it stands for. -/
inductive KeyItem : Raw → KeySet → Prop where
  | text {v : Raw} {s : String} (h : IsText v s) : KeyItem v [s]
  | list {xs : List Raw} {k : KeySet} (some : xs ≠ []) (texts : List.Forall₂ IsText xs k) :
      KeyItem (.list xs) k

/-- Key fields and the key sets that they stand for. -/
inductive KeyShape : Raw → List KeySet → Prop where
  | nothing : KeyShape .null []
  | selection {v : Raw} {s : String} (h : IsText v s) : KeyShape v [[s]]
  | empty : KeyShape (.list []) []
  | one {xs : List Raw} {k : KeySet} (some : xs ≠ []) (texts : List.Forall₂ IsText xs k) :
      KeyShape (.list xs) [k]
  | several {xs : List Raw} {ks : List KeySet} (nested : ∃ ys, .list ys ∈ xs)
      (sets : List.Forall₂ KeyItem xs ks) : KeyShape (.list xs) ks

/-- What stands for a key set among several although it should not: a record, by its keys. -/
inductive StrayItem : Raw → KeySet → Prop where
  | record {es : List (Raw × Raw)} {k : KeySet} (some : es ≠ [])
      (texts : List.Forall₂ (fun e s => IsText e.1 s) es k) : StrayItem (.record es) k

/-- A list with a list among its items, and with a record that stands for its keys. -/
def StrayShape (v : Raw) (ks : List KeySet) : Prop :=
  ∃ xs, v = .list xs ∧ (∃ ys, .list ys ∈ xs) ∧ (∃ es, .record es ∈ xs)
    ∧ List.Forall₂ (fun x k => KeyItem x k ∨ StrayItem x k) xs ks

/-- What items can be taken of, and the items: a text has itself, and a record its keys. -/
inductive Items : Raw → List Raw → Prop where
  | text (s : String) : Items (.text s) [.text s]
  | unpaired (ps : Points) : Items (.unpaired ps) [.unpaired ps]
  | list (xs : List Raw) : Items (.list xs) xs
  | tuple (xs : List Raw) : Items (.tuple xs) xs
  | set (xs : List Raw) : Items (.set xs) xs
  | record (es : List (Raw × Raw)) : Items (.record es) (es.map (·.1))
  | bytes (bs : List Nat) : Items (.bytes bs) (bs.map fun (b : Nat) => .int (Int.ofNat b))

/-- A value with items in it. -/
def HasItems (v : Raw) : Prop := ∃ items, Items v.unfolded items ∧ items ≠ []

/-- Key fields at an item of which reading breaks off: a list with a list among its items, the first item
of which that has no items cannot have any. -/
def BreaksOff (v : Raw) (kind : String) : Prop :=
  ∃ xs x, (v.unfolded = .list xs ∨ v.unfolded = .tuple xs) ∧ (∃ y ∈ xs, y.isSequence = true)
    ∧ FirstWithout HasItems xs x ∧ (∀ items, ¬ Items x.unfolded items) ∧ kind = x.unfolded.fullKindName

theorem forall₂_iff_of_mem {α β : Type} {R S : α → β → Prop} {xs : List α} {ys : List β}
    (h : ∀ x ∈ xs, ∀ y, R x y ↔ S x y) : List.Forall₂ R xs ys ↔ List.Forall₂ S xs ys := by
  have hmem : ∀ x ∈ xs, x ∈ xs := fun _ hx => hx
  constructor
  · intro hR
    exact ((List.forall₂_and_left _ _).mpr ⟨hmem, hR⟩).imp fun x y hxy => (h x hxy.1 y).mp hxy.2
  · intro hS
    exact ((List.forall₂_and_left _ _).mpr ⟨hmem, hS⟩).imp fun x y hxy => (h x hxy.1 y).mpr hxy.2

theorem exists_of_forall₂ {α β : Type} {R : α → β → Prop} {xs : List α} {ys : List β} {x : α}
    (h : List.Forall₂ R xs ys) (hx : x ∈ xs) : ∃ y, R x y := by
  have hleft : List.Forall₂ (fun x y => (∃ y, R x y) ∧ R x y) xs ys := h.imp fun x y hxy => ⟨⟨y, hxy⟩, hxy⟩
  exact ((List.forall₂_and_left _ _).mp hleft).1 x hx

theorem forall₂_and_map {α β : Type} {p : α → Prop} {f : α → β} {xs : List α} {ys : List β} :
    List.Forall₂ (fun x y => p x ∧ f x = y) xs ys ↔ (∀ x ∈ xs, p x) ∧ xs.map f = ys := by
  rw [List.forall₂_and_left, ← List.forall₂_map_left_iff (R := Eq), List.forall₂_eq_eq_eq]

theorem forall₂_comp {α β γ : Type} {R : α → β → Prop} {S : β → γ → Prop} {xs : List α} {zs : List γ} :
    (∃ ys, List.Forall₂ R xs ys ∧ List.Forall₂ S ys zs)
      ↔ List.Forall₂ (fun x z => ∃ y, R x y ∧ S y z) xs zs := by
  constructor
  · rintro ⟨ys, hxy, hyz⟩
    induction hxy generalizing zs with
    | nil =>
      cases hyz
      exact .nil
    | cons hr _ ih =>
      cases hyz with
      | cons hs hyz => exact .cons ⟨_, hr, hs⟩ (ih hyz)
  · intro h
    induction h with
    | nil => exact ⟨[], .nil, .nil⟩
    | cons hxz _ ih =>
      obtain ⟨y, hr, hs⟩ := hxz
      obtain ⟨ys, hxy, hyz⟩ := ih
      exact ⟨y :: ys, .cons hr hxy, .cons hs hyz⟩

section Items
variable {v : Raw} {items : List Raw} {k : KeySet}

theorem setItems_ok_iff : setItems v = .ok items ↔ Items v.unfolded items := by
  unfold setItems
  constructor
  · intro h
    split at h <;> cases h <;> (rename_i hv; rw [hv]; constructor)
  · intro h
    generalize v.unfolded = w at h ⊢
    cases h <;> rfl

theorem setItems_error_iff {kind : String} : setItems v = .error kind
    ↔ (∀ items, ¬ Items v.unfolded items) ∧ kind = v.unfolded.fullKindName := by
  cases hv : setItems v with
  | ok items => simp [← setItems_ok_iff, hv]
  | error kind' =>
    have hkind : kind' = v.unfolded.fullKindName := by
      unfold setItems at hv
      split at hv <;> cases hv
      rfl
    simp [← setItems_ok_iff, hv, hkind, eq_comm]

theorem asText?_iff (hv : IsPlain v) {s : String} : asText? v = some s ↔ IsText v s := by
  constructor
  · intro h
    cases hv with
    | text ht =>
      cases ht <;> (obtain rfl := Option.some.inj h; constructor)
    | _ => cases h
  · intro h
    cases h <;> rfl

theorem IsText.taken {s : String} (h : IsText v s) : Items v.unfolded [v] := by
  cases h <;> constructor

theorem IsPlain.unfolded (hv : IsPlain v) : v.unfolded = v := by
  cases hv with
  | text ht => cases ht <;> rfl
  | _ => rfl

theorem isPlain_items (hv : IsPlain v) (h : Items v items) : ∀ x ∈ items, IsPlain x := by
  cases h with
  | text s => simpa using hv
  | unpaired ps => simpa using hv
  | list xs =>
    cases hv with
    | text ht => cases ht
    | list hitems => exact hitems
  | record es =>
    cases hv with
    | text ht => cases ht
    | record hkeys _ =>
      intro x hx
      obtain ⟨e, he, rfl⟩ := List.mem_map.mp hx
      obtain ⟨s, hs⟩ := hkeys e he
      exact .text hs
  | _ =>
    cases hv with
    | text ht => cases ht

theorem items_texts_iff (hv : IsPlain v) :
    (∃ items, (Items v items ∧ items ≠ []) ∧ List.Forall₂ IsText items k)
      ↔ KeyItem v k ∨ StrayItem v k := by
  constructor
  · rintro ⟨items, ⟨hitems, hsome⟩, htexts⟩
    cases hitems with
    | text s =>
      cases htexts with
      | cons h hnil =>
        cases hnil
        exact .inl (.text h)
    | unpaired ps =>
      cases htexts with
      | cons h hnil =>
        cases hnil
        exact .inl (.text h)
    | list xs => exact .inl (.list hsome htexts)
    | record es => exact .inr (.record (by simpa using hsome) (List.forall₂_map_left_iff.mp htexts))
    | _ =>
      cases hv with
      | text ht => cases ht
  · rintro (h | h)
    · cases h with
      | text ht =>
        have hitems := ht.taken
        rw [hv.unfolded] at hitems
        exact ⟨[v], ⟨hitems, by simp⟩, .cons ht .nil⟩
      | list hsome htexts => exact ⟨_, ⟨.list _, hsome⟩, htexts⟩
    · cases h with
      | record hsome htexts =>
        exact ⟨_, ⟨.record _, by simpa using hsome⟩, List.forall₂_map_left_iff.mpr htexts⟩

end Items

section Sets
variable {place : List Step} {given v : Raw} {vs xs : List Raw} {sets : List (List Raw)}
  {ks : List KeySet}

theorem severalSets_ok_iff : severalSets place given vs = .ok (.ok sets)
    ↔ List.Forall₂ (fun v items => Items v.unfolded items ∧ items ≠ []) vs sets := by
  simp only [← setItems_ok_iff]
  induction vs generalizing sets with
  | nil => simp [severalSets, accept, eq_comm]
  | cons v vs ih =>
    rw [List.forall₂_cons_left_iff]
    unfold severalSets
    cases hv : setItems v with
    | error k => simp
    | ok items =>
      cases items with
      | nil => simp [reject]
      | cons x items =>
        simp only [← ih]
        cases severalSets place given vs with
        | error e => simp [Except.map]
        | ok r => cases r <;> simp [Except.map, eq_comm]

theorem severalSets_error_iff {e : ConfigError} : severalSets place given vs = .error e
    ↔ ∃ x kind, FirstWithout HasItems vs x ∧ setItems x = .error kind ∧ e = .notIterable kind := by
  -- By induction on the items: an error is that of the first one without items.
  induction vs with
  | nil => simp [severalSets, accept, not_firstWithout_nil]
  | cons v vs ih =>
    simp only [firstWithout_cons, HasItems, ← setItems_ok_iff]
    unfold severalSets
    cases hv : setItems v with
    | error k =>
      constructor
      · intro h
        cases h
        exact ⟨v, k, .inl ⟨by simp, rfl⟩, hv, rfl⟩
      · rintro ⟨x, kind, ⟨-, rfl⟩ | ⟨⟨items, hitems, -⟩, -⟩, hx, rfl⟩
        · rw [Except.error.inj (hv.symm.trans hx)]
        · cases hitems
    | ok items =>
      cases items with
      | nil =>
        constructor
        · intro h
          cases h
        · rintro ⟨x, kind, ⟨-, rfl⟩ | ⟨⟨items, hitems, hsome⟩, -⟩, hx, -⟩
          · cases hv.symm.trans hx
          · exact absurd (Except.ok.inj hitems).symm hsome
      | cons y items =>
        have hrest : (severalSets place given vs).map (fun r => r.map ((y :: items) :: ·)) = .error e
            ↔ severalSets place given vs = .error e := by
          cases severalSets place given vs <;> simp [Except.map]
        refine hrest.trans (ih.trans ?_)
        simp

theorem itemFaults_eq_nil_iff {items : List Raw} :
    itemFaults place items = [] ↔ ∀ x ∈ items, (asText? x).isSome = true := by
  refine ⟨asText?_of_itemFaults, fun h => List.filterMap_eq_nil_iff.mpr ?_⟩
  rintro ⟨x, i⟩ hmem
  exact if_pos (h x (List.fst_mem_of_mem_zipIdx hmem))

theorem asTexts_iff {items : List Raw} {k : KeySet} :
    List.Forall₂ (fun x s => asText? x = some s) items k
      ↔ (∀ x ∈ items, (asText? x).isSome = true) ∧ items.filterMap asText? = k := by
  induction items generalizing k with
  | nil => simp
  | cons x items ih =>
    rw [List.forall₂_cons_left_iff, List.forall_mem_cons, List.filterMap_cons]
    cases asText? x with
    | none => simp
    | some s => simp [ih, and_assoc, eq_comm (a := k)]

theorem textSets_ok_iff : textSets place sets = .ok ks
    ↔ List.Forall₂ (List.Forall₂ fun x s => asText? x = some s) sets ks := by
  have hsets : List.Forall₂ (List.Forall₂ fun x s => asText? x = some s) sets ks
      ↔ List.Forall₂ (fun items k => (∀ x ∈ items, (asText? x).isSome = true)
        ∧ items.filterMap asText? = k) sets ks := forall₂_iff_of_mem fun _ _ _ => asTexts_iff
  rw [hsets, forall₂_and_map]
  refine ⟨fun h => ⟨(textSets_ok h).2, (textSets_ok h).1.symm⟩, ?_⟩
  rintro ⟨htexts, rfl⟩
  refine if_pos (List.isEmpty_iff.mpr (List.flatMap_eq_nil_iff.mpr ?_))
  exact fun p hp => itemFaults_eq_nil_iff.mpr (htexts p.1 (List.fst_mem_of_mem_zipIdx hp))

/-- A list of key sets is read as a whole, or item by item where one of the items is a list. -/
theorem checkKeySets_list (xs : List Raw) : checkKeySets place (.list xs)
    = (if xs.any Raw.isSequence then severalSets place (.list xs) xs
        else accept (if xs.isEmpty then [] else [xs])).map fun r => r.bind (textSets place) := rfl

theorem any_isSequence (hxs : ∀ x ∈ xs, IsPlain x) :
    xs.any Raw.isSequence = true ↔ ∃ ys, .list ys ∈ xs := by
  rw [List.any_eq_true]
  constructor
  · rintro ⟨x, hx, hsequence⟩
    cases hxs x hx with
    | list _ => exact ⟨_, hx⟩
    | text ht => cases ht <;> cases hsequence
    | _ => cases hsequence
  · rintro ⟨ys, hys⟩
    exact ⟨_, hys, rfl⟩

theorem bind_textSets_iff {r : Checked (List (List Raw))} :
    (r.map fun sets => sets.bind (textSets place)) = .ok (.ok ks)
      ↔ ∃ sets, r = .ok (.ok sets) ∧ textSets place sets = .ok ks := by
  rcases r with e | fs | sets <;> simp [Except.map, Except.bind]

theorem checkKeySets_several (hxs : ∀ x ∈ xs, IsPlain x) (hnested : xs.any Raw.isSequence = true) :
    checkKeySets place (.list xs) = .ok (.ok ks)
      ↔ List.Forall₂ (fun x k => KeyItem x k ∨ StrayItem x k) xs ks := by
  rw [checkKeySets_list, if_pos hnested, bind_textSets_iff]
  simp only [severalSets_ok_iff, textSets_ok_iff]
  rw [forall₂_comp]
  refine forall₂_iff_of_mem fun x hx k => ?_
  rw [(hxs x hx).unfolded, ← items_texts_iff (hxs x hx)]
  refine exists_congr fun items => and_congr_right fun hitems => ?_
  exact forall₂_iff_of_mem fun y hy s => asText?_iff (isPlain_items (hxs x hx) hitems.1 y hy)

theorem checkKeySets_flat (hxs : ∀ x ∈ xs, IsPlain x) (hflat : ¬ xs.any Raw.isSequence = true) :
    checkKeySets place (.list xs) = .ok (.ok ks)
      ↔ xs = [] ∧ ks = [] ∨ xs ≠ [] ∧ ∃ k, List.Forall₂ IsText xs k ∧ ks = [k] := by
  rw [checkKeySets_list, if_neg hflat, bind_textSets_iff]
  cases xs with
  | nil => simp [accept, textSets_ok_iff]
  | cons x xs =>
    have htexts : ∀ k, List.Forall₂ (fun x s => asText? x = some s) (x :: xs) k
        ↔ List.Forall₂ IsText (x :: xs) k :=
      fun k => forall₂_iff_of_mem fun y hy s => asText?_iff (hxs y hy)
    simp [accept, textSets_ok_iff, List.forall₂_cons_left_iff (R := List.Forall₂ _), htexts]

theorem not_list_of_texts {k : KeySet} (h : List.Forall₂ IsText xs k) (ys : List Raw) : .list ys ∉ xs := by
  intro hys
  obtain ⟨s, hs⟩ := exists_of_forall₂ h hys
  cases hs

theorem keyShape_several_iff (hnested : ∃ ys, .list ys ∈ xs) :
    KeyShape (.list xs) ks ∨ StrayShape (.list xs) ks
      ↔ List.Forall₂ (fun x k => KeyItem x k ∨ StrayItem x k) xs ks := by
  constructor
  · rintro (h | ⟨xs', hxs, -, -, hsets⟩)
    · cases h with
      | selection ht => cases ht
      | empty => simp at hnested
      | one _ htexts =>
        obtain ⟨ys, hys⟩ := hnested
        exact absurd hys (not_list_of_texts htexts ys)
      | several _ hsets => exact hsets.imp fun _ _ => .inl
    · obtain rfl := Raw.list.inj hxs
      exact hsets
  · intro h
    by_cases hrecord : ∃ es, .record es ∈ xs
    · exact .inr ⟨xs, rfl, hnested, hrecord, h⟩
    · refine .inl (.several hnested ((forall₂_iff_of_mem fun x hx k => ?_).mp h))
      refine or_iff_left fun hstray => ?_
      cases hstray with
      | record _ _ => exact hrecord ⟨_, hx⟩

theorem keyShape_flat_iff (hflat : ¬ ∃ ys, .list ys ∈ xs) :
    KeyShape (.list xs) ks ∨ StrayShape (.list xs) ks
      ↔ xs = [] ∧ ks = [] ∨ xs ≠ [] ∧ ∃ k, List.Forall₂ IsText xs k ∧ ks = [k] := by
  constructor
  · rintro (h | ⟨xs', hxs, hnested, -⟩)
    · cases h with
      | selection ht => cases ht
      | empty => exact .inl ⟨rfl, rfl⟩
      | one hsome htexts => exact .inr ⟨hsome, _, htexts, rfl⟩
      | several hnested _ => exact absurd hnested hflat
    · obtain rfl := Raw.list.inj hxs
      exact absurd hnested hflat
  · rintro (⟨rfl, rfl⟩ | ⟨hsome, k, htexts, rfl⟩)
    · exact .inl .empty
    · exact .inl (.one hsome htexts)

theorem checkKeySets_ok_iff (hv : IsPlain v) :
    checkKeySets place v = .ok (.ok ks) ↔ KeyShape v ks ∨ StrayShape v ks := by
  cases hv with
  | null =>
    constructor
    · intro h
      obtain rfl := Except.ok.inj (Except.ok.inj h)
      exact .inl .nothing
    · rintro (h | ⟨xs, h, -⟩)
      · cases h with
        | nothing => rfl
        | selection ht => cases ht
      · cases h
  | @text v s ht =>
    have hone : checkKeySets place v = .ok (.ok [[s]]) := by cases ht <;> rfl
    rw [hone]
    constructor
    · intro h
      obtain rfl := Except.ok.inj (Except.ok.inj h)
      exact .inl (.selection ht)
    · rintro (h | ⟨xs, rfl, -⟩)
      · cases ht <;> cases h with
        | selection ht => cases ht; rfl
      · cases ht
  | @list xs hitems =>
    by_cases hnested : ∃ ys, .list ys ∈ xs
    · rw [checkKeySets_several hitems ((any_isSequence hitems).mpr hnested), keyShape_several_iff hnested]
    · rw [checkKeySets_flat hitems (mt (any_isSequence hitems).mp hnested), keyShape_flat_iff hnested]
  | _ =>
    constructor
    · intro h
      cases h
    · rintro (h | ⟨xs, h, -⟩)
      · cases h with
        | selection ht => cases ht
      · cases h

theorem keySets_error_iff {e : ConfigError} : keySets place v = .error e
    ↔ ∃ xs, (v.unfolded = .list xs ∨ v.unfolded = .tuple xs) ∧ keySets.sequence place v xs = .error e := by
  constructor
  · intro h
    unfold keySets at h
    split at h
    case h_5 xs hxs => exact ⟨xs, .inl hxs, h⟩
    case h_6 xs hxs => exact ⟨xs, .inr hxs, h⟩
    case h_4 => split at h <;> cases h
    all_goals cases h
  · rintro ⟨xs, hxs | hxs, h⟩
    · simpa only [keySets, hxs] using h
    · simpa only [keySets, hxs] using h

theorem sequence_error_iff {e : ConfigError} : keySets.sequence place v xs = .error e
    ↔ ∃ x kind, (∃ y ∈ xs, y.isSequence = true) ∧ FirstWithout HasItems xs x
      ∧ setItems x = .error kind ∧ e = .notIterable kind := by
  rw [← List.any_eq_true]
  unfold keySets.sequence
  split
  · next hnested => simp [severalSets_error_iff, hnested]
  · next hflat => simp [accept, hflat]

/-- Reading key fields breaks off exactly where items are asked for of what cannot have any. -/
theorem checkKeySets_error_iff {e : ConfigError} :
    checkKeySets place v = .error e ↔ ∃ kind, BreaksOff v kind ∧ e = .notIterable kind := by
  have hsets : checkKeySets place v = .error e ↔ keySets place v = .error e := by
    unfold checkKeySets
    cases keySets place v <;> simp [Except.map]
  rw [hsets, keySets_error_iff]
  constructor
  · rintro ⟨xs, hxs, h⟩
    obtain ⟨x, kind, hnested, hfirst, hx, rfl⟩ := sequence_error_iff.mp h
    obtain ⟨hatom, rfl⟩ := setItems_error_iff.mp hx
    exact ⟨_, ⟨xs, x, hxs, hnested, hfirst, hatom, rfl⟩, rfl⟩
  · rintro ⟨kind, ⟨xs, x, hxs, hnested, hfirst, hatom, rfl⟩, rfl⟩
    exact ⟨xs, hxs, sequence_error_iff.mpr
      ⟨x, _, hnested, hfirst, setItems_error_iff.mpr ⟨hatom, rfl⟩, rfl⟩⟩

theorem severalSets_faults {fs : List Fault} (h : severalSets place given vs = .ok (.error fs)) :
    fs ≠ [] := by
  induction vs with
  | nil => cases h
  | cons v vs ih =>
    unfold severalSets at h
    split at h
    · cases h
    · obtain rfl := Except.error.inj (Except.ok.inj h)
      simp
    · obtain ⟨r, hr, hmap⟩ := Except.of_map_ok h
      cases r with
      | ok sets => cases hmap
      | error fs' =>
        obtain rfl := Except.error.inj hmap
        exact ih hr

theorem keySets_faults {fs : List Fault} (h : keySets place v = .ok (.error fs)) : fs ≠ [] := by
  have hsequence : ∀ xs, keySets.sequence place v xs = .ok (.error fs) → fs ≠ [] := by
    intro xs hxs
    unfold keySets.sequence at hxs
    split at hxs
    · exact severalSets_faults hxs
    · cases hxs
  unfold keySets at h
  split at h
  case h_5 xs _ => exact hsequence xs h
  case h_6 xs _ => exact hsequence xs h
  case h_4 xs _ =>
    split at h
    · cases h
    · next hsome =>
      obtain rfl := Except.error.inj (Except.ok.inj h)
      simpa using hsome
  case h_7 =>
    obtain rfl := Except.error.inj (Except.ok.inj h)
    simp
  all_goals cases h

theorem checkKeySets_faults {fs : List Fault} (h : checkKeySets place v = .ok (.error fs)) : fs ≠ [] := by
  obtain ⟨r, hr, hbind⟩ := Except.of_map_ok h
  cases r with
  | error fs' =>
    obtain rfl := Except.error.inj hbind
    exact keySets_faults hr
  | ok sets =>
    have htexts : textSets place sets = .error fs := hbind
    unfold textSets at htexts
    simp only at htexts
    split at htexts
    · cases htexts
    · next hsome =>
      obtain rfl := Except.error.inj htexts
      simpa using hsome

end Sets

end Subgraph.Federation
