import Subgraph.Proofs.WidenedInputs

/-!
# Values of types

What a constant means at a type is a value of that type: lists hold values of their item type, and an
input object has values for its fields, and leaves out only those that may be left out and have no default.
-/

namespace Subgraph

/-- The entries of an input object, in the order of its fields. -/
def entriesOf (fs : List InputValue) (g : InputValue → Option Value) : Entries Value :=
  fs.filterMap fun f => (g f).map (f.name, ·)

theorem get?_entriesOf {fs : List InputValue} (hdistinct : (fs.map (·.name)).Nodup)
    (g : InputValue → Option Value) {f : InputValue} (hf : f ∈ fs) :
    Entries.get? (entriesOf fs g) f.name = g f := by
  induction fs with
  | nil => cases hf
  | cons e fs ih =>
    rw [List.map_cons, List.nodup_cons] at hdistinct
    have hother : ∀ k ∈ fs, e.name ≠ k.name := fun k hk heq =>
      hdistinct.1 (List.mem_map.mpr ⟨k, hk, heq.symm⟩)
    rcases List.mem_cons.mp hf with rfl | hf
    · cases hg : g f with
      | some v => simp [entriesOf, hg, Entries.get?_cons]
      | none =>
        have hnone : Entries.get? (entriesOf fs g) f.name = none := by
          rw [Entries.get?, List.lookup_eq_none_iff]
          intro x hx
          obtain ⟨k, hk, hkx⟩ := List.mem_filterMap.mp hx
          obtain ⟨w, -, rfl⟩ := Option.map_eq_some_iff.mp hkx
          exact bne_iff_ne.mpr (hother k hk)
        simpa [entriesOf, hg] using hnone
    · have hmore := ih hdistinct.2 hf
      cases hg : g e with
      | some v =>
        have hne : f.name ≠ e.name := fun heq => hother f hf heq.symm
        simpa [entriesOf, hg, Entries.get?_cons, hne] using hmore
      | none => simpa [entriesOf, hg] using hmore

theorem Literal.objectEntries_eq {given : List FieldMeaning} {defaults : String → Option Value}
    {fs : List InputValue} {es : Entries Value} (h : objectEntries given defaults fs = some es) :
    ∃ g : InputValue → Option Value, (∀ f ∈ fs, objectField? given defaults f = some (g f)) ∧ es = entriesOf fs g := by
  refine ⟨fun f => (objectField? given defaults f).join, ?_⟩
  induction fs generalizing es with
  | nil => exact ⟨nofun, (Option.some.inj h).symm⟩
  | cons f fs ih =>
    rw [objectEntries_cons] at h
    obtain ⟨entry, hentry, h⟩ := Option.bind_eq_some_iff.mp h
    obtain ⟨rest, hrest, h⟩ := Option.bind_eq_some_iff.mp h
    obtain ⟨hfields, rfl⟩ := ih hrest
    constructor
    · intro k hk
      rcases List.mem_cons.mp hk with rfl | hk
      · simp only [hentry, Option.join_some]
      · exact hfields k hk
    · rw [← Option.some.inj h]
      cases entry with
      | some v => simp [entriesOf, hentry]
      | none => simp [entriesOf, hentry]

/-- A value that a constant can have at a type. -/
inductive Value.HasType (s : Schema) : Value → TypeRef → Prop where
  | null {t : TypeRef} (nullable : t.isNonNull = false) : HasType s .null t
  | nonNull {v : Value} {t : TypeRef} (some : v ≠ .null) (inner : HasType s v t) : HasType s v (.nonNull t)
  | list {xs : List Value} {t : TypeRef} (items : ∀ x ∈ xs, HasType s x t) : HasType s (.list xs) (.list t)
  | leaf {v : Value} {n : String} {shape : TypeShape} {l : Constant} (known : s.shape? n = some shape)
      (value : Literal.leafValue? [] n shape l = Option.some v) (some : v ≠ .null) : HasType s v (.named n)
  | record {n : String} {oneOf : Bool} {fs : List InputValue} {g : InputValue → Option Value}
      (known : s.shape? n = some (.input oneOf fs))
      (given : ∀ f ∈ fs, ∀ v, g f = some v → HasType s v f.type)
      (absent : ∀ f ∈ fs, g f = none → f.type.isNonNull = false ∧ f.default s = none)
      (one : oneOf = true → Literal.hasOneValue (entriesOf fs g) = true) :
      HasType s (.record (entriesOf fs g)) (.named n)

theorem mem_of_mapM {α β : Type} {f : α → Option β} {xs : List α} {ys : List β}
    (h : xs.mapM f = some ys) {y : β} (hy : y ∈ ys) : ∃ x ∈ xs, f x = some y := by
  induction xs generalizing ys with
  | nil =>
    rw [List.mapM_nil] at h
    rw [← Option.some.inj h] at hy
    cases hy
  | cons x xs ih =>
    rw [List.mapM_cons] at h
    obtain ⟨z, hz, h⟩ := Option.bind_eq_some_iff.mp h
    obtain ⟨zs, hzs, h⟩ := Option.bind_eq_some_iff.mp h
    rw [← Option.some.inj h] at hy
    rcases List.mem_cons.mp hy with rfl | hy
    · exact ⟨x, List.mem_cons_self, hz⟩
    · obtain ⟨k, hk, hky⟩ := ih hzs hy
      exact ⟨k, List.mem_cons_of_mem x hk, hky⟩

namespace Literal
variable {s : Schema} {defaults : String → String → Option Value} {l : Constant} {t : TypeRef} {v : Value}

theorem valueWith_variable (n : String) (t : TypeRef) :
    (Literal.variable () n).valueWith s [] defaults t = none := by
  rw [valueWith, Entries.get?_nil]

theorem valueWith_null (h : (Literal.null ()).valueWith s [] defaults t = some v) :
    v = .null ∧ t.isNonNull = false := by
  cases t with
  | nonNull t => cases h
  | list t => exact ⟨(Option.some.inj h).symm, rfl⟩
  | named n => exact ⟨(Option.some.inj h).symm, rfl⟩

theorem valueWith_nonNull : ∀ {l : Constant}, l ≠ .null () → ∀ t : TypeRef,
    l.valueWith s [] defaults (.nonNull t) = l.valueWith s [] defaults t
  | .null _, hl, _ => absurd rfl hl
  | .variable _ n, _, t => by rw [valueWith_variable, valueWith_variable]
  | .int .., _, _ => rfl
  | .float .., _, _ => rfl
  | .string .., _, _ => rfl
  | .bool .., _, _ => rfl
  | .enum .., _, _ => rfl
  | .list .., _, _ => rfl
  | .object .., _, _ => rfl

theorem valueWith_single : ∀ {l : Constant}, l ≠ .null () → (∀ xs, l ≠ .list () xs) → ∀ t : TypeRef,
    l.valueWith s [] defaults (.list t) = (l.valueWith s [] defaults t).map fun v => .list [v]
  | .null _, hl, _, _ => absurd rfl hl
  | .list _ xs, _, hl, _ => absurd rfl (hl xs)
  | .variable _ n, _, _, t => by
    rw [valueWith_variable, valueWith_variable]
    rfl
  | .int .., _, _, _ => rfl
  | .float .., _, _, _ => rfl
  | .string .., _, _, _ => rfl
  | .bool .., _, _, _ => rfl
  | .enum .., _, _, _ => rfl
  | .object .., _, _, _ => rfl

theorem valueWith_items (xs : List Constant) (t : TypeRef) :
    (Literal.list () xs).valueWith s [] defaults (.list t)
      = listValue? (xs.map fun x => (isMissing [] x, x.valueWith s [] defaults)) t := by
  rw [← itemMeanings_eq_map]
  rfl

theorem items_valueWith (hl : l ≠ .null ()) (h : l.valueWith s [] defaults (.list t) = some v) :
    ∃ xs, v = .list xs ∧ ∀ x ∈ xs,
      (∃ l' : Constant, l'.valueWith s [] defaults t = some x) ∨ x = .null ∧ t.isNonNull = false := by
  by_cases hlist : ∃ xs, l = .list () xs
  · obtain ⟨ls, rfl⟩ := hlist
    rw [valueWith_items, listValue?] at h
    obtain ⟨xs, hxs, h⟩ := Option.bind_eq_some_iff.mp h
    refine ⟨xs, (Option.some.inj h).symm, fun x hx => ?_⟩
    obtain ⟨⟨missing, value?⟩, hmem, hx⟩ := mem_of_mapM hxs hx
    obtain ⟨l', -, heq⟩ := List.mem_map.mp hmem
    obtain ⟨rfl, rfl⟩ := Prod.mk.inj heq
    dsimp only at hx
    split at hx
    · split at hx
      · cases hx
      · next hnull => exact .inr ⟨(Option.some.inj hx).symm, Bool.eq_false_iff.mpr hnull⟩
    · exact .inl ⟨l', hx⟩
  · rw [valueWith_single hl fun xs heq => hlist ⟨xs, heq⟩] at h
    obtain ⟨x, hx, rfl⟩ := Option.map_eq_some_iff.mp h
    refine ⟨[x], rfl, fun y hy => .inl ⟨l, ?_⟩⟩
    rw [List.mem_singleton.mp hy, hx]

theorem valueWith_leaf : ∀ {l : Constant}, l ≠ .null () → (∀ fs, l ≠ .object () fs) → ∀ n : String,
    l.valueWith s [] defaults (.named n)
      = if isMissing [] l then none else (s.shape? n).bind fun shape => leafValue? [] n shape l
  | .null _, hl, _, _ => absurd rfl hl
  | .object _ fs, _, hl, _ => absurd rfl (hl fs)
  | .variable _ n, _, _, m => by
    rw [valueWith_variable]
    rfl
  | .int .., _, _, _ => rfl
  | .float .., _, _, _ => rfl
  | .string .., _, _, _ => rfl
  | .bool .., _, _, _ => rfl
  | .enum .., _, _, _ => rfl
  | .list .., _, _, _ => rfl

theorem valueWith_object (fs : List (Unit × String × Constant)) {n : String} {oneOf : Bool}
    {fields : List InputValue} (hs : s.shape? n = some (.input oneOf fields)) :
    (Literal.object () fs).valueWith s [] defaults (.named n)
      = (objectEntries (fieldMeanings s [] defaults fs) (defaults n) fields).bind fun es =>
          if oneOf && !hasOneValue es then none else some (.record es) := by
  simp only [valueWith, throughType, Bool.false_eq_true, if_false, hs, Option.bind_some]
  rfl

theorem plainValue_ne_null : ∀ {l : Constant}, l ≠ .null () → l.plainValue [] ≠ .null
  | .null _, hl => absurd rfl hl
  | .variable .., _ => nofun
  | .int _ s, _ => by
    rw [plainValue, plainInt]
    split <;> exact nofun
  | .float .., _ => nofun
  | .string .., _ => nofun
  | .bool .., _ => nofun
  | .enum .., _ => nofun
  | .list .., _ => nofun
  | .object .., _ => nofun

theorem leafValue_ne_null {n : String} {shape : TypeShape} (hl : l ≠ .null ())
    (h : leafValue? [] n shape l = some v) : v ≠ .null := by
  unfold leafValue? at h
  split at h
  · split at h
    · split at h
      · rw [← Option.some.inj h]
        exact nofun
      · cases h
    · cases h
  · split at h
    · split at h
      · rw [← Option.some.inj h]
        exact nofun
      · cases h
    all_goals try (rw [← Option.some.inj h]; exact nofun)
    split at h
    · cases h
    · split at h
      · cases h
      · rw [← Option.some.inj h]
        exact plainValue_ne_null hl
  · cases h

theorem of_objectField {given : List FieldMeaning} {fieldDefaults : String → Option Value} {f : InputValue}
    (h : objectField? given fieldDefaults f = some (some v)) :
    (∃ g ∈ given, g.value? f.type = some v) ∨ f.default?.isSome ∧ fieldDefaults f.name = some v := by
  have habsent : objectEntries.absent fieldDefaults f = some (some v) →
      f.default?.isSome ∧ fieldDefaults f.name = some v := by
    intro h
    unfold objectEntries.absent at h
    split at h
    · next hdefault =>
      split at h
      · next w hw => exact ⟨by rw [hdefault]; rfl, by rw [hw, Option.some.inj (Option.some.inj h)]⟩
      · split at h <;> cases h
    · split at h <;> cases h
  unfold objectField? at h
  split at h
  · next g hg =>
    split at h
    · obtain ⟨w, hw, heq⟩ := Option.map_eq_some_iff.mp h
      refine .inl ⟨g, List.mem_reverse.mp (List.mem_of_find?_eq_some hg), ?_⟩
      rw [hw, Option.some.inj heq]
    · exact .inr (habsent h)
  · exact .inr (habsent h)

theorem of_objectField_none {given : List FieldMeaning} {fieldDefaults : String → Option Value} {f : InputValue}
    (h : objectField? given fieldDefaults f = some none) :
    f.type.isNonNull = false ∧ (f.default? = none ∨ fieldDefaults f.name = none) := by
  have habsent : objectEntries.absent fieldDefaults f = some none →
      f.type.isNonNull = false ∧ (f.default? = none ∨ fieldDefaults f.name = none) := by
    intro h
    unfold objectEntries.absent at h
    split at h
    · split at h
      · cases h
      · next hnone =>
        split at h
        · cases h
        · next hnull => exact ⟨Bool.eq_false_iff.mpr hnull, .inr hnone⟩
    · next hdefault =>
      split at h
      · cases h
      · next hnull => exact ⟨Bool.eq_false_iff.mpr hnull, .inl hdefault⟩
  unfold objectField? at h
  split at h
  · split at h
    · obtain ⟨w, -, heq⟩ := Option.map_eq_some_iff.mp h
      cases heq
    · exact habsent h
  · exact habsent h

theorem valueWith_objectLeaf (fs : List (Unit × String × Constant)) {n : String} {shape : TypeShape}
    (hs : s.shape? n = some shape) (hshape : ∀ o fields, shape ≠ .input o fields) :
    (Literal.object () fs).valueWith s [] defaults (.named n) = leafValue? [] n shape (.object () fs) := by
  simp only [valueWith, throughType, Bool.false_eq_true, if_false, hs, Option.bind_some]

theorem valueWith_named {n : String} (hl : l ≠ .null ())
    (h : l.valueWith s [] defaults (.named n) = some v) :
    (∃ shape, s.shape? n = some shape ∧ leafValue? [] n shape l = some v)
    ∨ ∃ fields oneOf fs es, l = .object () fields ∧ s.shape? n = some (.input oneOf fs)
      ∧ objectEntries (fieldMeanings s [] defaults fields) (defaults n) fs = some es
      ∧ (oneOf = true → hasOneValue es = true) ∧ v = .record es := by
  by_cases hobject : ∃ fields, l = .object () fields
  · obtain ⟨fields, rfl⟩ := hobject
    cases hs : s.shape? n with
    | none =>
      simp only [valueWith, throughType, Bool.false_eq_true, if_false, hs, Option.bind_none] at h
      cases h
    | some shape =>
      by_cases hshape : ∃ oneOf fs, shape = .input oneOf fs
      · obtain ⟨oneOf, fs, rfl⟩ := hshape
        rw [valueWith_object fields hs] at h
        obtain ⟨es, hes, h⟩ := Option.bind_eq_some_iff.mp h
        split at h
        · cases h
        · next hone =>
          refine .inr ⟨fields, oneOf, fs, es, rfl, rfl, hes, fun ho => ?_, (Option.some.inj h).symm⟩
          rw [ho, Bool.true_and, Bool.not_eq_true', Bool.not_eq_false] at hone
          exact hone
      · rw [valueWith_objectLeaf fields hs fun o fs heq => hshape ⟨o, fs, heq⟩] at h
        exact .inl ⟨shape, rfl, h⟩
  · rw [valueWith_leaf hl fun fields heq => hobject ⟨fields, heq⟩] at h
    split at h
    · cases h
    · obtain ⟨shape, hs, h⟩ := Option.bind_eq_some_iff.mp h
      exact .inl ⟨shape, hs, h⟩

theorem valueWith_ne_null (hl : l ≠ .null ()) (h : l.valueWith s [] defaults t = some v) : v ≠ .null := by
  induction t generalizing v with
  | nonNull t ih =>
    rw [valueWith_nonNull hl] at h
    exact ih h
  | list t ih =>
    obtain ⟨xs, rfl, -⟩ := items_valueWith hl h
    intro hnull
    cases hnull
  | named n =>
    rcases valueWith_named hl h with ⟨shape, -, hleaf⟩ | ⟨_, _, _, _, -, -, -, -, rfl⟩
    · exact leafValue_ne_null hl hleaf
    · exact nofun

end Literal

/-- The input types of a schema, as far as its defaults lean on them. -/
structure Schema.HasTypedInputs (s : Schema) : Prop where
  settled : s.Settled
  distinct : ∀ n o fs, s.shape? n = some (.input o fs) → (fs.map (·.name)).Nodup
  values : ∀ n o fs, s.shape? n = some (.input o fs) → ∀ f ∈ fs, ∀ v, f.default? = some (.value v) →
    v.HasType s f.type

theorem sizeOf_entry {fs : List InputValue} {g : InputValue → Option Value} {f : InputValue} (hf : f ∈ fs)
    {v : Value} (hv : g f = some v) : sizeOf v < sizeOf (Value.record (entriesOf fs g)) := by
  have hmem : (f.name, v) ∈ entriesOf fs g := List.mem_filterMap.mpr ⟨f, hf, by rw [hv]; rfl⟩
  have hlt := List.sizeOf_lt_of_mem hmem
  simp only [Prod.mk.sizeOf_spec, Value.record.sizeOf_spec] at hlt ⊢
  omega

theorem sizeOf_item {xs : List Value} {v : Value} (hv : v ∈ xs) : sizeOf v < sizeOf (Value.list xs) := by
  have hlt := List.sizeOf_lt_of_mem hv
  simp only [Value.list.sizeOf_spec]
  omega

theorem Schema.HasTypedInputs.record {s : Schema} (h : s.HasTypedInputs) {n : String} {oneOf : Bool}
    {fs : List InputValue} {es : Entries Value} {fields : List (Unit × String × Constant)}
    (hs : s.shape? n = some (.input oneOf fs))
    (hes : Literal.objectEntries
      (Literal.fieldMeanings s [] (s.fieldDefault (s.types.length + 1)) fields)
      (s.fieldDefault (s.types.length + 1) n) fs = some es)
    (hone : oneOf = true → Literal.hasOneValue es = true)
    (ih : ∀ (w : Value) (l : Constant) (t : TypeRef), sizeOf w < sizeOf (Value.record es) →
      l.valueWith s [] (s.fieldDefault (s.types.length + 1)) t = some w → w.HasType s t) :
    (Value.record es).HasType s (.named n) := by
  obtain ⟨g, hg, rfl⟩ := Literal.objectEntries_eq hes
  refine .record hs (fun f hf w hw => ?_) (fun f hf hnone => ?_) hone
  · have hlt := sizeOf_entry hf hw
    have hfield := hg f hf
    rw [hw] at hfield
    rcases Literal.of_objectField hfield with ⟨given, hgiven, hvalue⟩ | ⟨-, hdefault⟩
    · rw [Literal.fieldMeanings_eq_map] at hgiven
      obtain ⟨x, -, rfl⟩ := List.mem_map.mp hgiven
      exact ih w x.2.2 f.type hlt hvalue
    · rw [h.settled.fieldDefault hs (h.distinct n oneOf fs hs) hf, InputValue.default] at hdefault
      obtain ⟨d, hd, hvalue⟩ := Option.bind_eq_some_iff.mp hdefault
      cases d with
      | written l => exact ih w l f.type hlt hvalue
      | value x =>
        obtain rfl := Option.some.inj hvalue
        exact h.values n oneOf fs hs f hf x hd
  · have hfield := hg f hf
    rw [hnone] at hfield
    obtain ⟨hnullable, hdefault⟩ := Literal.of_objectField_none hfield
    refine ⟨hnullable, ?_⟩
    rcases hdefault with hdefault | hdefault
    · rw [InputValue.default, hdefault, Option.bind_none]
    · rwa [h.settled.fieldDefault hs (h.distinct n oneOf fs hs) hf] at hdefault

/-- What a constant means at a type is a value of the type. -/
theorem Schema.HasTypedInputs.hasType {s : Schema} (h : s.HasTypedInputs) (v : Value) (l : Constant) (t : TypeRef)
    (hv : l.valueWith s [] (s.fieldDefault (s.types.length + 1)) t = some v) : v.HasType s t := by
  by_cases hnull : l = .null ()
  · subst hnull
    obtain ⟨rfl, ht⟩ := Literal.valueWith_null hv
    exact .null ht
  match t, hv with
  | .nonNull t, hv =>
    rw [Literal.valueWith_nonNull hnull] at hv
    exact .nonNull (Literal.valueWith_ne_null hnull hv) (h.hasType v l t hv)
  | .list t, hv =>
    obtain ⟨xs, rfl, hxs⟩ := Literal.items_valueWith hnull hv
    refine .list fun x hx => ?_
    have hlt := sizeOf_item hx
    rcases hxs x hx with ⟨l', hl'⟩ | ⟨rfl, ht⟩
    · exact h.hasType x l' t hl'
    · exact .null ht
  | .named n, hv =>
    rcases Literal.valueWith_named hnull hv with
      ⟨shape, hs, hleaf⟩ | ⟨fields, oneOf, fs, es, rfl, hs, hes, hone, rfl⟩
    · exact .leaf hs hleaf (Literal.leafValue_ne_null hnull hleaf)
    · exact h.record hs hes hone fun w l t hlt hw => h.hasType w l t hw
termination_by (sizeOf v, sizeOf t)

end Subgraph
