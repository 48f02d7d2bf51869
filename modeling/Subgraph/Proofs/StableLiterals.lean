import Subgraph.Proofs.FloatDigits
import Subgraph.Proofs.LiteralText
import Subgraph.Proofs.TypedValues

/-!
# Literals that are written again

A default is written as a literal from which a reader makes a value of his own, since a number without a
fraction is an integer to him whatever it was before. A literal is stable at a type if the reader's value
is written as this literal again.
-/

namespace Subgraph

namespace Literal

mutual
/-- The literal that is read where a literal is written. -/
def reread : Constant → Constant
  | .float m s => if isWholeText s then .int m s else .float m s
  | .list m xs => .list m (rereadItems xs)
  | .object m fs => .object m (rereadFields fs)
  | l => l
def rereadItems : List Constant → List Constant
  | [] => []
  | x :: xs => x.reread :: rereadItems xs
def rereadFields : List (Unit × String × Constant) → List (Unit × String × Constant)
  | [] => []
  | (m, n, v) :: r => (m, n, v.reread) :: rereadFields r
end

theorem rereadItems_eq_map (xs : List Constant) : rereadItems xs = xs.map reread := by
  induction xs with
  | nil => rfl
  | cons x xs ih => rw [rereadItems, ih, List.map_cons]

theorem rereadFields_eq_map (fs : List (Unit × String × Constant)) :
    rereadFields fs = fs.map fun f => (f.1, f.2.1, f.2.2.reread) := by
  induction fs with
  | nil => rfl
  | cons f fs ih => rw [rereadFields, ih, List.map_cons]

mutual

theorem print_reread : ∀ l : Constant, l.reread.print = l.print
  | .float m s => by
    rw [reread]
    split <;> rfl
  | .list m xs => by rw [reread, print, print, printItems_reread xs]
  | .object m fs => by rw [reread, print, print, printFields_reread fs]
  | .variable .. => rfl
  | .int .. => rfl
  | .string .. => rfl
  | .bool .. => rfl
  | .null .. => rfl
  | .enum .. => rfl

theorem printItems_reread : ∀ xs : List Constant, printItems (rereadItems xs) = printItems xs
  | [] => rfl
  | x :: xs => by rw [rereadItems, printItems, printItems, print_reread x, printItems_reread xs]

theorem printFields_reread : ∀ fs : List (Unit × String × Constant),
    printFields (rereadFields fs) = printFields fs
  | [] => rfl
  | (m, n, v) :: r => by rw [rereadFields, printFields, printFields, print_reread v, printFields_reread r]

end

mutual

theorem depth_reread : ∀ l : Constant, l.reread.depth = l.depth
  | .float m s => by
    rw [reread]
    split <;> rfl
  | .list m xs => by rw [reread, depth, depth, itemsDepth_reread xs]
  | .object m fs => by rw [reread, depth, depth, fieldsDepth_reread fs]
  | .variable .. => rfl
  | .int .. => rfl
  | .string .. => rfl
  | .bool .. => rfl
  | .null .. => rfl
  | .enum .. => rfl

theorem itemsDepth_reread : ∀ xs : List Constant, itemsDepth (rereadItems xs) = itemsDepth xs
  | [] => rfl
  | x :: xs => by rw [rereadItems, itemsDepth, itemsDepth, depth_reread x, itemsDepth_reread xs]

theorem fieldsDepth_reread : ∀ fs : List (Unit × String × Constant),
    fieldsDepth (rereadFields fs) = fieldsDepth fs
  | [] => rfl
  | (m, n, v) :: r => by rw [rereadFields, fieldsDepth, fieldsDepth, depth_reread v, fieldsDepth_reread r]

end

theorem reread_eq_null : ∀ {l : Constant}, l.reread = .null () → l = .null ()
  | .null _, _ => rfl
  | .float _ s, h => by
    rw [reread] at h
    split at h <;> cases h

theorem itemsWritable_iff {xs : List Constant} : ItemsWritable xs ↔ ∀ x ∈ xs, x.IsWritable := by
  induction xs with
  | nil => simp [ItemsWritable]
  | cons x xs ih => rw [ItemsWritable, ih, List.forall_mem_cons]

theorem fieldsWritable_iff {fs : List (Unit × String × Constant)} :
    FieldsWritable fs ↔ ∀ f ∈ fs, Token.isName f.2.1 = true ∧ f.2.2.IsWritable := by
  induction fs with
  | nil => simp [FieldsWritable]
  | cons f fs ih => rw [FieldsWritable, ih, List.forall_mem_cons, and_assoc]

/-- What a literal means at a type where no input field has a default. -/
def meaning (s : Schema) (t : TypeRef) (l : Constant) : Value :=
  (l.valueWith s [] (fun _ _ => none) t).getD .null

/-- A literal means the same at a type whatever the defaults are, and what it means can be written and is
written as the literal. -/
structure IsStable (s : Schema) (l : Constant) (t : TypeRef) : Prop where
  read : ∀ defaults, l.valueWith s [] defaults t = some (l.meaning s t)
  writable : (l.meaning s t).unwritable? s t = none
  written : ((l.meaning s t).literal? s t).map reread = some l

section Stable
variable {s : Schema} {l : Constant} {t : TypeRef} {n : String}

theorem IsStable.of_value {v : Value} (hread : ∀ defaults, l.valueWith s [] defaults t = some v)
    (hwritable : v.unwritable? s t = none) (hwritten : (v.literal? s t).map reread = some l) :
    l.IsStable s t := by
  have hv : l.meaning s t = v := by rw [meaning, hread, Option.getD_some]
  exact ⟨fun defaults => by rw [hread, hv], by rw [hv, hwritable], by rw [hv, hwritten]⟩

theorem stable_null (ht : t.isNonNull = false) : (Literal.null ()).IsStable s t := by
  refine .of_value (v := .null) (fun defaults => ?_) (by cases t <;> rfl) ?_
  · cases t with
    | nonNull t => cases ht
    | list t => rfl
    | named n => rfl
  · simp [Value.literal?, ht, reread]

theorem unwritable?_nonNull (v : Value) (ht : t.isNonNull = false) :
    v.unwritable? s (.nonNull t) = v.unwritable? s t := by
  cases t with
  | nonNull t => cases ht
  | list t => cases v <;> rfl
  | named n => cases v <;> rfl

theorem literal?_nonNull {v : Value} (hv : v ≠ .null) (ht : t.isNonNull = false) :
    v.literal? s (.nonNull t) = v.literal? s t := by
  cases v with
  | null => exact absurd rfl hv
  | _ =>
    cases t with
    | nonNull t => cases ht
    | list t => rfl
    | named n => rfl

theorem IsStable.nonNull (h : l.IsStable s t) (hl : l ≠ .null ()) (ht : t.isNonNull = false) :
    l.IsStable s (.nonNull t) := by
  have hv : l.meaning s t ≠ .null := valueWith_ne_null hl (h.read fun _ _ => none)
  refine .of_value (v := l.meaning s t) (fun defaults => ?_) ?_ ?_
  · rw [valueWith_nonNull hl, h.read]
  · rw [unwritable?_nonNull _ ht, h.writable]
  · rw [literal?_nonNull hv ht, h.written]

theorem IsStable.not_missing : ∀ {l : Constant}, l.IsStable s t → isMissing [] l = false
  | .variable _ n, h => by cases (valueWith_variable n t).symm.trans (h.read fun _ _ => none)
  | .int .., _ => rfl
  | .float .., _ => rfl
  | .string .., _ => rfl
  | .bool .., _ => rfl
  | .null .., _ => rfl
  | .enum .., _ => rfl
  | .list .., _ => rfl
  | .object .., _ => rfl

theorem stable_list {ls : List Constant} (h : ∀ l ∈ ls, l.IsStable s t) :
    (Literal.list () ls).IsStable s (.list t) := by
  refine .of_value (v := .list (ls.map (meaning s t))) (fun defaults => ?_) ?_ ?_
  · have hitems : (ls.map fun l => (isMissing [] l, l.valueWith s [] defaults)).mapM
        (fun x : Bool × (TypeRef → Option Value) =>
          if x.1 then (if t.isNonNull then none else some .null) else x.2 t)
        = some (ls.map (meaning s t)) := by
      induction ls with
      | nil => rfl
      | cons l ls ih =>
        have hl := h l List.mem_cons_self
        rw [List.map_cons, List.mapM_cons, ih fun k hk => h k (List.mem_cons_of_mem l hk)]
        simp [hl.not_missing, hl.read defaults]
    rw [valueWith_items, listValue?]
    exact congrArg (·.bind fun vs => some (Value.list vs)) hitems
  · simp only [Value.unwritable?, TypeRef.nullable, Value.unwritableItems_eq_map, List.findSome?_map,
      List.findSome?_eq_none_iff]
    exact fun l hl => (h l hl).writable
  · have hwritten : ((ls.map (meaning s t)).filterMap fun v => v.literal? s t).map reread = ls := by
      induction ls with
      | nil => rfl
      | cons l ls ih =>
        obtain ⟨k, hk, hkl⟩ := Option.map_eq_some_iff.mp (h l List.mem_cons_self).written
        rw [List.map_cons, List.filterMap_cons, hk]
        simp only [List.map_cons, hkl, ih fun k hk => h k (List.mem_cons_of_mem _ hk)]
    simp only [Value.literal?, TypeRef.nullable, Value.itemLiterals_eq_map, List.filterMap_map,
      Option.map_some, reread, rereadItems_eq_map]
    exact congrArg (fun xs => some (Literal.list () xs)) (by simpa [List.filterMap_map] using hwritten)

theorem stable_leaf {v : Value} {shape : TypeShape} (hs : s.shape? n = some shape) (hl : l ≠ .null ())
    (hobject : ∀ fs, l ≠ .object () fs) (hmissing : isMissing [] l = false)
    (hvalue : leafValue? [] n shape l = some v) (hwritable : v.unwritable? s (.named n) = none)
    (hwritten : (v.literal? s (.named n)).map reread = some l) : l.IsStable s (.named n) := by
  refine .of_value (fun defaults => ?_) hwritable hwritten
  rw [valueWith_leaf hl hobject, hmissing, if_neg Bool.false_ne_true, hs]
  exact hvalue

section Objects
variable {fs : List InputValue}

theorem find?_fields {β : Type} {k : InputValue → Option β} {p : β → String}
    (hdistinct : (fs.map (·.name)).Nodup) (hname : ∀ f ∈ fs, ∀ b, k f = some b → p b = f.name)
    {f : InputValue} (hf : f ∈ fs) : (fs.filterMap k).find? (p · == f.name) = k f := by
  induction fs with
  | nil => cases hf
  | cons e fs ih =>
    rw [List.map_cons, List.nodup_cons] at hdistinct
    have hmore := fun k hk => hname k (List.mem_cons_of_mem e hk)
    have hother : ∀ g ∈ fs, e.name ≠ g.name := fun g hg heq =>
      hdistinct.1 (List.mem_map.mpr ⟨g, hg, heq.symm⟩)
    rcases List.mem_cons.mp hf with rfl | hf
    · cases hk : k f with
      | some b =>
        have hb : (p b == f.name) = true := beq_iff_eq.mpr (hname f List.mem_cons_self b hk)
        rw [List.filterMap_cons, hk, List.find?_cons, hb]
      | none =>
        rw [List.filterMap_cons, hk, List.find?_eq_none]
        intro b hb hfound
        obtain ⟨g, hg, hgb⟩ := List.mem_filterMap.mp hb
        exact hother g hg ((eq_of_beq hfound).symm.trans (hmore g hg b hgb))
    · cases hk : k e with
      | some b =>
        have hb : (p b == f.name) = false := by
          rw [hname e List.mem_cons_self b hk]
          exact beq_eq_false_iff_ne.mpr (hother f hf)
        rw [List.filterMap_cons, hk, List.find?_cons, hb]
        exact ih hdistinct.2 hmore hf
      | none =>
        rw [List.filterMap_cons, hk]
        exact ih hdistinct.2 hmore hf

/-- The fields of an object literal, in the order of its type. -/
def fieldsOf (fs : List InputValue) (k : InputValue → Option Constant) : List (Unit × String × Constant) :=
  fs.filterMap fun f => (k f).map fun l => ((), f.name, l)

theorem reread_fieldsOf (k : InputValue → Option Constant) : (Literal.object () (fieldsOf fs k)).reread
    = .object () (fieldsOf fs fun f => (k f).map reread) := by
  rw [reread, rereadFields_eq_map, fieldsOf, fieldsOf, List.map_filterMap]
  simp only [Option.map_map]
  rfl

theorem fieldsWritable_fieldsOf {k : InputValue → Option Constant}
    (hname : ∀ f ∈ fs, Token.isName f.name = true)
    (h : ∀ f ∈ fs, ∀ l, k f = some l → l.IsWritable) : FieldsWritable (fieldsOf fs k) := by
  rw [fieldsWritable_iff]
  intro x hx
  obtain ⟨f, hf, hfx⟩ := List.mem_filterMap.mp hx
  obtain ⟨l, hl, rfl⟩ := Option.map_eq_some_iff.mp hfx
  exact ⟨hname f hf, h f hf l hl⟩

theorem objectField?_fieldsOf {defaults : String → String → Option Value}
    {fieldDefaults : String → Option Value}
    {k : InputValue → Option Constant} (hdistinct : (fs.map (·.name)).Nodup) {f f' : InputValue} (hf : f ∈ fs)
    (hname : f'.name = f.name) (htype : f'.type = f.type)
    (given : ∀ l, k f = some l → l.IsStable s f.type)
    (absent : k f = none → f.type.isNonNull = false ∧ f'.default? = none) :
    objectField? (fieldMeanings s [] defaults (fieldsOf fs k)) fieldDefaults f'
      = some ((k f).map (meaning s f.type)) := by
  have hmeanings : (fieldMeanings s [] defaults (fieldsOf fs k)).reverse
      = fs.reverse.filterMap fun f => (k f).map fun l =>
          (⟨f.name, !isMissing [] l, l.valueWith s [] defaults⟩ : FieldMeaning) := by
    rw [fieldMeanings_eq_map, fieldsOf, List.map_filterMap, List.filterMap_reverse]
    simp only [Option.map_map]
    rfl
  have hfind : (fieldMeanings s [] defaults (fieldsOf fs k)).reverse.find? (·.name == f'.name)
      = (k f).map fun l => ⟨f.name, !isMissing [] l, l.valueWith s [] defaults⟩ := by
    rw [hmeanings, hname]
    refine find?_fields (p := FieldMeaning.name) ?_ (fun f _ b hb => ?_) (List.mem_reverse.mpr hf)
    · rw [List.map_reverse, List.nodup_reverse]
      exact hdistinct
    · obtain ⟨l, -, rfl⟩ := Option.map_eq_some_iff.mp hb
      rfl
  rw [objectField?, hfind]
  cases hk : k f with
  | some l =>
    have hl := given l hk
    simp only [Option.map_some, hl.not_missing, Bool.not_false, if_true, htype, hl.read]
    rfl
  | none =>
    obtain ⟨hnull, hdefault⟩ := absent hk
    simp [objectEntries.absent, hdefault, htype, hnull]

/-- An input object has one value if one of its fields has one and this is not null. -/
theorem hasOneValue_entriesOf (g : InputValue → Option Value) : hasOneValue (entriesOf fs g) = true
    ↔ (fs.filter fun f => (g f).isSome).length = 1 ∧ ∀ f ∈ fs, g f ≠ some .null := by
  have hlength : (entriesOf fs g).length = (fs.filter fun f => (g f).isSome).length := by
    rw [entriesOf, List.length_filterMap_eq_countP, List.countP_eq_length_filter]
    simp
  have hnull : (∀ e ∈ entriesOf fs g, e.2 ≠ .null) ↔ ∀ f ∈ fs, g f ≠ some .null := by
    constructor
    · intro h f hf hg
      exact h (f.name, .null) (List.mem_filterMap.mpr ⟨f, hf, by rw [hg]; rfl⟩) rfl
    · intro h e he
      obtain ⟨f, hf, hfe⟩ := List.mem_filterMap.mp he
      obtain ⟨v, hv, rfl⟩ := Option.map_eq_some_iff.mp hfe
      rintro rfl
      exact h f hf hv
  rw [← hlength, ← hnull]
  rcases entriesOf fs g with _ | ⟨⟨n, v⟩, _ | ⟨e, es⟩⟩
  · simp [hasOneValue]
  · cases v <;> simp [hasOneValue]
  · simp [hasOneValue]

theorem objectEntries_map {given : List FieldMeaning} {defaults : String → Option Value}
    {r : InputValue → InputValue} (hname : ∀ f, (r f).name = f.name) {g : InputValue → Option Value}
    (h : ∀ f ∈ fs, objectField? given defaults (r f) = some (g f)) :
    objectEntries given defaults (fs.map r) = some (entriesOf fs g) := by
  induction fs with
  | nil => rfl
  | cons f fs ih =>
    rw [List.map_cons, objectEntries_cons, h f List.mem_cons_self,
      ih fun k hk => h k (List.mem_cons_of_mem f hk)]
    cases hg : g f with
    | some v => simp [entriesOf, hg, hname]
    | none => simp [entriesOf, hg]

/-- An object is stable if its fields are, and no field that it leaves out has a default. -/
theorem stable_object {o : Bool} {r : InputValue → InputValue} {k : InputValue → Option Constant}
    (hs : s.shape? n = some (.input o (fs.map r))) (hname : ∀ f, (r f).name = f.name)
    (htype : ∀ f, (r f).type = f.type) (hdistinct : (fs.map (·.name)).Nodup)
    (given : ∀ f ∈ fs, ∀ l, k f = some l → l.IsStable s f.type)
    (absent : ∀ f ∈ fs, k f = none → f.type.isNonNull = false ∧ (r f).default? = none)
    (one : o = true → (fs.filter fun f => (k f).isSome).length = 1 ∧ ∀ f ∈ fs, k f ≠ some (.null ())) :
    (Literal.object () (fieldsOf fs k)).IsStable s (.named n) := by
  let g : InputValue → Option Value := fun f => (k f).map (meaning s f.type)
  have hget : ∀ f ∈ fs, (entriesOf fs g).lookup f.name = g f := fun f hf => get?_entriesOf hdistinct g hf
  refine .of_value (v := .record (entriesOf fs g)) (fun defaults => ?_) ?_ ?_
  -- What the object means does not hang on the defaults.
  · have hone : (o && !hasOneValue (entriesOf fs g)) = false := by
      cases o with
      | false => rfl
      | true =>
        obtain ⟨hlength, hnull⟩ := one rfl
        rw [(hasOneValue_entriesOf g).mpr ⟨by simpa [g] using hlength, fun f hf hg => ?_⟩]
        · rfl
        · obtain ⟨l, hl, hmeaning⟩ := Option.map_eq_some_iff.mp hg
          have hl' : l ≠ .null () := fun heq => hnull f hf (heq ▸ hl)
          exact valueWith_ne_null hl' ((given f hf l hl).read fun _ _ => none) hmeaning
    rw [valueWith_object _ hs, objectEntries_map hname fun f hf =>
      objectField?_fieldsOf hdistinct hf (hname f) (htype f) (given f hf) (absent f hf)]
    simp only [Option.bind_some, hone, Bool.false_eq_true, if_false, g]
  -- All of that can be written.
  · have hnone : ∀ f ∈ fs, ((g f).map (Value.unwritable? s)).bind (· f.type) = none := by
      intro f hf
      cases hk : k f with
      | none => simp [g, hk]
      | some l => simpa [g, hk] using (given f hf l hk).writable
    simp only [Value.unwritable?, TypeRef.nullable, TypeRef.base, hs, Value.unwritableEntries_eq_map,
      lookup_map_values, List.findSome?_map, List.findSome?_eq_none_iff, Function.comp_apply, hname, htype]
    intro f hf
    rw [hget f hf]
    exact hnone f hf
  -- It is written as the object is.
  · have hfields : ((fs.map r).filterMap fun f =>
        (((entriesOf fs g).lookup f.name).map (Value.literal? s)).bind (· f.type) |>.map
          fun l => ((), f.name, l)).map (fun f => (f.1, f.2.1, f.2.2.reread)) = fieldsOf fs k := by
      rw [List.filterMap_map, List.map_filterMap, fieldsOf]
      refine filterMap_eq_of_mem fun f hf => ?_
      rw [Function.comp_apply, hname, htype, hget f hf, Option.map_map]
      cases hk : k f with
      | none => simp [g, hk]
      | some l =>
        obtain ⟨l', hl', hll⟩ := Option.map_eq_some_iff.mp (given f hf l hk).written
        simp [g, hk, hl', hll]
    simp only [Value.literal?, TypeRef.nullable, TypeRef.base, hs, Value.entryLiterals_eq_map,
      lookup_map_values, Option.map_some, reread, rereadFields_eq_map]
    exact congrArg (fun xs => some (Literal.object () xs)) hfields

end Objects

end Stable
end Literal
end Subgraph
