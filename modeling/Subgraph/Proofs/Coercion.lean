import Subgraph.Proofs.Lists
import Subgraph.Schema.Coercion

/-!
# What coercion reads of a schema

Values and literals meet a schema only through the shapes of the types below their own type. When
another schema has these shapes with rewritten defaults, a value is written the same way, and a
literal has the same value as long as the defaults that it may fall back on mean the same.
-/

namespace Subgraph

variable {μ : Type}

theorem Entries.has_eq_isSome {α : Type} (es : Entries α) (n : String) :
    es.has n = (es.get? n).isSome := by
  induction es with
  | nil => rfl
  | cons e r ih =>
    obtain ⟨m, a⟩ := e
    rw [Entries.get?_cons]
    by_cases h : n = m
    · simp [Entries.has, h]
    · have hm : (m == n) = false := beq_eq_false_iff_ne.mpr (Ne.symm h)
      simpa [Entries.has, h, hm] using ih

theorem TypeRef.base_nullable (t : TypeRef) : t.nullable.base = t.base := by
  cases t <;> rfl

/-- The schema `s'` has the types of `s` that `known` accepts, and `change` tells how the
arguments and input fields of these differ. Known input types refer to known types only. -/
structure Schema.Rebuilt (change : InputValue → InputValue) (known : String → Prop)
    (s s' : Schema) : Prop where
  shape : ∀ n, known n → s'.shape? n = (s.shape? n).map (·.mapInputs change)
  name : ∀ v, (change v).name = v.name
  type : ∀ v, (change v).type = v.type
  inside : ∀ n o fs, known n → s.shape? n = some (.input o fs) → ∀ f ∈ fs, known f.type.base

theorem TypeShape.mapInputs_id (t : TypeShape) : t.mapInputs (fun v => v) = t := by
  cases t <;> simp [TypeShape.mapInputs]

theorem Schema.Rebuilt.of_types {s s' : Schema} (h : s'.types = s.types) :
    Schema.Rebuilt (fun v => v) (fun _ => True) s s' where
  shape := by
    intro n _
    have hid : (fun t : TypeShape => t.mapInputs fun v => v) = id :=
      funext fun t => t.mapInputs_id
    have hsame : s'.shape? n = s.shape? n := by simp only [Schema.shape?, Schema.type?, h]
    rw [hsame, hid, Option.map_id, id]
  name := fun _ => rfl
  type := fun _ => rfl
  inside := by simp

section Writing
variable {change : InputValue → InputValue} {known : String → Prop} {s s' : Schema}

namespace Value

theorem itemLiterals_eq_map (s : Schema) (xs : List Value) :
    itemLiterals s xs = xs.map (literal? s) := by
  induction xs with
  | nil => rfl
  | cons x xs ih => rw [itemLiterals, ih, List.map_cons]

theorem entryLiterals_eq_map (s : Schema) (es : List (String × Value)) :
    entryLiterals s es = es.map fun e => (e.1, literal? s e.2) := by
  induction es with
  | nil => rfl
  | cons e es ih => rw [entryLiterals, ih, List.map_cons]

theorem unwritableItems_eq_map (s : Schema) (xs : List Value) :
    unwritableItems s xs = xs.map (unwritable? s) := by
  induction xs with
  | nil => rfl
  | cons x xs ih => rw [unwritableItems, ih, List.map_cons]

theorem unwritableEntries_eq_map (s : Schema) (es : List (String × Value)) :
    unwritableEntries s es = es.map fun e => (e.1, unwritable? s e.2) := by
  induction es with
  | nil => rfl
  | cons e es ih => rw [unwritableEntries, ih, List.map_cons]

/-- How a value is written at a type that is no list and no input object. -/
def leafAt (isIdentifier : Bool) (v : Value) : Option TypeShape → Option Constant
  | some (.enum _) => leafLiteral? true false v
  | some (.scalar _) => leafLiteral? false isIdentifier v
  | _ => none

theorem leafAt_rebuilt (h : Schema.Rebuilt change known s s') {n : String} (hn : known n)
    (isIdentifier : Bool) (v : Value) :
    leafAt isIdentifier v (s'.shape? n) = leafAt isIdentifier v (s.shape? n) := by
  rw [h.shape n hn]
  cases s.shape? n with
  | none => rfl
  | some shape => cases shape <;> rfl

mutual

theorem literal?_rebuilt (h : Schema.Rebuilt change known s s') :
    ∀ (v : Value) (t : TypeRef), known t.base → literal? s' v t = literal? s v t
  | .null, t, _ => by simp only [literal?]
  | .list xs, t, ht => by
    simp only [literal?, itemLiterals_eq_map, List.filterMap_map]
    cases hn : t.nullable with
    | list item =>
      have hitem : known item.base := by
        have hbase : item.base = t.base := by rw [← t.base_nullable, hn]; rfl
        rw [hbase]
        exact ht
      have heq : xs.filterMap ((fun f => f item) ∘ literal? s')
          = xs.filterMap ((fun f => f item) ∘ literal? s) :=
        filterMap_eq_of_mem fun x hx => itemLiterals_rebuilt h xs x hx item hitem
      simp only [heq]
    | named n => rfl
    | nonNull u => rfl
  | .record es, t, ht => by
    have hbase : known t.nullable.base := by rw [t.base_nullable]; exact ht
    simp only [literal?, entryLiterals_eq_map, lookup_map_values]
    rw [h.shape _ hbase]
    cases hs : s.shape? t.nullable.base with
    | none => rfl
    | some shape =>
      cases shape with
      | input o fs =>
        simp only [Option.map_some, TypeShape.mapInputs, List.filterMap_map]
        have heq : ∀ f ∈ fs,
            ((fun f => (((es.lookup f.name).map (literal? s')).bind (· f.type)).map
              fun l => ((), f.name, l)) ∘ change) f
            = (((es.lookup f.name).map (literal? s)).bind (· f.type)).map
              fun l => ((), f.name, l) := by
          intro f hf
          have hknown : known f.type.base := h.inside _ o fs hbase hs f hf
          simp only [Function.comp_apply, h.name, h.type]
          cases he : es.lookup f.name with
          | none => rfl
          | some v =>
            have hv := entryLiterals_rebuilt h es (f.name, v) (mem_of_lookup he) f.type hknown
            simp only [Option.map_some, Option.bind_some]
            rw [hv]
        rw [filterMap_eq_of_mem heq]
      | _ => rfl
  | .bool b, t, ht => leafAt_rebuilt h ht _ (.bool b)
  | .int n, t, ht => leafAt_rebuilt h ht _ (.int n)
  | .float d, t, ht => leafAt_rebuilt h ht _ (.float d)
  | .text w, t, ht => leafAt_rebuilt h ht _ (.text w)
  | .object k as, t, ht => leafAt_rebuilt h ht _ (.object k as)
  | .failure f, t, ht => leafAt_rebuilt h ht _ (.failure f)
  | .missing, t, ht => leafAt_rebuilt h ht _ (.missing)

theorem itemLiterals_rebuilt (h : Schema.Rebuilt change known s s') :
    ∀ (xs : List Value), ∀ x ∈ xs, ∀ t : TypeRef, known t.base → literal? s' x t = literal? s x t
  | [], x, hx, _, _ => by cases hx
  | y :: ys, x, hx, t, ht => by
    rcases List.mem_cons.mp hx with hy | hx
    · rw [hy]
      exact literal?_rebuilt h y t ht
    · exact itemLiterals_rebuilt h ys x hx t ht

theorem entryLiterals_rebuilt (h : Schema.Rebuilt change known s s') :
    ∀ (es : List (String × Value)), ∀ e ∈ es, ∀ t : TypeRef, known t.base →
      literal? s' e.2 t = literal? s e.2 t
  | [], e, he, _, _ => by cases he
  | (n, v) :: r, e, he, t, ht => by
    rcases List.mem_cons.mp he with hv | he
    · rw [hv]
      exact literal?_rebuilt h v t ht
    · exact entryLiterals_rebuilt h r e he t ht

end

mutual

theorem unwritable?_rebuilt (h : Schema.Rebuilt change known s s') :
    ∀ (v : Value) (t : TypeRef), known t.base → unwritable? s' v t = unwritable? s v t
  | .list xs, t, ht => by
    simp only [unwritable?, unwritableItems_eq_map, List.findSome?_map]
    cases hn : t.nullable with
    | list item =>
      have hitem : known item.base := by
        have hbase : item.base = t.base := by rw [← t.base_nullable, hn]; rfl
        rw [hbase]
        exact ht
      exact findSome?_eq_of_mem fun x hx => unwritableItems_rebuilt h xs x hx item hitem
    | named n => rfl
    | nonNull u => rfl
  | .record es, t, ht => by
    have hbase : known t.nullable.base := by rw [t.base_nullable]; exact ht
    simp only [unwritable?, unwritableEntries_eq_map, lookup_map_values]
    rw [h.shape _ hbase]
    cases hs : s.shape? t.nullable.base with
    | none => rfl
    | some shape =>
      cases shape with
      | input o fs =>
        simp only [Option.map_some, TypeShape.mapInputs, List.findSome?_map]
        refine findSome?_eq_of_mem fun f hf => ?_
        have hknown : known f.type.base := h.inside _ o fs hbase hs f hf
        simp only [Function.comp_apply, h.name, h.type]
        cases he : es.lookup f.name with
        | none => rfl
        | some v =>
          simp only [Option.map_some, Option.bind_some]
          exact unwritableEntries_rebuilt h es (f.name, v) (mem_of_lookup he) f.type hknown
      | _ => rfl
  | .null, t, _ => by simp only [unwritable?]
  | .float d, t, _ => by simp only [unwritable?]
  | .bool _, t, _ => by simp only [unwritable?]
  | .int _, t, _ => by simp only [unwritable?]
  | .text _, t, _ => by simp only [unwritable?]
  | .object _ _, t, _ => by simp only [unwritable?]
  | .failure _, t, _ => by simp only [unwritable?]
  | .missing, t, _ => by simp only [unwritable?]

theorem unwritableItems_rebuilt (h : Schema.Rebuilt change known s s') :
    ∀ (xs : List Value), ∀ x ∈ xs, ∀ t : TypeRef, known t.base →
      unwritable? s' x t = unwritable? s x t
  | [], x, hx, _, _ => by cases hx
  | y :: ys, x, hx, t, ht => by
    rcases List.mem_cons.mp hx with hy | hx
    · rw [hy]
      exact unwritable?_rebuilt h y t ht
    · exact unwritableItems_rebuilt h ys x hx t ht

theorem unwritableEntries_rebuilt (h : Schema.Rebuilt change known s s') :
    ∀ (es : List (String × Value)), ∀ e ∈ es, ∀ t : TypeRef, known t.base →
      unwritable? s' e.2 t = unwritable? s e.2 t
  | [], e, he, _, _ => by cases he
  | (n, v) :: r, e, he, t, ht => by
    rcases List.mem_cons.mp he with hv | he
    · rw [hv]
      exact unwritable?_rebuilt h v t ht
    · exact unwritableEntries_rebuilt h r e he t ht

end

end Value
end Writing

namespace Literal

mutual

/-- Every variable in a literal is accepted. -/
def VariablesIn (ok : String → Prop) : Literal μ → Prop
  | .variable _ n => ok n
  | .list _ xs => ItemVariablesIn ok xs
  | .object _ fs => FieldVariablesIn ok fs
  | _ => True

def ItemVariablesIn (ok : String → Prop) : List (Literal μ) → Prop
  | [] => True
  | x :: xs => x.VariablesIn ok ∧ ItemVariablesIn ok xs

def FieldVariablesIn (ok : String → Prop) : List (μ × String × Literal μ) → Prop
  | [] => True
  | (_, _, v) :: r => v.VariablesIn ok ∧ FieldVariablesIn ok r

end

mutual

theorem variablesIn_true : ∀ l : Literal μ, l.VariablesIn fun _ => True
  | .variable _ _ => trivial
  | .list _ xs => itemVariablesIn_true xs
  | .object _ fs => fieldVariablesIn_true fs
  | .int _ _ => trivial
  | .float _ _ => trivial
  | .string _ _ _ => trivial
  | .bool _ _ => trivial
  | .null _ => trivial
  | .enum _ _ => trivial

theorem itemVariablesIn_true : ∀ xs : List (Literal μ), ItemVariablesIn (fun _ => True) xs
  | [] => trivial
  | x :: xs => ⟨variablesIn_true x, itemVariablesIn_true xs⟩

theorem fieldVariablesIn_true :
    ∀ fs : List (μ × String × Literal μ), FieldVariablesIn (fun _ => True) fs
  | [] => trivial
  | (_, _, v) :: r => ⟨variablesIn_true v, fieldVariablesIn_true r⟩

end

theorem itemMeanings_eq_map (s : Schema) (vars : Variables)
    (defaults : String → String → Option Value) (xs : List (Literal μ)) :
    itemMeanings s vars defaults xs
      = xs.map fun x => (isMissing vars x, valueWith s vars defaults x) := by
  induction xs with
  | nil => rfl
  | cons x xs ih => rw [itemMeanings, ih, List.map_cons]

theorem fieldMeanings_eq_map (s : Schema) (vars : Variables)
    (defaults : String → String → Option Value) (fs : List (μ × String × Literal μ)) :
    fieldMeanings s vars defaults fs = fs.map fun f =>
      ⟨f.2.1, !isMissing vars f.2.2, valueWith s vars defaults f.2.2⟩ := by
  induction fs with
  | nil => rfl
  | cons f fs ih => rw [fieldMeanings, ih, List.map_cons]

/-- What stands in an input object for one field: a given value, a default, or nothing. -/
def objectField? (given : List FieldMeaning) (defaults : String → Option Value) (f : InputValue) :
    Option (Option Value) :=
  match given.reverse.find? (·.name == f.name) with
  | some g => if g.isGiven then some <$> g.value? f.type else objectEntries.absent defaults f
  | none => objectEntries.absent defaults f

theorem objectEntries_cons (given : List FieldMeaning) (defaults : String → Option Value)
    (f : InputValue) (fs : List InputValue) :
    objectEntries given defaults (f :: fs)
      = (objectField? given defaults f).bind fun entry =>
          (objectEntries given defaults fs).bind fun rest =>
            some (match entry with
              | some v => (f.name, v) :: rest
              | none => rest) := by
  simp only [objectEntries, objectField?]
  cases given.reverse.find? (·.name == f.name) with
  | none => rfl
  | some g =>
    cases hg : g.isGiven with
    | true => simp only [hg, if_true]; rfl
    | false => simp only [hg]; rfl

end Literal

section Reading
variable {change : InputValue → InputValue} {known ok : String → Prop} {s s' : Schema}
  {vars vars' : Variables} {defaults defaults' : String → String → Option Value}

/-- Two ways to read literals differ in the schema, the variables and the defaults of input
fields, but not in what literals of known types with accepted variables mean. -/
structure SameReading (change : InputValue → InputValue) (known ok : String → Prop)
    (s s' : Schema) (vars vars' : Variables)
    (defaults defaults' : String → String → Option Value) : Prop where
  rebuilt : Schema.Rebuilt change known s s'
  bindings : ∀ n, ok n → vars'.get? n = vars.get? n
  absent : ∀ n o fs, known n → s.shape? n = some (.input o fs) → ∀ f ∈ fs,
    Literal.objectEntries.absent (defaults' n) (change f)
      = Literal.objectEntries.absent (defaults n) f

namespace Literal

theorem isMissing_same (h : ∀ n, ok n → vars'.get? n = vars.get? n) {l : Literal μ}
    (hl : l.VariablesIn ok) : isMissing vars' l = isMissing vars l := by
  match l with
  | .variable _ n => rw [isMissing, isMissing, Entries.has_eq_isSome, Entries.has_eq_isSome, h n hl]
  | .list .. | .object .. | .int .. | .float .. | .string .. | .bool .. | .null .. | .enum .. => rfl

mutual

theorem plainValue_same (h : ∀ n, ok n → vars'.get? n = vars.get? n) :
    ∀ l : Literal μ, l.VariablesIn ok → l.plainValue vars' = l.plainValue vars
  | .variable _ n, hl => by rw [plainValue, plainValue, h n hl]
  | .list _ xs, hl => by rw [plainValue, plainValue, plainItems_same h xs hl]
  | .object _ fs, hl => by rw [plainValue, plainValue, plainFields_same h fs hl]
  | .int _ _, _ => rfl
  | .float _ _, _ => rfl
  | .string _ _ _, _ => rfl
  | .bool _ _, _ => rfl
  | .null _, _ => rfl
  | .enum _ _, _ => rfl

theorem plainItems_same (h : ∀ n, ok n → vars'.get? n = vars.get? n) :
    ∀ xs : List (Literal μ), ItemVariablesIn ok xs → plainItems vars' xs = plainItems vars xs
  | [], _ => rfl
  | x :: xs, ⟨hx, hxs⟩ => by
    rw [plainItems, plainItems, plainValue_same h x hx, plainItems_same h xs hxs]

theorem plainFields_same (h : ∀ n, ok n → vars'.get? n = vars.get? n) :
    ∀ fs : List (μ × String × Literal μ), FieldVariablesIn ok fs →
      plainFields vars' fs = plainFields vars fs
  | [], _ => rfl
  | (_, _, v) :: r, ⟨hv, hr⟩ => by
    rw [plainFields, plainFields, plainValue_same h v hv, plainFields_same h r hr]

end

theorem leafValue?_same (h : ∀ n, ok n → vars'.get? n = vars.get? n) {l : Literal μ}
    (hl : l.VariablesIn ok) (n : String) (shape : TypeShape) :
    leafValue? vars' n shape l = leafValue? vars n shape l := by
  cases shape with
  | scalar url =>
    have hplain := plainValue_same h l hl
    simp only [leafValue?]
    split <;> first | rfl | rw [hplain]
  | _ => rfl

theorem leafValue?_mapInputs (f : InputValue → InputValue) (n : String) (shape : TypeShape)
    (l : Literal μ) : leafValue? vars n (shape.mapInputs f) l = leafValue? vars n shape l := by
  cases shape <;> rfl

theorem leafAtName_same
    (h : SameReading change known ok s s' vars vars' defaults defaults') {l : Literal μ}
    (hl : l.VariablesIn ok) {n : String} (hn : known n) :
    ((s'.shape? n).bind fun shape => leafValue? vars' n shape l)
      = (s.shape? n).bind fun shape => leafValue? vars n shape l := by
  rw [h.rebuilt.shape n hn]
  cases s.shape? n with
  | none => rfl
  | some shape =>
    simp only [Option.map_some, Option.bind_some]
    rw [leafValue?_mapInputs, leafValue?_same h.bindings hl]

theorem throughType_eq (isNull : Bool) {items items' : Option (TypeRef → Option Value)}
    {atName atName' : String → Option Value} :
    ∀ t : TypeRef,
      (∀ u : TypeRef, u.base = t.base → items'.map (· u) = items.map (· u)) →
      atName' t.base = atName t.base →
      throughType isNull items' atName' t = throughType isNull items atName t
  | .named n, _, hn => by
    simp only [throughType]
    rw [show atName' n = atName n from hn]
  | .nonNull t, hi, hn => by
    have ih := throughType_eq isNull t hi hn
    simp only [throughType, ih]
  | .list t, hi, hn => by
    have ih := throughType_eq isNull t hi hn
    have ht := hi t rfl
    simp only [throughType, ih]
    cases items with
    | none =>
      cases items' with
      | none => rfl
      | some f' => cases ht
    | some f =>
      cases items' with
      | none => cases ht
      | some f' =>
        have hf : f' t = f t := Option.some.inj ht
        simp only [hf]

theorem objectEntries_same {given given' : List FieldMeaning}
    {defaults defaults' : String → Option Value} (hname : ∀ v, (change v).name = v.name) :
    ∀ fields : List InputValue,
      (∀ f ∈ fields, objectField? given' defaults' (change f) = objectField? given defaults f) →
      objectEntries given' defaults' (fields.map change) = objectEntries given defaults fields
  | [], _ => rfl
  | f :: fs, h => by
    have hf := h f List.mem_cons_self
    have ih := objectEntries_same hname fs
      fun g hg => h g (List.mem_cons_of_mem f hg)
    rw [List.map_cons, objectEntries_cons, objectEntries_cons, hf, ih, hname]

mutual

theorem valueWith_same (h : SameReading change known ok s s' vars vars' defaults defaults') :
    ∀ (l : Literal μ), l.VariablesIn ok → ∀ t : TypeRef, known t.base →
      valueWith s' vars' defaults' l t = valueWith s vars defaults l t
  | .variable _ n, hl, t, _ => by
    simp only [valueWith, h.bindings n hl]
  | .null _, _, t, _ => by simp only [valueWith]
  | .list m xs, hl, t, ht => by
    simp only [valueWith]
    refine throughType_eq false t (fun u hu => ?_) (leafAtName_same h hl ht)
    have hitem : known u.base := by rw [hu]; exact ht
    simp only [Option.map_some, itemMeanings_eq_map, listValue?, mapM_map_option]
    have heq : ∀ x ∈ xs,
        (if isMissing vars' x then (if u.isNonNull then none else some .null)
          else valueWith s' vars' defaults' x u)
        = if isMissing vars x then (if u.isNonNull then none else some .null)
          else valueWith s vars defaults x u := by
      intro x hx
      obtain ⟨hmissing, hvalue⟩ := Prod.mk.inj (itemValues_same h xs hl x hx u hitem)
      rw [hmissing, hvalue]
    rw [mapM_eq_of_mem heq]
  | .object m fs, hl, t, ht => by
    simp only [valueWith]
    refine throughType_eq false t (fun u hu => rfl) ?_
    rw [h.rebuilt.shape _ ht]
    cases hs : s.shape? t.base with
    | none => rfl
    | some shape =>
      cases shape with
      | input o fields =>
        have hentry : ∀ f ∈ fields,
            objectField? (fieldMeanings s' vars' defaults' fs) (defaults' t.base) (change f)
              = objectField? (fieldMeanings s vars defaults fs) (defaults t.base) f := by
          intro f hf
          have hknown : known f.type.base := h.rebuilt.inside _ o fields ht hs f hf
          have habsent := h.absent _ o fields ht hs f hf
          simp only [objectField?, fieldMeanings_eq_map, ← List.map_reverse, List.find?_map,
            h.rebuilt.name, h.rebuilt.type, Function.comp_def, habsent]
          -- Of several given fields of a name the last one counts.
          cases hfind : fs.reverse.find? (fun g => g.2.1 == f.name) with
          | none => rfl
          | some g =>
            have hg : g ∈ fs := List.mem_reverse.mp (List.mem_of_find?_eq_some hfind)
            obtain ⟨hmissing, hvalue⟩ :=
              Prod.mk.inj (fieldValues_same h fs hl g hg f.type hknown)
            simp only [Option.map_some, hmissing, hvalue]
        simp only [Option.map_some, Option.bind_some, TypeShape.mapInputs, objectValue?]
        rw [objectEntries_same h.rebuilt.name fields hentry]
      | scalar url => exact leafValue?_same h.bindings hl t.base (.scalar url)
      | _ => rfl
  | .int m d, hl, t, ht => throughType_eq false t (fun _ _ => rfl) (leafAtName_same h hl ht)
  | .float m d, hl, t, ht => throughType_eq false t (fun _ _ => rfl) (leafAtName_same h hl ht)
  | .string m w b, hl, t, ht => throughType_eq false t (fun _ _ => rfl) (leafAtName_same h hl ht)
  | .bool m b, hl, t, ht => throughType_eq false t (fun _ _ => rfl) (leafAtName_same h hl ht)
  | .enum m n, hl, t, ht => throughType_eq false t (fun _ _ => rfl) (leafAtName_same h hl ht)

theorem itemValues_same (h : SameReading change known ok s s' vars vars' defaults defaults') :
    ∀ (xs : List (Literal μ)), ItemVariablesIn ok xs → ∀ x ∈ xs, ∀ t : TypeRef, known t.base →
      (isMissing vars' x, valueWith s' vars' defaults' x t)
        = (isMissing vars x, valueWith s vars defaults x t)
  | [], _, x, hx, _, _ => by cases hx
  | y :: ys, ⟨hy, hys⟩, x, hx, t, ht => by
    rcases List.mem_cons.mp hx with heq | hx
    · rw [heq, isMissing_same h.bindings hy, valueWith_same h y hy t ht]
    · exact itemValues_same h ys hys x hx t ht

theorem fieldValues_same (h : SameReading change known ok s s' vars vars' defaults defaults') :
    ∀ (fs : List (μ × String × Literal μ)), FieldVariablesIn ok fs → ∀ f ∈ fs, ∀ t : TypeRef,
      known t.base → (isMissing vars' f.2.2, valueWith s' vars' defaults' f.2.2 t)
        = (isMissing vars f.2.2, valueWith s vars defaults f.2.2 t)
  | [], _, f, hf, _, _ => by cases hf
  | (_, _, v) :: r, ⟨hv, hr⟩, f, hf, t, ht => by
    rcases List.mem_cons.mp hf with heq | hf
    · rw [heq, isMissing_same h.bindings hv, valueWith_same h v hv t ht]
    · exact fieldValues_same h r hr f hf t ht

end

end Literal
end Reading

section SameTypes
variable {s s' : Schema}

theorem SameReading.of_types (h : s'.types = s.types) (vars : Variables)
    (defaults : String → String → Option Value) :
    SameReading (fun v => v) (fun _ => True) (fun _ => True) s s' vars vars defaults defaults where
  rebuilt := .of_types h
  bindings := fun _ _ => rfl
  absent := fun _ _ _ _ _ _ _ => rfl

theorem Schema.fieldDefault_of_types (h : s'.types = s.types) (depth : Nat) :
    s'.fieldDefault depth = s.fieldDefault depth := by
  induction depth with
  | zero => rfl
  | succ depth ih =>
    funext typeName fieldName
    have hshape : s'.shape? typeName = s.shape? typeName := by
      simp only [Schema.shape?, Schema.type?, h]
    have hvalue : ∀ (l : Constant) (t : TypeRef),
        l.valueWith s' [] (s.fieldDefault depth) t = l.valueWith s [] (s.fieldDefault depth) t :=
      fun l t => Literal.valueWith_same (.of_types h [] _) l l.variablesIn_true t trivial
    simp only [Schema.fieldDefault, hshape, ih, hvalue]

theorem InputValue.default_of_types (h : s'.types = s.types) (v : InputValue) :
    v.default s' = v.default s := by
  have hvalue : ∀ l : Constant, l.coerce? s' [] v.type = l.coerce? s [] v.type := by
    intro l
    rw [Literal.coerce?, Literal.coerce?, h, Schema.fieldDefault_of_types h]
    exact Literal.valueWith_same (.of_types h [] _) l l.variablesIn_true v.type trivial
  simp only [InputValue.default, hvalue]

end SameTypes

end Subgraph
