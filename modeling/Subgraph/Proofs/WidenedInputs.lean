import Subgraph.Proofs.Representations
import Subgraph.Proofs.Selecting
import Subgraph.Proofs.WidenedRules

/-!
# Inputs in wide and narrow schemas

Where no default leads back to itself, a schema that widens another one gives arguments and
variables the values that the narrow one gives them: it has the same inputs, and the values of their
defaults are those that the narrow schema reads.
-/

namespace Subgraph

namespace Schema
variable {s : Schema}

/-- No default leads back to itself: those of the types need no more than one step for each type. -/
def Settled (s : Schema) : Prop :=
  s.fieldDefault (s.types.length + 1) = s.fieldDefault s.types.length

theorem fieldDefault_of_input {n : String} {o : Bool} {fs : List InputValue}
    (hs : s.shape? n = some (.input o fs)) (hdistinct : (fs.map (·.name)).Nodup) {f : InputValue}
    (hf : f ∈ fs) (depth : Nat) : s.fieldDefault (depth + 1) n f.name = f.default?.bind fun
      | .written l => l.valueWith s [] (s.fieldDefault depth) f.type
      | .value v => some v := by
  have hfind : fs.find? (·.name == f.name) = some f := find?_of_mem hdistinct hf
  rw [fieldDefault, hs]
  cases hd : f.default? with
  | none => simp [hfind, hd]
  | some d => cases d <;> simp [hfind, hd]

theorem Settled.fieldDefault (h : s.Settled) {n : String} {o : Bool} {fs : List InputValue}
    (hs : s.shape? n = some (.input o fs)) (hdistinct : (fs.map (·.name)).Nodup) {f : InputValue}
    (hf : f ∈ fs) : s.fieldDefault (s.types.length + 1) n f.name = f.default s := by
  rw [fieldDefault_of_input hs hdistinct hf, ← h]
  rfl

theorem settled_of_no_defaults
    (h : ∀ t ∈ s.types, ∀ o fs, t.shape = .input o fs → ∀ f ∈ fs, f.default? = none) :
    s.Settled := by
  have hnone : ∀ depth n m, s.fieldDefault depth n m = none := by
    intro depth n m
    cases depth with
    | zero => rfl
    | succ depth =>
      rw [fieldDefault]
      cases hs : s.shape? n with
      | none => rfl
      | some shape =>
        cases shape with
        | input o fs =>
          obtain ⟨t, ht, -, hshape⟩ := mem_of_shape? hs
          simp only [Option.bind_eq_bind, Option.bind_some]
          cases hf : fs.find? (·.name == m) with
          | none => rfl
          | some f =>
            rw [Option.bind_some, h t ht o fs hshape f (List.mem_of_find?_eq_some hf)]
            rfl
        | _ => rfl
  funext n m
  rw [hnone, hnone]

end Schema

namespace Input

theorem throughType_same (v : Value) {items items' : Option (TypeRef → Path → CoercedInput)}
    {atName atName' : String → Path → CoercedInput} :
    ∀ (t : TypeRef) (path : Path),
      (∀ u : TypeRef, u.base = t.base → items'.map (· u) = items.map (· u)) →
      atName' t.base = atName t.base →
      throughType v items' atName' t path = throughType v items atName t path
  | .named n, path, _, hn => by
    simp only [throughType, show atName' n = atName n from hn]
  | .nonNull t, path, hi, hn => by
    have ih := throughType_same v t path hi hn
    simp only [throughType, ih]
  | .list t, path, hi, hn => by
    have ih := throughType_same v t path hi hn
    have ht := hi t rfl
    cases items with
    | none =>
      cases items' with
      | none => simp only [throughType, ih]
      | some f' => cases ht
    | some f =>
      cases items' with
      | none => cases ht
      | some f' => simp only [throughType, show f' t = f t from Option.some.inj ht]

theorem coerceEntries_eq_map (s : Schema) (es : List (String × Value)) :
    coerceEntries s es = es.map fun e => (e.1, coerce s e.2) := by
  induction es with
  | nil => rfl
  | cons e es ih => rw [coerceEntries, ih, List.map_cons]

theorem listInput_map (xs : List Value) (f : Value → Coercer) (t : TypeRef) (path : Path) :
    listInput (xs.map f) t path =
      let rs := xs.zipIdx.map fun x => f x.1 t (path ++ [PathStep.index x.2])
      (.list (rs.map (·.1)), rs.flatMap (·.2)) := by
  simp only [listInput, List.zipIdx_map, List.map_map]
  rfl

section Evaluated
variable {s s' : Schema}

theorem fieldInput_evaluated {given given' : List (String × Coercer)} {f : InputValue}
    (hgiven : (given'.lookup f.name).map (· f.type) = (given.lookup f.name).map (· f.type))
    (whole : Value) (path : Path) :
    fieldInput s' given' whole path (f.evaluated s) = fieldInput s given whole path f := by
  have hname : (f.evaluated s).name = f.name := rfl
  have htype : (f.evaluated s).type = f.type := rfl
  rw [fieldInput, fieldInput, hname, htype, f.default_evaluated]
  cases hg : given.lookup f.name with
  | none =>
    cases hg' : given'.lookup f.name with
    | none => rfl
    | some g' => rw [hg, hg'] at hgiven; cases hgiven
  | some g =>
    cases hg' : given'.lookup f.name with
    | none => rw [hg, hg'] at hgiven; cases hgiven
    | some g' =>
      rw [hg, hg'] at hgiven
      simp only [show g' f.type = g f.type from Option.some.inj hgiven]

theorem unknownInputs_evaluated (n : String) (fs : List InputValue) (given : List String)
    (whole : Value) (path : Path) :
    unknownInputs n (fs.map (·.evaluated s)) given whole path
      = unknownInputs n fs given whole path := by
  have hnames : (fs.map (·.evaluated s)).map (·.name) = fs.map (·.name) := by
    rw [List.map_map]
    rfl
  have hany : ∀ m, (fs.map (·.evaluated s)).any (·.name == m) = fs.any (·.name == m) := by
    intro m
    rw [List.any_map]
    rfl
  simp only [unknownInputs, hnames, hany]

end Evaluated

section Widened
variable {extra : NamedType → List Field} {shared : String → Prop} {s s' : Schema}

theorem atName_widened (h : s.Widens extra shared s') {n : String} (hn : shared n) (v : Value) (path : Path)
    {object object' : Bool → List InputValue → CoercedInput}
    (hobject : ∀ o fs, s.shape? n = some (.input o fs) →
      object' o (fs.map (·.evaluated s)) = object o fs) :
    (match s'.shape? n with
      | some (.input o fs) => object' o fs
      | some shape => leaf n shape path v
      | none => (.missing, []))
    = match s.shape? n with
      | some (.input o fs) => object o fs
      | some shape => leaf n shape path v
      | none => (.missing, []) := by
  have hs : s'.shape? n = (s.type? n).map fun t => t.shape.widened s (extra t) := h.shape? hn
  have hshape : s.shape? n = (s.type? n).map (·.shape) := rfl
  rw [hs]
  rw [hshape] at hobject ⊢
  cases ht : s.type? n with
  | none => rfl
  | some t =>
    have hinput : ∀ o fs, t.shape = .input o fs →
        object' o (fs.map (·.evaluated s)) = object o fs :=
      fun o fs hts => hobject o fs (by rw [ht, Option.map_some, hts])
    simp only [Option.map_some]
    cases hts : t.shape with
    | input o fs => exact hinput o fs hts
    | _ => rfl

theorem leafInput_widened (h : s.Widens extra shared s') (v : Value) {t : TypeRef} (ht : shared t.base) (path : Path) :
    throughType v none (fun n path => match s'.shape? n with
      | some (.input ..) => notMapping n v path
      | some shape => leaf n shape path v
      | none => (.missing, [])) t path
    = throughType v none (fun n path => match s.shape? n with
      | some (.input ..) => notMapping n v path
      | some shape => leaf n shape path v
      | none => (.missing, [])) t path :=
  throughType_same v t path (fun _ _ => rfl)
    (funext fun path => atName_widened h ht v path fun _ _ _ => rfl)

mutual

theorem coerce_widened (h : s.Widens extra shared s') :
    ∀ (v : Value) (t : TypeRef), shared t.base → ∀ path,
    coerce s' v t path = coerce s v t path
  | .list xs, t, ht, path => by
    simp only [coerce, coerceItems_eq_map]
    refine throughType_same _ t path (fun u hu => ?_) (funext fun path => ?_)
    · refine congrArg some (funext fun path => ?_)
      have hitems : ∀ x ∈ xs.zipIdx,
          coerce s' x.1 u (path ++ [.index x.2]) = coerce s x.1 u (path ++ [.index x.2]) :=
        fun x hx => coerceItems_widened h xs x.1 (List.fst_mem_of_mem_zipIdx hx) u (hu ▸ ht) _
      simp only [listInput_map, List.map_congr_left hitems]
    · exact atName_widened h ht (.list xs) path fun _ _ _ => rfl
  | .record es, t, ht, path => by
    simp only [coerce, coerceEntries_eq_map]
    refine throughType_same _ t path (fun _ _ => rfl) (funext fun path => ?_)
    refine atName_widened h ht (.record es) path fun o fs hs => ?_
    have hfields : ∀ f ∈ fs,
        (fieldInput s' (es.map fun e => (e.1, coerce s' e.2)) (.record es) path ∘
          (·.evaluated s)) f
        = fieldInput s (es.map fun e => (e.1, coerce s e.2)) (.record es) path f := by
      intro f hf
      refine fieldInput_evaluated ?_ _ _
      have hshared : shared f.type.base :=
        h.shared_of_any (h.evaluates.inside t.base o fs (by rw [hs]; rfl) hs f hf)
      rw [lookup_map_values, lookup_map_values, Option.map_map, Option.map_map]
      cases he : es.lookup f.name with
      | none => rfl
      | some v =>
        have hv := coerceEntries_widened h es (f.name, v) (mem_of_lookup he) f.type hshared
        exact congrArg some (funext hv)
    have hnames : ∀ s : Schema, (es.map fun e => (e.1, coerce s e.2)).map (·.1) = es.map (·.1) := by
      intro s
      rw [List.map_map]
      rfl
    simp only [objectInput, List.map_map, List.map_congr_left hfields, hnames,
      unknownInputs_evaluated]
  | .null, t, ht, path => leafInput_widened h .null ht path
  | .bool b, t, ht, path => leafInput_widened h (.bool b) ht path
  | .int n, t, ht, path => leafInput_widened h (.int n) ht path
  | .float d, t, ht, path => leafInput_widened h (.float d) ht path
  | .text w, t, ht, path => leafInput_widened h (.text w) ht path
  | .object k as, t, ht, path => leafInput_widened h (.object k as) ht path
  | .failure f, t, ht, path => leafInput_widened h (.failure f) ht path
  | .missing, t, ht, path => leafInput_widened h .missing ht path

theorem coerceItems_widened (h : s.Widens extra shared s') :
    ∀ (xs : List Value), ∀ x ∈ xs, ∀ t : TypeRef, shared t.base → ∀ path,
    coerce s' x t path = coerce s x t path
  | [], x, hx, _, _, _ => by cases hx
  | y :: ys, x, hx, t, ht, path => by
    rcases List.mem_cons.mp hx with hy | hx
    · rw [hy]
      exact coerce_widened h y t ht path
    · exact coerceItems_widened h ys x hx t ht path

theorem coerceEntries_widened (h : s.Widens extra shared s') :
    ∀ (es : List (String × Value)), ∀ e ∈ es, ∀ t : TypeRef, shared t.base → ∀ path,
    coerce s' e.2 t path = coerce s e.2 t path
  | [], e, he, _, _, _ => by cases he
  | (n, v) :: r, e, he, t, ht, path => by
    rcases List.mem_cons.mp he with hv | he
    · rw [hv]
      exact coerce_widened h v t ht path
    · exact coerceEntries_widened h r e he t ht path

end

end Widened
end Input

/-- A name that is shared and leads to no object type with further fields. -/
def Schema.Bare (extra : NamedType → List Field) (shared : String → Prop) (s : Schema)
    (n : String) : Prop :=
  shared n ∧ ∀ t, s.type? n = some t → t.shape.isObject = true → extra t = []

section Bare
variable {extra : NamedType → List Field} {shared : String → Prop} {s s' : Schema}
  (h : s.Widens extra shared s')
include h

theorem Schema.Widens.bare_of_input {n : String} (hn : (s.shape? n).any TypeShape.isInput = true) :
    s.Bare extra shared n := by
  refine ⟨h.shared_of_any hn, fun t ht hobject => ?_⟩
  rw [Schema.shape?, ht, Option.map_some, Option.any_some] at hn
  cases hshape : t.shape with
  | object is fs => rw [hshape] at hn; cases hn
  | _ => rw [hshape] at hobject; cases hobject

theorem Schema.Widens.bare_of_standard {n : String} (hn : n ∈ standardNames) :
    s.Bare extra shared n := by
  refine ⟨h.standard n hn, fun t ht _ => ?_⟩
  obtain ⟨hmem, rfl⟩ := Schema.mem_of_type? ht
  exact h.standardType t hmem hn

/-- Types without further fields are the same, with the values of their defaults. -/
theorem Schema.Widens.rebuilt :
    Schema.Rebuilt (·.evaluated s) (s.Bare extra shared) s s' where
  shape := by
    rintro n ⟨hn, hbare⟩
    rw [h.shape? hn, Schema.shape?, Option.map_map]
    cases ht : s.type? n with
    | none => rfl
    | some t =>
      have hextra := hbare t ht
      simp only [Option.map_some, Function.comp_apply]
      cases hshape : t.shape with
      | object is fs =>
        rw [hextra (by rw [hshape]; rfl)]
        exact congrArg (fun fs => some (TypeShape.object is fs)) (List.append_nil _)
      | _ => rfl
  name := fun _ => rfl
  type := fun _ => rfl
  inside := fun n o fs _ hs f hf =>
    h.bare_of_input (h.evaluates.inside n o fs (by rw [hs]; rfl) hs f hf)

end Bare

section Reading
variable {extra : NamedType → List Field} {shared : String → Prop} {s s' : Schema}
  (h : s.Widens extra shared s') (hs : s.Settled)
include h hs

theorem Schema.Widens.sameReading (vars : Variables) :
    SameReading (·.evaluated s) (s.Bare extra shared) (fun _ => True) s s' vars vars
      (s.fieldDefault (s.types.length + 1)) (s'.fieldDefault (s'.types.length + 1)) where
  rebuilt := h.rebuilt
  bindings := fun _ _ => rfl
  absent := by
    intro n o fs hn hshape f hf
    obtain ⟨t, ht, rfl, htshape⟩ := Schema.mem_of_shape? hshape
    have hdistinct : (fs.map (·.name)).Nodup := by
      have hdistinct := h.wellFormed.distinct t ht
      rw [htshape] at hdistinct
      exact hdistinct
    have hdistinct' : ((fs.map (·.evaluated s)).map (·.name)).Nodup := by
      rw [List.map_map]
      exact hdistinct
    have hshape' : s'.shape? t.name = some (.input o (fs.map (·.evaluated s))) := by
      rw [h.rebuilt.shape t.name hn, hshape]
      rfl
    have hwide : s'.fieldDefault (s'.types.length + 1) t.name f.name = f.default s := by
      have hfield := Schema.fieldDefault_of_input hshape' hdistinct' (List.mem_map_of_mem hf)
        s'.types.length
      rw [show (f.evaluated s).name = f.name from rfl] at hfield
      rw [hfield, InputValue.evaluated]
      cases f.default s <;> rfl
    have hnarrow := hs.fieldDefault hshape hdistinct hf
    have hname : (f.evaluated s).name = f.name := rfl
    have htype : (f.evaluated s).type = f.type := rfl
    have hdefault : (f.evaluated s).default? = (f.default s).map .value := rfl
    simp only [Literal.objectEntries.absent, hname, htype, hdefault, hwide, hnarrow]
    cases hd : f.default? with
    | none => rw [InputValue.default, hd]; rfl
    | some d => cases f.default s <;> rfl

theorem Schema.Widens.sameArguments {sc : Scope} (hsc : sc.query.schema = s) :
    Scope.SameArguments (·.evaluated s) (s.Bare extra shared) (fun _ => True) sc
      { sc with query := sc.query.on s' } where
  reading := by
    subst hsc
    exact h.sameReading hs sc.bindings
  default := by
    subst hsc
    exact fun v _ => v.default_evaluated

theorem Schema.Widens.coerce? {μ : Type} (l : Literal μ) (vars : Variables) {t : TypeRef}
    (ht : (s.shape? t.base).any TypeShape.isInput = true) :
    l.coerce? s' vars t = l.coerce? s vars t :=
  Literal.valueWith_same (h.sameReading hs vars) l l.variablesIn_true t (h.bare_of_input ht)

theorem Schema.Widens.variableValue (inputs : Entries Value) {d : VariableDefinition Nat}
    (hd : (s.shape? d.type.base).any TypeShape.isInput = true) :
    variableValue s' inputs d = variableValue s inputs d := by
  have hliteral : ∀ l : Literal Nat, l.coerce? s' [] d.type = l.coerce? s [] d.type :=
    fun l => h.coerce? hs l [] hd
  have hinput : ∀ v, Input.coerce s' v d.type [] = Input.coerce s v d.type [] :=
    fun v => Input.coerce_widened h v d.type (h.shared_of_any hd) []
  simp only [Subgraph.variableValue, hliteral, hinput]

theorem Schema.Widens.variableValues (inputs : Entries Value) {ds : List (VariableDefinition Nat)}
    (hds : ∀ d ∈ ds, (s.shape? d.type.base).any TypeShape.isInput = true) :
    variableValues s' inputs ds = variableValues s inputs ds := by
  have hvalues : (ds.map fun d => (d, Subgraph.variableValue s' inputs d))
      = ds.map fun d => (d, Subgraph.variableValue s inputs d) :=
    List.map_congr_left fun d hd => by rw [h.variableValue hs inputs (hds d hd)]
  simp only [Subgraph.variableValues, hvalues]

end Reading
end Subgraph
