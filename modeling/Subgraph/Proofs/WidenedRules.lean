import Subgraph.Proofs.Widening
import Subgraph.Query.Validate

/-!
# Rules in wide and narrow schemas

A rule has the same issues at a place of a document for a schema and for one that widens it, as long
as the names that stand there are shared: literals, arguments and directives are held against the
same inputs, selections against the same fields, and fragments against the same objects.
-/

namespace Subgraph

section Inputs
variable {s s' : Schema}

theorem InputValue.isRequired_evaluated (v : InputValue) :
    (v.evaluated s).isRequired s' = v.isRequired s := by
  rw [InputValue.isRequired, InputValue.isRequired, v.default_evaluated]
  rfl

theorem filter_required_evaluated (s s' : Schema) (vs : List InputValue) (given : String → Bool) :
    (vs.map (·.evaluated s)).filter (fun v => v.isRequired s' && !given v.name)
      = (vs.filter fun v => v.isRequired s && !given v.name).map (·.evaluated s) := by
  rw [List.filter_map]
  congr 1
  refine List.filter_congr fun v _ => ?_
  rw [Function.comp_apply, v.isRequired_evaluated]
  rfl

end Inputs

namespace Query

/-- The fields of an input object with the values of their defaults. -/
def evaluatedFields (s : Schema) (f : String × Bool × List InputValue) :
    String × Bool × List InputValue :=
  (f.1, f.2.1, f.2.2.map (·.evaluated s))

/-- A place for an input of a known type, or for anything. -/
def Known (s : Schema) (t : Option TypeRef) : Prop :=
  ∀ u ∈ t, (s.shape? u.base).any TypeShape.isInput = true

def KnownFields (s : Schema) (f : Option (String × Bool × List InputValue)) : Prop :=
  ∀ g ∈ f, ∀ v ∈ g.2.2, (s.shape? v.type.base).any TypeShape.isInput = true

section Known
variable {s s' : Schema} {t : Option TypeRef}

theorem itemType_base (t : TypeRef) : (itemType t).base = t.base := by
  unfold itemType
  split
  · next item h => rw [← t.base_nullable, h]; rfl
  · exact t.base_nullable

theorem Known.item (h : Known s t) : Known s (t.map itemType) := by
  intro u hu
  obtain ⟨w, hw, rfl⟩ := Option.map_eq_some_iff.mp hu
  rw [itemType_base]
  exact h w hw

theorem Known.none : Known s none := fun _ h => by cases h

theorem KnownFields.none : KnownFields s none := fun _ h => by cases h

theorem known_inputType? (t : TypeRef) : Known s (s.inputType? t) := by
  intro u hu
  unfold Schema.inputType? at hu
  split at hu
  · next h => cases hu; exact h
  · cases hu

theorem KnownFields.field {f : Option (String × Bool × List InputValue)} (h : KnownFields s f)
    (n : String) : Known s (f.bind fun f => (f.2.2.find? (·.name == n)).map (·.type)) := by
  intro u hu
  obtain ⟨g, hg, hu⟩ := Option.bind_eq_some_iff.mp hu
  obtain ⟨v, hv, rfl⟩ := Option.map_eq_some_iff.mp hu
  exact h g hg v (List.mem_of_find?_eq_some hv)

end Known

section Evaluated
variable {s s' : Schema} (h : s.Evaluates s')
include h

theorem inputFields?_evaluated {t : Option TypeRef} (ht : Known s t) :
    inputFields? s' t = (inputFields? s t).map (evaluatedFields s) := by
  cases t with
  | none => rfl
  | some t =>
    simp only [inputFields?, Option.bind_some, h.shape t.base (ht t rfl)]
    cases s.shape? t.base with
    | none => rfl
    | some shape => cases shape <;> rfl

theorem knownFields_inputFields? {t : Option TypeRef} (ht : Known s t) :
    KnownFields s (inputFields? s t) := by
  intro g hg v hv
  obtain ⟨u, rfl, hshape⟩ := Option.bind_eq_some_iff.mp hg
  cases hs : s.shape? u.base with
  | none => rw [hs] at hshape; cases hshape
  | some shape =>
    rw [hs] at hshape
    cases shape with
    | input o fs =>
      cases hshape
      exact h.inside u.base o fs (ht u rfl) hs v hv
    | _ => cases hshape

theorem leafIssues_evaluated {t : Option TypeRef} (ht : Known s t) (l : Literal Nat) :
    leafIssues s' t l = leafIssues s t l := by
  cases t with
  | none => rfl
  | some t =>
    simp only [leafIssues, h.shape t.base (ht t rfl)]
    cases s.shape? t.base with
    | none => rfl
    | some shape => cases shape <;> rfl

omit h in
theorem missingFieldIssues_evaluated (mark : Nat) (name : String) (fields : List InputValue)
    (given : List String) :
    missingFieldIssues s' mark name (fields.map (·.evaluated s)) given
      = missingFieldIssues s mark name fields given := by
  rw [missingFieldIssues, missingFieldIssues, filter_required_evaluated, List.map_map]
  rfl

omit h in
theorem entryIssues_evaluated (fields? : Option (String × Bool × List InputValue))
    (earlier : List (Nat × String)) (mark : Nat) (name : String) :
    entryIssues (fields?.map (evaluatedFields s)) earlier mark name
      = entryIssues fields? earlier mark name := by
  cases fields? with
  | none => rfl
  | some f =>
    obtain ⟨type, oneOf, fs⟩ := f
    simp only [entryIssues, Option.map_some, evaluatedFields, List.any_map, List.map_map]
    rfl

end Evaluated

section Literals
variable {s s' : Schema}

mutual

theorem literalIssues_evaluated (h : s.Evaluates s') (checked : Bool) :
    ∀ (t : Option TypeRef), Known s t → ∀ l : Literal Nat,
      literalIssues s' checked t l = literalIssues s checked t l
  | t, ht, .list m xs => by
    simp only [literalIssues, leafIssues_evaluated h ht.item, itemIssues_evaluated h checked _ ht.item xs,
      itemIssues_evaluated h false none .none xs]
  | t, ht, .object m fs => by
    have hfields := knownFields_inputFields? h ht
    have hnone : fieldIssues s' false none [] fs = fieldIssues s false none [] fs :=
      fieldIssues_evaluated h false none .none [] fs
    simp only [literalIssues, inputFields?_evaluated h ht, leafIssues_evaluated h ht, hnone]
    cases hf : inputFields? s t with
    | none => rfl
    | some f =>
      rw [hf] at hfields
      have hinner := fieldIssues_evaluated h checked (some f) hfields [] fs
      simp only [Option.map_some, evaluatedFields] at hinner ⊢
      rw [hinner, missingFieldIssues_evaluated]
  | t, _, .variable .. => by simp only [literalIssues]
  | t, _, .null m => by simp only [literalIssues]
  | t, ht, .int m d => by simp only [literalIssues, leafIssues_evaluated h ht]
  | t, ht, .float m d => by simp only [literalIssues, leafIssues_evaluated h ht]
  | t, ht, .string m w b => by simp only [literalIssues, leafIssues_evaluated h ht]
  | t, ht, .bool m b => by simp only [literalIssues, leafIssues_evaluated h ht]
  | t, ht, .enum m n => by simp only [literalIssues, leafIssues_evaluated h ht]

theorem itemIssues_evaluated (h : s.Evaluates s') (checked : Bool) (t : Option TypeRef) (ht : Known s t) :
    ∀ xs : List (Literal Nat), itemIssues s' checked t xs = itemIssues s checked t xs
  | [] => rfl
  | x :: xs => by
    rw [itemIssues, itemIssues, literalIssues_evaluated h checked t ht x,
      itemIssues_evaluated h checked t ht xs]

theorem fieldIssues_evaluated (h : s.Evaluates s') (checked : Bool)
    (fields? : Option (String × Bool × List InputValue)) (hf : KnownFields s fields?) (earlier : List (Nat × String)) :
    ∀ fs : List (Nat × String × Literal Nat),
      fieldIssues s' checked (fields?.map (evaluatedFields s)) earlier fs
        = fieldIssues s checked fields? earlier fs
  | [] => rfl
  | (m, n, v) :: r => by
    have htype : ((fields?.map (evaluatedFields s)).bind
        fun f => (f.2.2.find? (·.name == n)).map (·.type))
        = fields?.bind fun f => (f.2.2.find? (·.name == n)).map (·.type) := by
      cases fields? with
      | none => rfl
      | some f =>
        simp only [Option.map_some, Option.bind_some, evaluatedFields, List.find?_map, Option.map_map]
        rfl
    have hentry : entryIssues (if checked then fields?.map (evaluatedFields s) else none) earlier m n
        = entryIssues (if checked then fields? else none) earlier m n := by
      cases checked
      · rfl
      · exact entryIssues_evaluated fields? earlier m n
    simp only [fieldIssues, htype, hentry,
      literalIssues_evaluated h checked _ (hf.field n) v, fieldIssues_evaluated h checked fields? hf _ r]

end

mutual

theorem literalUses_evaluated (h : s.Evaluates s') (hasDefault : Bool) (oneOf? : Option String) :
    ∀ (t : Option TypeRef), Known s t → ∀ l : Literal Nat,
      literalUses s' hasDefault oneOf? t l = literalUses s hasDefault oneOf? t l
  | t, ht, .list m xs => by
    simp only [literalUses, itemUses_evaluated h _ ht.item xs]
  | t, ht, .object m fs => by
    simp only [literalUses, inputFields?_evaluated h ht,
      fieldUses_evaluated h _ (knownFields_inputFields? h ht) fs]
  | t, _, .variable .. => by simp only [literalUses]
  | t, _, .null m => by simp only [literalUses]
  | t, _, .int m d => by simp only [literalUses]
  | t, _, .float m d => by simp only [literalUses]
  | t, _, .string m w b => by simp only [literalUses]
  | t, _, .bool m b => by simp only [literalUses]
  | t, _, .enum m n => by simp only [literalUses]

theorem itemUses_evaluated (h : s.Evaluates s') (t : Option TypeRef) (ht : Known s t) :
    ∀ xs : List (Literal Nat), itemUses s' t xs = itemUses s t xs
  | [] => rfl
  | x :: xs => by
    rw [itemUses, itemUses, literalUses_evaluated h false none t ht x, itemUses_evaluated h t ht xs]

theorem fieldUses_evaluated (h : s.Evaluates s')
    (fields? : Option (String × Bool × List InputValue)) (hf : KnownFields s fields?) :
    ∀ fs : List (Nat × String × Literal Nat),
      fieldUses s' (fields?.map (evaluatedFields s)) fs = fieldUses s fields? fs
  | [] => rfl
  | (m, n, v) :: r => by
    have hfind : ((fields?.map (evaluatedFields s)).bind fun f => f.2.2.find? (·.name == n))
        = (fields?.bind fun f => f.2.2.find? (·.name == n)).map (·.evaluated s) := by
      cases fields? with
      | none => rfl
      | some f =>
        simp only [Option.map_some, Option.bind_some, evaluatedFields, List.find?_map]
        rfl
    have honeOf : ((fields?.map (evaluatedFields s)).bind
        fun f => if f.2.1 then some f.1 else none)
        = fields?.bind fun f => if f.2.1 then some f.1 else none := by
      cases fields? <;> rfl
    have htype := hf.field n
    have hsplit : (fields?.bind fun f => (f.2.2.find? (·.name == n)).map (·.type))
        = (fields?.bind fun f => f.2.2.find? (·.name == n)).map (·.type) := by
      cases fields? <;> rfl
    rw [hsplit] at htype
    simp only [fieldUses, hfind, honeOf, fieldUses_evaluated h fields? hf r]
    generalize (fields?.bind fun f => f.2.2.find? (·.name == n)) = w? at htype
    cases w? with
    | none => simp only [Option.map_none, Option.bind_none, literalUses_evaluated h _ _ none .none v]
    | some w =>
      have hvalue := literalUses_evaluated h (w.default s).isSome
        (fields?.bind fun f => if f.2.1 then some f.1 else none) _ htype v
      simp only [Option.map_some, Option.bind_some, w.default_evaluated] at hvalue ⊢
      rw [← hvalue]
      rfl

end

end Literals
end Query

namespace QueryContext

/-- The document against another schema. -/
def on (c : QueryContext) (s : Schema) : QueryContext := { c with schema := s }

/-- An argument with what is said of it, its default as a value. -/
def evaluatedSite (s : Schema) (a : ArgumentSite) : ArgumentSite := (a.1, a.2.map (·.evaluated s))

/-- A directive of the schema, under a name that no other directive has. -/
structure Knows (c : QueryContext) (d : Directive Nat) : Prop where
  own : c.ownDirectives = []
  found : (c.directive? d.name).isSome = true
  once : (c.schema.directives.filter (·.name == d.name)).length ≤ 1

section On
variable {extra : NamedType → List Field} {shared : String → Prop} {s' : Schema} {c : QueryContext}
  (h : c.schema.Widens extra shared s')
include h

theorem argumentLiteralIssues_on {a : ArgumentSite} (ha : ∀ v ∈ a.2, shared v.type.base) :
    (c.on s').argumentLiteralIssues (evaluatedSite c.schema a) = c.argumentLiteralIssues a := by
  obtain ⟨a, v?⟩ := a
  cases v? with
  | none => exact Query.literalIssues_evaluated h.evaluates true none .none a.value
  | some v =>
    have htype : s'.inputType? v.type = c.schema.inputType? v.type := h.inputType? (ha v rfl)
    show Query.literalIssues s' true (s'.inputType? v.type) a.value
      = Query.literalIssues c.schema true (c.schema.inputType? v.type) a.value
    rw [htype]
    exact Query.literalIssues_evaluated h.evaluates true _ (Query.known_inputType? v.type) a.value

theorem argumentUses_on {a : ArgumentSite} (ha : ∀ v ∈ a.2, shared v.type.base) :
    (c.on s').argumentUses (evaluatedSite c.schema a) = c.argumentUses a := by
  obtain ⟨a, v?⟩ := a
  cases v? with
  | none => exact Query.literalUses_evaluated h.evaluates false none none .none a.value
  | some v =>
    have htype : s'.inputType? v.type = c.schema.inputType? v.type := h.inputType? (ha v rfl)
    have hdefault : (v.evaluated c.schema).default s' = v.default c.schema := v.default_evaluated
    show Query.literalUses s' ((v.evaluated c.schema).default s').isSome none
        (s'.inputType? v.type) a.value
      = Query.literalUses c.schema (v.default c.schema).isSome none (c.schema.inputType? v.type) a.value
    rw [htype, hdefault]
    exact Query.literalUses_evaluated h.evaluates _ none _ (Query.known_inputType? v.type) a.value

section Directives
variable {d : Directive Nat} {ds : List (Directive Nat)}

theorem directive?_on (hd : c.Knows d) :
    (c.on s').directive? d.name = (c.directive? d.name).map (DirectiveType.evaluated c.schema) := by
  have hown : (c.on s').ownDirectives = [] := hd.own
  obtain ⟨t, ht⟩ := Option.isSome_iff_exists.mp hd.found
  rw [directive?, hd.own, List.reverse_nil, List.find?_nil, Option.none_or] at ht
  rw [directive?, directive?, hown, hd.own, List.reverse_nil, List.find?_nil, Option.none_or,
    Option.none_or, ht, Option.map_some]
  exact h.rule d.name t ht

theorem schemaDirective?_on (hd : c.Knows d) :
    s'.directive? d.name = (c.schema.directive? d.name).map (DirectiveType.evaluated c.schema) := by
  obtain ⟨t, ht⟩ := Option.isSome_iff_exists.mp hd.found
  rw [directive?, hd.own, List.reverse_nil, List.find?_nil, Option.none_or] at ht
  have hmem := List.mem_reverse.mp (List.mem_of_find?_eq_some ht)
  have hname := List.find?_some ht
  have hsome : (c.schema.directive? d.name).isSome = true := List.find?_isSome.mpr ⟨t, hmem, hname⟩
  obtain ⟨u, hu⟩ := Option.isSome_iff_exists.mp hsome
  rw [h.directive? d.name u hd.once hu, hu, Option.map_some]

theorem knownDirectiveIssues_on (hd : c.Knows d) (location : String) :
    (c.on s').knownDirectiveIssues location d = c.knownDirectiveIssues location d := by
  rw [knownDirectiveIssues, knownDirectiveIssues, directive?_on h hd]
  cases c.directive? d.name <;> rfl

theorem repeatedDirectiveIssues_on (hds : ∀ d ∈ ds, c.Knows d) :
    (c.on s').repeatedDirectiveIssues ds = c.repeatedDirectiveIssues ds := by
  have honce : ds.filter (fun d => ((c.on s').directive? d.name).any (!·.repeatable))
      = ds.filter fun d => (c.directive? d.name).any (!·.repeatable) := by
    refine List.filter_congr fun d hd => ?_
    rw [directive?_on h (hds d hd)]
    cases c.directive? d.name <;> rfl
  rw [repeatedDirectiveIssues, repeatedDirectiveIssues, honce]

theorem unknownDirectiveArgumentIssues_on (hd : c.Knows d) :
    (c.on s').unknownDirectiveArgumentIssues d = c.unknownDirectiveArgumentIssues d := by
  rw [unknownDirectiveArgumentIssues, unknownDirectiveArgumentIssues, directive?_on h hd]
  cases c.directive? d.name with
  | none => rfl
  | some t =>
    simp only [Option.map_some, DirectiveType.evaluated, List.any_map, List.map_map]
    rfl

theorem requiredDirectiveArgumentIssues_on (hd : c.Knows d) :
    (c.on s').requiredDirectiveArgumentIssues d = c.requiredDirectiveArgumentIssues d := by
  rw [requiredDirectiveArgumentIssues, requiredDirectiveArgumentIssues, directive?_on h hd]
  cases c.directive? d.name with
  | none => rfl
  | some t =>
    have hrequired := filter_required_evaluated c.schema s' t.arguments
      fun n => d.arguments.any (·.name == n)
    simp only [Option.map_some, DirectiveType.evaluated]
    rw [show (c.on s').schema = s' from rfl, hrequired, List.map_map]
    rfl

theorem directiveArguments_on (hds : ∀ d ∈ ds, c.Knows d) :
    (c.on s').directiveArguments ds = (c.directiveArguments ds).map (evaluatedSite c.schema) := by
  rw [directiveArguments, directiveArguments, List.map_flatMap]
  refine flatMap_eq_of_mem fun d hd => ?_
  rw [List.map_map]
  refine List.map_congr_left fun a _ => ?_
  rw [show (c.on s').schema = s' from rfl, schemaDirective?_on h (hds d hd), Function.comp_apply,
    evaluatedSite]
  cases c.schema.directive? d.name with
  | none => rfl
  | some t =>
    simp only [Option.map_some, Option.bind_some, DirectiveType.evaluated, List.find?_map]
    rfl

theorem directiveArguments_shared {a : ArgumentSite} (ha : a ∈ c.directiveArguments ds) :
    ∀ v ∈ a.2, shared v.type.base := by
  obtain ⟨d, -, ha⟩ := List.mem_flatMap.mp ha
  obtain ⟨b, -, rfl⟩ := List.mem_map.mp ha
  intro v hv
  obtain ⟨t, ht, hv⟩ := Option.bind_eq_some_iff.mp hv
  exact h.shared_input (h.wellFormed.directives t (List.mem_of_find?_eq_some ht) v
    (List.mem_of_find?_eq_some hv))

theorem directiveIssues_on (hd : c.Knows d) (location : String) :
    (c.on s').directiveIssues location d = c.directiveIssues location d := by
  have hone : ∀ d' ∈ [d], c.Knows d' := fun d' hd' => List.mem_singleton.mp hd' ▸ hd
  have harguments : ((c.on s').directiveArguments [d]).flatMap (c.on s').argumentLiteralIssues
      = (c.directiveArguments [d]).flatMap c.argumentLiteralIssues := by
    rw [directiveArguments_on h hone, List.flatMap_map]
    exact flatMap_eq_of_mem fun a ha => argumentLiteralIssues_on h (directiveArguments_shared h ha)
  rw [directiveIssues, directiveIssues, knownDirectiveIssues_on h hd,
    unknownDirectiveArgumentIssues_on h hd, harguments, requiredDirectiveArgumentIssues_on h hd]

theorem directivesIssues_on (hds : ∀ d ∈ ds, c.Knows d) (location : String) :
    (c.on s').directivesIssues location ds = c.directivesIssues location ds :=
  flatMap_eq_of_mem fun d hd => directiveIssues_on h (hds d hd) location

end Directives
end On
end QueryContext
end Subgraph
