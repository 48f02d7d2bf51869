import Subgraph.Proofs.BuiltSchema
import Subgraph.Proofs.RuledDocuments

/-!
# Directives of a document and of the schema that it makes

A type that is declared is made of one definition and of the extensions of it. It keeps the directives
of all of them, in their order, and so does every member. What a declaration shows of a type without
being told comes from the definition alone.
-/

namespace Subgraph

/-- The members of a definition that can carry directives. -/
def TypeBody.applications : TypeBody Unit → List (String × List Applied)
  | .object _ fs => fs.map fun f => (f.name, f.directives)
  | .interface _ fs => fs.map fun f => (f.name, f.directives)
  | .enum vs => vs.map fun v => (v.name, v.directives)
  | .input fs => fs.map fun v => (v.name, v.directives)
  | _ => []

def TypeBody.location : TypeBody Unit → String
  | .scalar => "SCALAR"
  | .object .. => "OBJECT"
  | .interface .. => "INTERFACE"
  | .union _ => "UNION"
  | .enum _ => "ENUM"
  | .input _ => "INPUT_OBJECT"

/-- Where a member can stand. Input fields of extensions count as arguments. -/
def memberLocations : List String :=
  ["FIELD_DEFINITION", "ENUM_VALUE", "ARGUMENT_DEFINITION", "INPUT_FIELD_DEFINITION"]

section Visits
variable {d : TypeDefinition Unit} {m : String × List Applied}

namespace Visit

theorem mem_ofType_directives (isExtension : Bool) :
    ∀ v ∈ ofDirectives d.body.location d.directives, v ∈ ofType isExtension d := by
  intro v hv
  unfold ofType
  cases hb : d.body <;> rw [hb] at hv <;> simp only [List.mem_append] <;> tauto

/-- A walk meets the directives of a member, all together and one by one. -/
structure MeetsMember (ds : List Applied) (location : String) (visits : List Visit) : Prop where
  carrier : .carrier ds ∈ visits
  each : ∀ v ∈ ofDirectives location ds, v ∈ visits

theorem MeetsMember.mono {ds : List Applied} {location : String} {vs ws : List Visit}
    (h : MeetsMember ds location vs) (hsub : ∀ v ∈ vs, v ∈ ws) : MeetsMember ds location ws :=
  ⟨hsub _ h.carrier, fun v hv => hsub v (h.each v hv)⟩

theorem meets_ofField (f : FieldDefinition Unit) :
    MeetsMember f.directives "FIELD_DEFINITION" (ofField f) where
  carrier := List.mem_cons_self
  each := fun _ hv => List.mem_append_right _ (List.mem_cons_of_mem _ hv)

theorem meets_ofEnumValue (v : EnumValueDefinition Unit) :
    MeetsMember v.directives "ENUM_VALUE" (ofEnumValue v) where
  carrier := List.mem_cons_self
  each := fun _ hv => List.mem_cons_of_mem _ hv

theorem meets_ofInput (location : String) (v : InputDefinition Unit) :
    MeetsMember v.directives location (ofInput location v) where
  carrier := List.mem_cons_self
  each := fun _ hv => List.mem_append_right _ hv

theorem mem_ofType_member (isExtension : Bool) (hm : m ∈ d.body.applications) :
    ∃ location ∈ memberLocations, MeetsMember m.2 location (ofType isExtension d) := by
  unfold ofType
  cases hb : d.body with
  | scalar => rw [hb] at hm; cases hm
  | union ms => rw [hb] at hm; cases hm
  | object is fs =>
    rw [hb] at hm
    obtain ⟨f, hf, rfl⟩ := List.mem_map.mp hm
    exact ⟨_, List.mem_cons_self, (meets_ofField f).mono fun v hv =>
      List.mem_append_right _ (List.mem_flatMap.mpr ⟨f, hf, hv⟩)⟩
  | interface is fs =>
    rw [hb] at hm
    obtain ⟨f, hf, rfl⟩ := List.mem_map.mp hm
    exact ⟨_, List.mem_cons_self, (meets_ofField f).mono fun v hv =>
      List.mem_append_right _ (List.mem_flatMap.mpr ⟨f, hf, hv⟩)⟩
  | enum vs =>
    rw [hb] at hm
    obtain ⟨w, hw, rfl⟩ := List.mem_map.mp hm
    exact ⟨"ENUM_VALUE", by decide, (meets_ofEnumValue w).mono fun v hv =>
      List.mem_append_right _ (List.mem_flatMap.mpr ⟨w, hw, hv⟩)⟩
  | input fs =>
    rw [hb] at hm
    obtain ⟨w, hw, rfl⟩ := List.mem_map.mp hm
    refine ⟨_, ?_, (meets_ofInput _ w).mono fun v hv =>
      List.mem_append_right _ (List.mem_flatMap.mpr ⟨w, hw, hv⟩)⟩
    cases isExtension <;> decide

end Visit
end Visits

section Once
variable {p : String → Bool}

theorem repeated_filter {seen seen' : List String} (names : List String)
    (hseen : ∀ n, p n = true → (n ∈ seen ↔ n ∈ seen')) :
    (repeated seen names).filter p = repeated seen' (names.filter p) := by
  induction names generalizing seen seen' with
  | nil => rfl
  | cons n names ih =>
    have hcons : ∀ k, p k = true → (k ∈ n :: seen ↔ k ∈ n :: seen') := fun k hk => by
      rw [List.mem_cons, List.mem_cons, hseen k hk]
    by_cases hn : p n = true
    · rw [List.filter_cons_of_pos hn, repeated, repeated]
      by_cases hmem : n ∈ seen
      · rw [if_pos (List.contains_iff_mem.mpr hmem),
          if_pos (List.contains_iff_mem.mpr ((hseen n hn).mp hmem)), List.filter_cons_of_pos hn,
          ih hseen]
      · rw [if_neg (by simpa using hmem), if_neg (by simpa using mt (hseen n hn).mpr hmem), ih hcons]
    · rw [List.filter_cons_of_neg hn, repeated]
      split
      · rw [List.filter_cons_of_neg hn, ih hseen]
      · refine ih fun k hk => ?_
        have hne : k ≠ n := fun heq => hn (heq ▸ hk)
        rw [List.mem_cons, hseen k hk]
        exact ⟨fun h => h.resolve_left hne, .inr⟩

variable {doc : Document Unit}

/-- The names of the directives of a node that may stand once. -/
def onceNames (doc : Document Unit) (d : TypeDefinition Unit) : List String :=
  (d.directives.map (·.name)).filter (RuleContext.ofDocument doc).onlyOnce

/-- On a type and all its extensions together, no such directive stands twice. -/
theorem Document.onceNames_distinct (h : doc.faults = []) (n : String) :
    ((nodes doc n).flatMap (onceNames doc)).Nodup := by
  refine nodup_nodeNames h (fun earlier d hfaults => ?_) n
  have hnone := List.map_eq_nil_iff.mp (List.append_eq_nil_iff.mp hfaults).2
  rw [← hnone]
  symm
  refine repeated_filter _ fun k hk => ?_
  simp only [List.mem_map, List.mem_flatMap, onceNames, List.mem_filter]
  constructor
  · rintro ⟨a, ⟨e, he, ha⟩, rfl⟩
    exact ⟨e, he, ⟨a, ha, rfl⟩, hk⟩
  · rintro ⟨e, he, ⟨a, ha, rfl⟩, -⟩
    exact ⟨a, ⟨e, he, ha⟩, rfl⟩

end Once

/-- What a declaration shows of a member without being told and what it is told: the reason for a
deprecation, and the directives. -/
abbrev MemberRow := String × Option String × List Applied

def TypeShape.rows : TypeShape → List MemberRow
  | .object _ fs => fs.map fun f => (f.name, f.deprecation, f.applied)
  | .interface _ fs => fs.map fun f => (f.name, f.deprecation, f.applied)
  | .enum vs => vs.map fun v => (v.name, v.deprecation, v.applied)
  | .input _ fs => fs.map fun v => (v.name, v.deprecation, v.applied)
  | _ => []

/-- A directive with one argument, which is a text. -/
def textDirective (directive argument text : String) (block : Bool) : Applied :=
  ⟨(), directive, [⟨(), argument, .string () text block⟩]⟩

/-- The directives that the declaration of a type shows without being told. -/
def TypeShape.attributes : TypeShape → List Applied
  | .scalar (some url) => [textDirective "specifiedBy" "url" url false]
  | .input true _ => [⟨(), "oneOf", []⟩]
  | _ => []

namespace Build
variable {doc : Document Unit} {t : NamedType} {d : TypeDefinition Unit}
  {es : List (TypeDefinition Unit)}

def rowOf (m : String × List Applied) : MemberRow := (m.1, orNone (deprecation m.2), m.2)

theorem rows_shape (d : TypeDefinition Unit) : (shape d).rows = d.body.applications.map rowOf := by
  unfold shape
  cases d.body <;> simp only [TypeShape.rows, TypeBody.applications, List.map_map] <;> rfl

theorem kind_shape (d : TypeDefinition Unit) : (shape d).kind = d.body.kind := by
  unfold shape
  cases d.body <;> rfl

section Adding
variable (a b : TypeShape)

theorem kind_addShape : (addShape a b).kind = a.kind := by
  cases a <;> cases b <;> rfl

theorem attributes_addShape : (addShape a b).attributes = a.attributes := by
  cases a with
  | input o fs => cases o <;> cases b <;> rfl
  | _ => cases b <;> rfl

theorem rows_addShape (h : b.kind = a.kind) : (addShape a b).rows = a.rows ++ b.rows := by
  cases a <;> cases b <;> simp_all [addShape, TypeShape.rows, TypeShape.kind]

end Adding

theorem foldl_addExtension_attributes (t : NamedType) :
    (es.foldl addExtension t).shape.attributes = t.shape.attributes := by
  induction es generalizing t with
  | nil => rfl
  | cons e es ih => rw [List.foldl_cons, ih, addExtension, attributes_addShape]

theorem foldl_addExtension_applied (t : NamedType) :
    (es.foldl addExtension t).applied = t.applied ++ es.flatMap (·.directives) := by
  induction es generalizing t with
  | nil => exact (List.append_nil _).symm
  | cons e es ih =>
    rw [List.foldl_cons, ih, addExtension, List.flatMap_cons, List.append_assoc]

theorem foldl_addExtension_rows (t : NamedType) (h : ∀ e ∈ es, e.body.kind = t.shape.kind) :
    (es.foldl addExtension t).shape.rows
      = t.shape.rows ++ es.flatMap fun e => e.body.applications.map rowOf := by
  induction es generalizing t with
  | nil => exact (List.append_nil _).symm
  | cons e es ih =>
    have hkind : (shape e).kind = t.shape.kind := by
      rw [kind_shape]
      exact h e List.mem_cons_self
    have hrest : ∀ f ∈ es, f.body.kind = (addExtension t e).shape.kind := fun f hf => by
      rw [addExtension, kind_addShape]
      exact h f (List.mem_cons_of_mem e hf)
    rw [List.foldl_cons, ih _ hrest, addExtension, rows_addShape _ _ hkind, rows_shape,
      List.flatMap_cons, List.append_assoc]

theorem attributes_settle (t : NamedType) : (settle t).shape.attributes = t.shape.attributes := by
  unfold settle
  cases t.shape with
  | input o fs => cases o <;> rfl
  | _ => rfl

theorem rows_settle_lastByName (t : NamedType) :
    (settle t).shape.rows = lastByName (·.1) t.shape.rows := by
  have hfields : ∀ fs : List Field, (lastByName (·.name) (fs.map settleField)).map
        (fun f => ((f.name, f.deprecation, f.applied) : MemberRow))
      = lastByName (·.1) (fs.map fun f => (f.name, f.deprecation, f.applied)) := by
    intro fs
    rw [@lastByName_map Field Field.name MemberRow (·.1) _ fun _ => rfl, List.map_map]
    rfl
  unfold settle
  cases t.shape with
  | object is fs => exact hfields fs
  | interface is fs => exact hfields fs
  | enum vs => exact @lastByName_map EnumValue EnumValue.name MemberRow (·.1) _ (fun _ => rfl) vs
  | input o fs => exact @lastByName_map InputValue InputValue.name MemberRow (·.1) _ (fun _ => rfl) fs
  | scalar url => rfl
  | union ms => rfl

theorem rows_settle (h : (t.shape.rows.map (·.1)).Nodup) : (settle t).shape.rows = t.shape.rows := by
  rw [rows_settle_lastByName, lastByName_of_nodup h]

section Nodes

theorem applications_names (d : TypeDefinition Unit) : d.body.applications.map (·.1)
    = if d.body.kind = "Enum" then d.body.enumValueNames else d.body.fieldNames := by
  cases hb : d.body <;> simp [TypeBody.applications, TypeBody.kind, TypeBody.enumValueNames,
    TypeBody.fieldNames]

theorem applications_distinct (h : doc.faults = []) {n kind : String}
    (hkind : ∀ e ∈ Document.nodes doc n, e.body.kind = kind) :
    ((Document.nodes doc n).flatMap fun e => e.body.applications.map (·.1)).Nodup := by
  by_cases henum : kind = "Enum"
  · have hsame : (Document.nodes doc n).flatMap (fun e => e.body.applications.map (·.1))
        = (Document.nodes doc n).flatMap fun e => e.body.enumValueNames :=
      flatMap_eq_of_mem fun e he => by rw [applications_names, if_pos ((hkind e he).trans henum)]
    rw [hsame]
    exact Document.enumValueNames_distinct h n
  · have hsame : (Document.nodes doc n).flatMap (fun e => e.body.applications.map (·.1))
        = (Document.nodes doc n).flatMap fun e => e.body.fieldNames :=
      flatMap_eq_of_mem fun e he => by
        rw [applications_names, if_neg (fun heq => henum ((hkind e he).symm.trans heq))]
    rw [hsame]
    exact Document.fieldNames_distinct h n

end Nodes

/-- A type is made of a definition and of the extensions of it. -/
structure MadeOf (doc : Document Unit) (t : NamedType) (d : TypeDefinition Unit)
    (es : List (TypeDefinition Unit)) : Prop where
  nodes : (Document.nodes doc t.name).Perm (d :: es)
  extensions : ∀ e, e ∈ es ↔ .extendType e ∈ doc ∧ e.name = t.name
  applied : t.applied = (d :: es).flatMap (·.directives)
  attributes : t.shape.attributes = (shape d).attributes
  rows : t.shape.rows = (d :: es).flatMap fun e => e.body.applications.map rowOf
  distinct : (t.shape.rows.map (·.1)).Nodup
  readable : d.body = .scalar → ∃ url, specifiedBy d.directives = .ok url

theorem rows_names (ds : List (TypeDefinition Unit)) :
    (ds.flatMap fun e => e.body.applications.map rowOf).map (·.1)
      = ds.flatMap fun e => e.body.applications.map (·.1) := by
  rw [List.map_flatMap]
  refine flatMap_eq_of_mem fun e _ => ?_
  rw [List.map_map]
  rfl

/-- A type that is defined comes from a definition, together with all extensions of the name. -/
theorem defined_of_build {s : Schema} (h : Schema.build doc = .ok s) (ht : t ∈ s.types)
    (hdefined : t.isDefined = true) :
    ∃ p ∈ (parts doc).types, p.2.name = t.name
      ∧ definitionFault (parts doc).extensions p.2 = .ok ()
      ∧ t = settle (((parts doc).extensions.filter (·.name == p.2.name)).foldl addExtension
          ⟨p.1, p.2.name, shape p.2, p.2.directives⟩) := by
  obtain ⟨s₀, hadd, h⟩ := Except.of_bind_ok h
  cases h
  have hown : Builtin.type? t.name = none := by
    refine Option.eq_none_iff_forall_not_mem.mpr fun b hb => ?_
    rw [NamedType.isDefined, (Builtin.type?_name hb).2] at hdefined
    cases hdefined
  rcases (withBuiltins_placed (add_names hadd) _).others t ht with ht | ⟨-, hbuiltin⟩
  · obtain ⟨p, hp, rfl⟩ := mem_added hadd ht
    have hname : (settle (namedType (parts doc).extensions p.1 p.2)).name = p.2.name :=
      namedType_name _ _ _
    rw [hname] at hown
    refine ⟨p, hp, hname.symm, (adds_of_ok hadd).definitions p hp hown, ?_⟩
    rw [namedType, hown]
  · rw [hown] at hbuiltin
    cases hbuiltin

theorem definitions_of_name (hfaults : doc.faults = []) {p : Option String × TypeDefinition Unit}
    (hp : p ∈ (parts doc).types) :
    ((parts doc).types.map (·.2)).filter (·.name == p.2.name) = [p.2] := by
  have hdistinct : (((parts doc).types.map (·.2)).map (·.name)).Nodup := by
    rw [List.map_map]
    exact Document.types_distinct hfaults
  exact filter_of_mem hdistinct (List.mem_map_of_mem hp)

theorem mem_extensions {e : TypeDefinition Unit} :
    e ∈ (parts doc).extensions ↔ .extendType e ∈ doc := by
  show e ∈ List.filterMap _ doc ↔ _
  rw [List.mem_filterMap]
  constructor
  · rintro ⟨f, hf, hsome⟩
    cases f with
    | extendType e' => cases hsome; exact hf
    | _ => cases hsome
  · exact fun h => ⟨_, h, rfl⟩

/-- What is defined in a schema is made of the nodes of its document. -/
theorem madeOf_build {s : Schema} (hfaults : doc.faults = []) (h : Schema.build doc = .ok s)
    (ht : t ∈ s.types) (hdefined : t.isDefined = true) : ∃ d es, MadeOf doc t d es := by
  obtain ⟨⟨description, d⟩, hd, hname, hsound, ht⟩ := defined_of_build h ht hdefined
  generalize hes : (parts doc).extensions.filter (·.name == d.name) = es at ht
  have hkind : ∀ e ∈ es, e.body.kind = d.body.kind := by
    intro e he
    rw [← hes] at he
    exact definitionFault_kind hsound he
  have hnodes : (Document.nodes doc t.name).Perm (d :: es) := by
    have hperm := Document.nodes_perm doc d.name
    rw [definitions_of_name hfaults hd, hes] at hperm
    rw [← hname]
    exact hperm
  have hall : ∀ e ∈ Document.nodes doc t.name, e.body.kind = d.body.kind := by
    intro e he
    rcases List.mem_cons.mp (hnodes.mem_iff.mp he) with rfl | he
    · rfl
    · exact hkind e he
  have hrows : (es.foldl addExtension ⟨description, d.name, shape d, d.directives⟩).shape.rows
      = (d :: es).flatMap fun e => e.body.applications.map rowOf := by
    rw [foldl_addExtension_rows _ (fun e he => by rw [kind_shape]; exact hkind e he), rows_shape,
      List.flatMap_cons]
  -- Members of different names are all kept.
  have hdistinct : ((es.foldl addExtension
      ⟨description, d.name, shape d, d.directives⟩).shape.rows.map (·.1)).Nodup := by
    rw [hrows, rows_names]
    exact (hnodes.flatMap_right _).nodup_iff.mp (applications_distinct hfaults hall)
  have hsettled := rows_settle hdistinct
  refine ⟨d, es, ⟨hnodes, fun e => ?_, ?_, ?_, ?_, ?_, definitionFault_specifiedBy hsound⟩⟩
  · rw [← hes, List.mem_filter, mem_extensions, beq_iff_eq, ← hname]
  · have happlied : t.applied = (es.foldl addExtension
        ⟨description, d.name, shape d, d.directives⟩).applied := by
      rw [ht]
      rfl
    rw [happlied, foldl_addExtension_applied, List.flatMap_cons]
  · rw [ht, attributes_settle, foldl_addExtension_attributes]
  · rw [ht, hsettled, hrows]
  · rw [ht, hsettled]
    exact hdistinct

end Build
end Subgraph
