import Subgraph.Proofs.Retransform
import Subgraph.Proofs.WidenedInputs
import Subgraph.Schema.Check

/-!
# The protocol definitions widen a schema

A valid schema that has nothing of the protocol and a query root of its own keeps all its types
when it takes the protocol definitions; only the query root has further fields. What has no name of
the protocol means the same before and after.
-/

namespace Subgraph

theorem Schema.not_reserved {n : String} (h : Schema.nameProblems n = []) :
    n ≠ "__schema" ∧ n ≠ "__type" ∧ n ≠ "__typename" := by
  refine ⟨?_, ?_, ?_⟩
  all_goals
    rintro rfl
    revert h
    decide +kernel

section Problems
variable {s : Schema}

theorem Schema.typeProblems_of_none {ts : List NamedType} {visited : List String}
    (h : s.typesProblems visited ts = []) : ∀ t ∈ ts, s.typeProblems t = [] := by
  induction ts generalizing visited with
  | nil => exact fun t ht => nomatch ht
  | cons t ts ih =>
    intro u hu
    unfold Schema.typesProblems at h
    split at h
    · obtain ⟨hfirst, hrest⟩ := List.append_eq_nil_iff.mp h
      rcases List.mem_cons.mp hu with rfl | hu
      · exact (List.append_eq_nil_iff.mp hfirst).1
      · exact ih hrest u hu
    · obtain ⟨hfirst, hrest⟩ := List.append_eq_nil_iff.mp h
      rcases List.mem_cons.mp hu with rfl | hu
      · exact hfirst
      · exact ih hrest u hu

theorem Schema.fieldName_of_none {t : NamedType} (h : s.typeProblems t = []) {f : Field}
    (hf : f ∈ t.shape.fields) : Schema.nameProblems f.name = [] := by
  have hfields : s.fieldProblems t = [] → Schema.nameProblems f.name = [] := fun hnone =>
    (List.append_eq_nil_iff.mp
      (List.flatMap_eq_nil_iff.mp (List.append_eq_nil_iff.mp hnone).2 f hf)).1
  have hshape := (List.append_eq_nil_iff.mp h).2
  cases hs : t.shape with
  | object is fs =>
    rw [hs] at hshape
    exact hfields (List.append_eq_nil_iff.mp hshape).1
  | interface is fs =>
    rw [hs] at hshape
    exact hfields (List.append_eq_nil_iff.mp hshape).1
  | _ => rw [hs] at hf; cases hf

theorem Schema.problems_of_missing
    (h : s.problems = if s.query.isNone then ["Query root type must be provided."] else []) :
    (∀ n, s.mutation = some n ∨ s.subscription = some n → s.isObject n = true)
      ∧ (∀ d ∈ s.directives, s.directiveProblems d = []) ∧ s.typesProblems [] s.types = [] := by
  unfold Schema.problems Schema.rootProblems at h
  have hobject : ∀ n (problem : String), (if s.isObject n then [] else [problem]) = [] →
      s.isObject n = true := by
    intro n problem hn
    by_contra hnot
    rw [if_neg hnot] at hn
    cases hn
  have hrest : ∀ (o : Option String) (wrong : String → List String),
      o.toList.flatMap wrong = [] → ∀ n, o = some n → wrong n = [] :=
    fun o wrong hnone n hn => List.flatMap_eq_nil_iff.mp hnone n (Option.mem_toList.mpr hn)
  have hparts : (∀ n, s.mutation = some n → s.isObject n = true)
      ∧ (∀ n, s.subscription = some n → s.isObject n = true)
      ∧ s.directives.flatMap s.directiveProblems = [] ∧ s.typesProblems [] s.types = [] := by
    cases hq : s.query with
    | none =>
      rw [hq] at h
      simp only [Option.isNone_none, if_true, List.cons_append, List.nil_append, List.cons.injEq,
        true_and, List.append_eq_nil_iff] at h
      exact ⟨fun n hn => hobject n _ (hrest _ _ h.1.1.1 n hn),
        fun n hn => hobject n _ (hrest _ _ h.1.1.2 n hn), h.1.2, h.2⟩
    | some q =>
      rw [hq] at h
      simp only [Option.isNone_some, Bool.false_eq_true, if_false, List.append_eq_nil_iff] at h
      exact ⟨fun n hn => hobject n _ (hrest _ _ h.1.1.1.2 n hn),
        fun n hn => hobject n _ (hrest _ _ h.1.1.2 n hn), h.1.2, h.2⟩
  obtain ⟨hmutation, hsubscription, hdirectives, htypes⟩ := hparts
  exact ⟨fun n hn => hn.elim (hmutation n) (hsubscription n),
    List.flatMap_eq_nil_iff.mp hdirectives, htypes⟩

end Problems

namespace Federation

/-- A schema that has nothing of the protocol and no problem besides a query root that is missing. The
query root is an object type of its own, or there is none and none of its usual name. -/
structure Unserved (s : Schema) : Prop where
  wellFormed : s.WellFormed
  valid : s.problems = if s.query.isNone then ["Query root type must be provided."] else []
  undeclared : ∀ n ∈ typeNames, (s.type? n).isNone = true
  root : (∃ t ∈ s.types, s.query = some t.name ∧ t.shape.isObject = true ∧ t.isDefined = true
    ∧ ∀ n ∈ fieldNames, (t.field? n).isNone = true) ∨ (s.query = none ∧ s.type? defaultQuery = none)

/-- A valid schema that has nothing of the protocol and a query root of its own, where no default
leads back to itself. -/
structure Unfederated (s : Schema) : Prop where
  wellFormed : s.WellFormed
  valid : s.problems = []
  undeclared : ∀ n ∈ typeNames, (s.type? n).isNone = true
  root : ∃ t ∈ s.types, s.query = some t.name ∧ t.shape.isObject = true ∧ t.isDefined = true
    ∧ ∀ n ∈ fieldNames, (t.field? n).isNone = true
  settled : s.Settled

/-- The fields that a type has besides its own when the schema takes the protocol definitions. -/
def rootFields (s : Schema) (es : List String) (t : NamedType) : List Field :=
  if s.query = some t.name then protocolFieldTypes es else []

/-- The names that the definitions of the protocol leave as they are. -/
def Kept (s : Schema) (n : String) : Prop :=
  isTypeName n = false ∧ (s.query = none → n ≠ defaultQuery)

namespace Unserved
variable {s : Schema} (h : Unserved s)
include h

theorem plain {t : NamedType} (ht : t ∈ s.types) : isTypeName t.name = false :=
  isTypeName_eq_false h.wellFormed.names h.undeclared ht

theorem growable : Growable s := by
  rcases h.root with ⟨t, ht, hroot, hobject, hdefined, -⟩ | ⟨hquery, hfree⟩
  · exact .rooted t ht hroot hobject hdefined (h.plain ht)
  · exact .rootless hquery hfree

theorem kinds : PlainKinds s := by
  refine plainKinds_of_undeclared h.undeclared ?_
  rcases h.root with ⟨t, -, hroot, -⟩ | ⟨-, hfree⟩
  · exact .inl (by rw [hroot]; rfl)
  · exact .inr (by rw [hfree]; rfl)

theorem kept {t : NamedType} (ht : t ∈ s.types) : Kept s t.name := by
  refine ⟨h.plain ht, fun hquery hname => ?_⟩
  rcases h.root with ⟨u, -, hroot, -⟩ | ⟨-, hfree⟩
  · rw [hquery] at hroot
    cases hroot
  · rw [← hname, Schema.type?_of_mem h.wellFormed.names ht] at hfree
    cases hfree

theorem root_lacks {t : NamedType} (ht : t ∈ s.types) (hquery : s.query = some t.name) :
    ∀ n ∈ fieldNames, t.field? n = none := by
  rcases h.root with ⟨u, hu, hroot, -, -, hlacks⟩ | ⟨hnone, -⟩
  · have hname : u.name = t.name := Option.some.inj (hroot.symm.trans hquery)
    have htype := Schema.type?_of_mem h.wellFormed.names hu
    rw [hname, Schema.type?_of_mem h.wellFormed.names ht] at htype
    cases htype
    exact fun n hn => Option.isNone_iff_eq_none.mp (hlacks n hn)
  · rw [hnone] at hquery
    cases hquery

theorem new_fields (es : List String) {t : NamedType} (ht : t ∈ s.types) {f : Field}
    (hf : f ∈ rootFields s es t) : f.name ∈ fieldNames ∧ t.field? f.name = none := by
  unfold rootFields at hf
  split at hf
  · next hquery =>
    have hname : f.name ∈ fieldNames := by
      have hnamed := protocolFieldTypes_named f hf
      rw [Bool.not_eq_false'] at hnamed
      exact List.contains_iff_mem.mp hnamed
    exact ⟨hname, h.root_lacks ht hquery f.name hname⟩
  · cases hf

theorem grownType_eq (es : List String) {t : NamedType} (ht : t ∈ s.types) :
    grownType s es t = t.widened s (rootFields s es t) := by
  rw [grownType_plain h.growable ht (h.plain ht)]
  unfold rootFields
  split
  · next hquery =>
    obtain ⟨-, is, fs, hshape⟩ := h.growable.root_defined h.wellFormed ht hquery
    have hlacks := h.root_lacks ht hquery
    have hnodup : ((fs.map (Field.evaluated s) ++ protocolFieldTypes es).map (·.name)).Nodup := by
      have hown : ((fs.map (Field.evaluated s)).map (·.name)).Nodup := by
        have hdistinct := h.wellFormed.distinct t ht
        rw [hshape] at hdistinct
        rw [List.map_map]
        exact hdistinct.1
      rw [List.map_append]
      refine List.nodup_append.mpr ⟨hown, (protocolFieldTypes_distinct es).1, ?_⟩
      rintro n hn m hm rfl
      obtain ⟨g, hg, rfl⟩ := List.mem_map.mp hm
      have hname := (h.new_fields es ht (f := g) (by rw [rootFields, if_pos hquery]; exact hg)).2
      rw [NamedType.field?, hshape] at hname
      rw [List.map_map] at hn
      exact find?_eq_none_iff_not_mem.mp hname hn
    have hgrown := lastByName_of_nodup hnodup
    rw [NamedType.evaluated, hshape]
    simp only [NamedType.widened, hshape, TypeShape.mapInputs, grownShape, TypeShape.widened]
    exact congrArg (fun fs => { t with shape := .object is fs }) hgrown
  · have hsame : t.shape.mapInputs (·.evaluated s) = t.shape.widened s [] := by
      cases t.shape with
      | object is fs => exact congrArg (TypeShape.object is) (List.append_nil _).symm
      | _ => rfl
    rw [NamedType.evaluated, NamedType.widened, hsame]

theorem reserved {t : NamedType} (ht : t ∈ s.types) {f : Field} (hf : f ∈ t.shape.fields) :
    f.name ≠ "__schema" ∧ f.name ≠ "__type" ∧ f.name ≠ "__typename" := by
  have htypes := (Schema.problems_of_missing h.valid).2.2
  exact Schema.not_reserved (Schema.fieldName_of_none (Schema.typeProblems_of_none htypes t ht) hf)

section Grown
variable (es : List String)

omit h in
theorem protocolType?_eq_none {n : String} (hn : Kept s n) :
    (protocolTypes s es).find? (·.name == n) = none := by
  refine List.find?_eq_none.mpr fun u hu hname => ?_
  have hname : u.name = n := eq_of_beq hname
  obtain ⟨hplain, hother⟩ := hn
  rcases mem_protocolTypes s es hu with rfl | rfl | ⟨rfl, -⟩ | ⟨rfl, -⟩ | ⟨rfl, hquery⟩
  · rw [← hname] at hplain; cases hplain
  · rw [← hname] at hplain; cases hplain
  · rw [← hname] at hplain; cases hplain
  · rw [← hname] at hplain; cases hplain
  · exact hother hquery hname.symm

theorem type?_grown_eq {n : String} (hn : Kept s n) : (grown s es).type? n
    = (s.type? n).map fun t => t.widened s (rootFields s es t) := by
  rw [type?_grown, protocolType?_eq_none es hn]
  cases ht : s.type? n with
  | none => rfl
  | some t => exact congrArg some (h.grownType_eq es (Schema.mem_of_type? ht).1)

theorem grown_types_eq : (grown s es).types
    = s.types.map (fun t => t.widened s (rootFields s es t)) ++ protocolTypes s es := by
  have hfree : ∀ u ∈ protocolTypes s es, (!(s.types.map (·.name)).contains u.name) = true := by
    intro u hu
    rw [Bool.not_eq_true', ← Bool.not_eq_true]
    intro hmem
    obtain ⟨t, ht, hname⟩ := List.mem_map.mp (List.contains_iff_mem.mp hmem)
    have hnone := protocolType?_eq_none es (h.kept ht)
    rw [hname, find?_of_mem (protocolTypes_nodup s es) hu] at hnone
    cases hnone
  rw [grown]
  simp only
  rw [List.filter_eq_self.mpr hfree, List.map_congr_left fun t ht => h.grownType_eq es ht]

theorem possibleTypes_grown {n : String} (hn : Kept s n) :
    (grown s es).possibleTypes n = s.possibleTypes n := by
  have hown : ((grown s es).types.filter fun t =>
        t.shape.isObject && t.shape.interfaces.contains n).map (·.name)
      = (s.types.filter fun t => t.shape.isObject && t.shape.interfaces.contains n).map (·.name) := by
    have hprotocol : (protocolTypes s es).filter
        (fun t => t.shape.isObject && t.shape.interfaces.contains n) = [] := by
      refine List.filter_eq_nil_iff.mpr fun u hu => ?_
      rcases mem_protocolTypes s es hu with rfl | rfl | ⟨rfl, -⟩ | ⟨rfl, -⟩ | ⟨rfl, -⟩ <;>
        exact Bool.false_ne_true
    rw [h.grown_types_eq es, List.filter_append, hprotocol, List.append_nil, List.filter_map,
      List.map_map]
    congr 1
    refine List.filter_congr fun t _ => ?_
    simp only [Function.comp_apply, NamedType.widened_shape, TypeShape.isObject_widened,
      TypeShape.interfaces_widened]
  have hshape : (grown s es).shape? n
      = (s.type? n).map fun t => t.shape.widened s (rootFields s es t) := by
    rw [Schema.shape?, h.type?_grown_eq es hn, Option.map_map]
    rfl
  have hleft : s.shape? n = (s.type? n).map (·.shape) := rfl
  rw [Schema.possibleTypes, Schema.possibleTypes, hshape, hleft]
  cases s.type? n with
  | none => rfl
  | some t =>
    simp only [Option.map_some]
    cases t.shape with
    | interface is fs => exact hown
    | _ => rfl

omit h in
theorem find?_protocolDirectives {n : String} {d : DirectiveType} (hd : s.directive? n = some d) :
    (protocolDirectives s).find? (·.name == n) = none := by
  refine List.find?_eq_none.mpr fun u hu hname => ?_
  have hname : u.name = n := eq_of_beq hname
  rcases List.mem_append.mp hu with hu | hu
  · split at hu
    · next hnone =>
      rw [List.mem_singleton.mp hu] at hname
      rw [show keyDirective = n from hname, hd] at hnone
      cases hnone
    · cases hu
  · split at hu
    · next hnone =>
      rw [List.mem_singleton.mp hu] at hname
      rw [show extendsDirective = n from hname, hd] at hnone
      cases hnone
    · cases hu

omit h in
theorem find?_grown_directives {n : String} {d : DirectiveType}
    (hd : s.directives.reverse.find? (·.name == n) = some d) :
    (grown s es).directives.reverse.find? (·.name == n) = some (d.evaluated s)
      ∧ (grown s es).directives.find? (·.name == n) = some (d.evaluated s) := by
  have hname : (d.name == n) = true := List.find?_some (p := fun d : DirectiveType => d.name == n) hd
  have hsome : (s.directive? n).isSome = true :=
    List.find?_isSome.mpr ⟨d, List.mem_reverse.mp (List.mem_of_find?_eq_some hd), hname⟩
  obtain ⟨u, hu⟩ := Option.isSome_iff_exists.mp hsome
  have hprotocol := find?_protocolDirectives hu
  have hprotocolReverse : (protocolDirectives s).reverse.find? (·.name == n) = none :=
    List.find?_eq_none.mpr fun u hu => List.find?_eq_none.mp hprotocol u (List.mem_reverse.mp hu)
  have hown : (lastByName (·.name) s.evaluated.directives).find? (·.name == n)
      = some (d.evaluated s) := by
    have hevaluated : s.evaluated.directives = s.directives.map (DirectiveType.evaluated s) := rfl
    rw [find?_lastByName, hevaluated, ← List.map_reverse, List.find?_map]
    exact congrArg (Option.map (DirectiveType.evaluated s)) hd
  constructor
  · rw [grown, List.reverse_append, List.find?_append, hprotocolReverse, Option.none_or,
      find?_reverse_of_nodup lastByName_nodup, hown]
  · rw [grown, List.find?_append, hown]
    rfl

omit h in
theorem find?_reverse_of_once {n : String} {d : DirectiveType}
    (honce : (s.directives.filter (·.name == n)).length ≤ 1) (hd : s.directive? n = some d) :
    s.directives.reverse.find? (·.name == n) = some d := by
  rw [Schema.directive?, ← List.head?_filter] at hd
  rw [← List.head?_filter, List.filter_reverse]
  generalize s.directives.filter (·.name == n) = ds at honce hd
  match ds, honce with
  | [], _ => cases hd
  | [_], _ => exact hd

/-- A schema is widened by taking the protocol definitions, apart from the query root that it may get. -/
theorem widens : s.Widens (rootFields s es) (Kept s) { grown s es with query := s.query } where
  wellFormed := h.wellFormed
  own := fun t ht => h.kept ht
  standard := by
    have hall : ∀ n ∈ standardNames, isTypeName n = false ∧ n ≠ defaultQuery := by decide
    exact fun n hn => ⟨(hall n hn).1, fun _ => (hall n hn).2⟩
  standardType := by
    intro t ht hstandard
    refine if_neg fun hroot => ?_
    rcases h.root with ⟨u, -, hquery, -, hdefined, -⟩ | ⟨hnone, -⟩
    · rw [← Option.some.inj (hquery.symm.trans hroot)] at hstandard
      rw [NamedType.isDefined, isBuiltinName, List.contains_iff_mem.mpr hstandard] at hdefined
      cases hdefined
    · rw [hnone] at hroot
      cases hroot
  type? := fun n hn => h.type?_grown_eq es hn
  possible := fun n hn => h.possibleTypes_grown es hn
  new := by
    intro t ht f hf
    obtain ⟨hname, hnone⟩ := h.new_fields es ht hf
    have hprotocol : ∀ n ∈ fieldNames, n ≠ "__schema" ∧ n ≠ "__type" ∧ n ≠ "__typename" := by decide
    exact ⟨hnone, hprotocol f.name hname⟩
  reserved := fun t ht f hf => h.reserved ht hf
  root := fun k => by cases k <;> rfl
  description := rfl
  rule := fun _ _ hd => (find?_grown_directives es hd).1
  directive? := fun _ _ honce hd => (find?_grown_directives es (find?_reverse_of_once honce hd)).2

end Grown

end Unserved

namespace Unfederated
variable {s : Schema} (h : Unfederated s)
include h

theorem unserved : Unserved s := by
  obtain ⟨t, ht, hquery, hroot⟩ := h.root
  exact ⟨h.wellFormed, by rw [h.valid, hquery]; rfl, h.undeclared, .inl ⟨t, ht, hquery, hroot⟩⟩

theorem query_isSome : s.query.isNone = false := by
  obtain ⟨t, -, hquery, -⟩ := h.root
  rw [hquery]
  rfl

/-- A schema with a query root keeps it and is widened as a whole. -/
theorem widens (es : List String) :
    s.Widens (rootFields s es) (fun n => isTypeName n = false) (grown s es) := by
  obtain ⟨t, -, hquery, -⟩ := h.root
  have hsame : { grown s es with query := s.query } = grown s es := by
    rw [grown, hquery]
    rfl
  have hkept : Kept s = fun n => isTypeName n = false := by
    funext n
    refine propext (and_iff_left fun hnone => ?_)
    rw [hquery] at hnone
    cases hnone
  have hwide := h.unserved.widens es
  rw [hsame, hkept] at hwide
  exact hwide

end Unfederated
end Federation
end Subgraph
