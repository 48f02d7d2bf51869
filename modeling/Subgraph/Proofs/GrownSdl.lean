import Subgraph.Federation.Sdl
import Subgraph.Proofs.RootLines
import Subgraph.Proofs.Rooting

/-!
# The SDL of a schema with the protocol definitions

The protocol definitions leave no trace in the SDL. The types and directives that they add are
left out by their names, the fields that they add by their place at the query root, and a root
that was created for them has no other fields, so that it is left out together with its line in
the schema definition. All else is written as before, with the values of defaults standing for
how these were written.
-/

namespace Subgraph

def Field.evaluated (s : Schema) (f : Field) : Field :=
  { f with arguments := f.arguments.map (·.evaluated s) }

theorem Schema.WellFormed.rootsNamed {s : Schema} (h : s.WellFormed) : s.RootsNamed := by
  intro k n hn
  obtain ⟨t, ht, rfl⟩ := List.mem_map.mp (h.roots k n hn)
  exact h.named t ht

theorem printItems_map_congr {α β : Type} {item : Bool → α → String} {item' : Bool → β → String}
    {f : α → β} {xs : List α} (h : ∀ x ∈ xs, ∀ first, item' first (f x) = item first x) :
    printItems item' (xs.map f) = printItems item xs := by
  cases xs with
  | nil => rfl
  | cons x xs =>
    have hrest : (xs.map f).map (item' false) = xs.map (item false) := by
      rw [List.map_map]
      exact List.map_congr_left fun y hy => h y (List.mem_cons_of_mem x hy) false
    rw [List.map_cons, printItems, printItems, h x List.mem_cons_self, hrest]

section Evaluated
variable {s s' : Schema}

/-- The input types of a schema are those of another one, with evaluated defaults. -/
abbrev Schema.Evaluates (s s' : Schema) : Prop :=
  Schema.Rebuilt (·.evaluated s) (fun n => (s.shape? n).any TypeShape.isInput = true) s s'

variable (h : s.Evaluates s')
include h

theorem Schema.Evaluates.printInputValue {v : InputValue} (hv : v.Fits s) :
    s'.printInputValue (v.evaluated s) = s.printInputValue v := by
  have hdefault : s'.printDefault (v.evaluated s) = s.printDefault v := by
    have hliteral : ∀ d : Value, d.literal? s' v.type = d.literal? s v.type :=
      fun d => Value.literal?_rebuilt h d v.type hv.type
    have htype : (v.evaluated s).type = v.type := rfl
    simp only [Schema.printDefault, v.default_evaluated, htype, hliteral]
  rw [Schema.printInputValue, Schema.printInputValue, hdefault]
  rfl

theorem Schema.Evaluates.printArgument {v : InputValue} (hv : v.Fits s) (indent : String)
    (first : Bool) : s'.printArgument indent first (v.evaluated s) = s.printArgument indent first v := by
  rw [Schema.printArgument, Schema.printArgument, h.printInputValue hv]
  rfl

theorem Schema.Evaluates.printArguments {vs : List InputValue} (hvs : ∀ v ∈ vs, v.Fits s)
    (indent : String) :
    s'.printArguments indent (vs.map (·.evaluated s)) = s.printArguments indent vs := by
  have hvalues : (vs.map (·.evaluated s)).map s'.printInputValue = vs.map s.printInputValue := by
    rw [List.map_map]
    exact List.map_congr_left fun v hv => h.printInputValue (hvs v hv)
  have hitems : printItems (s'.printArgument ("  " ++ indent)) (vs.map (·.evaluated s))
      = printItems (s.printArgument ("  " ++ indent)) vs :=
    printItems_map_congr fun v hv first => h.printArgument (hvs v hv) ("  " ++ indent) first
  simp only [Schema.printArguments, List.isEmpty_map, List.all_map, hvalues, hitems]
  rfl

theorem Schema.Evaluates.printDirective {d : DirectiveType} (hd : ∀ v ∈ d.arguments, v.Fits s) :
    s'.printDirective { d with arguments := d.arguments.map (·.evaluated s) }
      = s.printDirective d := by
  simp only [Schema.printDirective, h.printArguments hd]

theorem Schema.Evaluates.unwritableDefault? {v : InputValue} (hv : v.Fits s) :
    s'.unwritableDefault? (v.evaluated s) = s.unwritableDefault? v := by
  have hpart : ∀ d : Value, d.unwritable? s' v.type = d.unwritable? s v.type :=
    fun d => Value.unwritable?_rebuilt h d v.type hv.type
  have htype : (v.evaluated s).type = v.type := rfl
  simp only [Schema.unwritableDefault?, v.default_evaluated, htype, hpart]

theorem Schema.Evaluates.unwritableDefaults {vs : List InputValue} (hvs : ∀ v ∈ vs, v.Fits s) :
    (vs.map (·.evaluated s)).findSome? s'.unwritableDefault? = vs.findSome? s.unwritableDefault? := by
  rw [List.findSome?_map]
  exact findSome?_eq_of_mem fun v hv => h.unwritableDefault? (hvs v hv)

end Evaluated

namespace Federation

section Growing
variable {s : Schema} {es : List String}

theorem grown_query : (grown s es).query = some (rootName s) := rfl

/-- Only the protocol types have names of the protocol, apart from a query root that is created. -/
theorem Growable.protocolType?_eq_none (hg : Growable s) {t : NamedType} (ht : t ∈ s.types)
    (hplain : isTypeName t.name = false) :
    (protocolTypes s es).find? (·.name == t.name) = none := by
  refine List.find?_eq_none.mpr fun u hu hname => ?_
  have hname : u.name = t.name := eq_of_beq hname
  rcases mem_protocolTypes s es hu with rfl | rfl | ⟨rfl, -⟩ | ⟨rfl, -⟩ | ⟨rfl, hquery⟩
  · rw [← hname] at hplain; cases hplain
  · rw [← hname] at hplain; cases hplain
  · rw [← hname] at hplain; cases hplain
  · rw [← hname] at hplain; cases hplain
  · cases hg with
    | rooted t' _ hroot _ _ _ => rw [hquery] at hroot; cases hroot
    | rootless _ hfree =>
      exact find?_eq_none_iff_not_mem.mp hfree (List.mem_map.mpr ⟨t, ht, hname.symm⟩)

theorem grownType_plain (hg : Growable s) {t : NamedType} (ht : t ∈ s.types)
    (hplain : isTypeName t.name = false) :
    grownType s es t = if s.query = some t.name then
      { t.evaluated s with shape := grownShape es (t.evaluated s).shape } else t.evaluated s := by
  rw [grownType, hg.protocolType?_eq_none ht hplain]

theorem Growable.rootName_iff (hg : Growable s) {t : NamedType} (ht : t ∈ s.types) :
    t.name = rootName s ↔ s.query = some t.name := by
  cases hg with
  | rooted t' _ hroot _ _ _ =>
    rw [rootName, hroot, Option.getD_some, Option.some.injEq, eq_comm]
  | rootless hquery hfree =>
    rw [rootName, hquery, Option.getD_none]
    refine ⟨fun h => ?_, fun h => by cases h⟩
    exact absurd (h ▸ List.mem_map_of_mem ht) (find?_eq_none_iff_not_mem.mp hfree)

theorem grown_input (hw : s.WellFormed) (hk : PlainKinds s) (hg : Growable s) {n : String}
    (hn : (s.shape? n).any TypeShape.isInput = true) :
    (grown s es).shape? n = (s.shape? n).map (·.mapInputs (·.evaluated s)) := by
  cases hs : s.type? n with
  | none =>
    rw [Schema.shape?, hs] at hn
    cases hn
  | some t =>
    obtain ⟨ht, rfl⟩ := Schema.mem_of_type? hs
    have hshape : s.shape? t.name = some t.shape := by rw [Schema.shape?, hs, Option.map_some]
    have hinput : t.shape.isInput = true := by rw [hshape] at hn; exact hn
    have hother : ∀ u ∈ protocolTypes s es, u.name = t.name → u.shape.isInput = true := by
      intro u hu hname
      rw [(hk.kinds es u hu t.shape (hname ▸ hshape)).input]
      exact hinput
    rw [Schema.shape?, type?_grown, hshape, hs]
    cases hp : (protocolTypes s es).find? (·.name == t.name) with
    | some u =>
      have hu := List.mem_of_find?_eq_some hp
      have hname : u.name = t.name := by simpa using List.find?_some hp
      have hinput' := hother u hu hname
      rcases mem_protocolTypes s es hu with rfl | rfl | ⟨rfl, -⟩ | ⟨rfl, hnone⟩ | ⟨rfl, -⟩
      · rw [hk.any t.shape (by rw [← hshape, ← hname]; rfl)]
        rfl
      · cases hinput'
      · cases hinput'
      · have hsome : s.type? fieldSetScalar = some t := by rw [← hs, ← hname]; rfl
        rw [hnone] at hsome
        cases hsome
      · cases hinput'
    | none =>
      have hroot : s.query ≠ some t.name := fun hq => by
        obtain ⟨-, is, fs, hobject⟩ := hg.root_defined hw ht hq
        rw [hobject] at hinput
        cases hinput
      simp only [Option.map_some, grownType, hp, if_neg hroot]
      rfl

theorem grown_evaluates (es : List String) (hw : s.WellFormed) (hk : PlainKinds s)
    (hg : Growable s) : s.Evaluates (grown s es) where
  shape := fun _ hn => grown_input hw hk hg hn
  name := fun _ => rfl
  type := fun _ => rfl
  inside := by
    intro n o fs _ hs f hf
    obtain ⟨t, ht, rfl, hshape⟩ := Schema.mem_of_shape? hs
    refine ((hw.refers t ht).inputs f ?_).type
    rw [hshape]
    exact hf

theorem mem_serviceTypes {t : NamedType} :
    t ∈ serviceTypes s ↔ t ∈ s.types ∧ t.isDefined = true ∧ isTypeName t.name = false := by
  rw [serviceTypes, List.mem_filter, Bool.and_eq_true, Bool.not_eq_true']

theorem serviceTypes_grown (hg : Growable s) : serviceTypes (grown s es)
    = (serviceTypes s).map (grownType s es) ++ if s.query.isNone then [queryType es] else [] := by
  have hsame : ∀ t : NamedType, ((grownType s es t).isDefined && !isTypeName (grownType s es t).name)
      = (t.isDefined && !isTypeName t.name) := by
    intro t
    rw [NamedType.isDefined, grownType_name]
    rfl
  have hleft : (s.types.map (grownType s es)).filter (fun t => t.isDefined && !isTypeName t.name)
      = (serviceTypes s).map (grownType s es) := by
    rw [List.filter_map, serviceTypes]
    simp only [Function.comp_def, hsame]
  have hright : ((protocolTypes s es).filter fun u => !((s.types.map (·.name)).contains u.name)).filter
        (fun t => t.isDefined && !isTypeName t.name)
      = if s.query.isNone then [queryType es] else [] := by
    have hprotocol : (protocolTypes s es).filter (fun t => t.isDefined && !isTypeName t.name)
        = if s.query.isNone then [queryType es] else [] := by
      unfold protocolTypes
      cases s.query.isNone <;> cases es.isEmpty <;> cases (s.type? fieldSetScalar).isNone <;> rfl
    rw [List.filter_comm, hprotocol]
    cases hquery : s.query with
    | some q => rfl
    | none =>
      have hfree : s.type? defaultQuery = none := by
        cases hg with
        | rooted t _ hroot _ _ _ => rw [hquery] at hroot; cases hroot
        | rootless _ hfree => exact hfree
      have hnew : (s.types.map (·.name)).contains (queryType es).name = false := by
        simpa [queryType] using find?_eq_none_iff_not_mem.mp hfree
      simp only [Option.isNone_none, if_true, List.filter_cons, List.filter_nil, hnew, Bool.not_false]
  rw [serviceTypes, grown, List.filter_append, hleft, hright]

/-- The places of the protocol fields at the query root. -/
def isProtocolPlace (s : Schema) (k : Coordinate) : Bool :=
  k.type == rootName s && k.member.any isFieldName

theorem memberApplications_mapInputs (shape : TypeShape) :
    memberApplications (shape.mapInputs (·.evaluated s)) = memberApplications shape := by
  cases shape <;> simp [memberApplications, TypeShape.mapInputs, InputValue.evaluated]

theorem protocolFieldTypes_named : ∀ f ∈ protocolFieldTypes es, (!isFieldName f.name) = false := by
  intro f hf
  rcases mem_protocolFieldTypes hf with rfl | ⟨-, rfl⟩ <;> rfl

theorem memberApplications_grownShape {shape : TypeShape} (hshape : shape.Distinct) :
    (memberApplications (grownShape es shape)).filter (fun m => !isFieldName m.1)
      = (memberApplications shape).filter fun m => !isFieldName m.1 := by
  cases shape with
  | object is fs =>
    simp only [grownShape, memberApplications, List.filter_map, Function.comp_def]
    rw [filter_lastByName_append (p := fun n => !isFieldName n) hshape.1
      (protocolFieldTypes_distinct es).1 protocolFieldTypes_named]
  | _ => rfl

theorem typeDirectives_eq (c : Classification) (t : NamedType) : typeDirectives c t
    = merge (restored t.applied) (((c.get? t.name).map (·.settings.directives)).getD []) := by
  unfold typeDirectives
  cases c.get? t.name <;> simp

variable {c c' : Classification}

/-- Two classifications ask for the same directives. -/
def SameSettings (c c' : Classification) : Prop :=
  ∀ n, (c'.get? n).map (·.settings) = (c.get? n).map (·.settings)

theorem typeDirectives_same (hc : SameSettings c c') {t t' : NamedType} (hname : t'.name = t.name)
    (happlied : t'.applied = t.applied) : typeDirectives c' t' = typeDirectives c t := by
  have hdirectives : (c'.get? t.name).map (·.settings.directives)
      = (c.get? t.name).map (·.settings.directives) := by
    have h := congrArg (Option.map TypeSettings.directives) (hc t.name)
    rwa [Option.map_map, Option.map_map] at h
  rw [typeDirectives_eq, typeDirectives_eq, hname, happlied, hdirectives]

theorem typeEntries_grown (hw : s.WellFormed) (hg : Growable s) (hc : SameSettings c c')
    {t : NamedType} (ht : t ∈ serviceTypes s) :
    (typeEntries c' (grownType s es t)).filter (fun e => !isProtocolPlace s e.1)
      = (typeEntries c t).filter fun e => !isProtocolPlace s e.1 := by
  obtain ⟨hmem, -, hplain⟩ := mem_serviceTypes.mp ht
  have happlied : (grownType s es t).applied = t.applied := by
    rw [grownType_plain hg hmem hplain]
    split <;> rfl
  have hown := typeDirectives_same hc (grownType_name s es t) happlied
  have hevaluated : (t.evaluated s).shape.Distinct :=
    (hw.distinct t hmem).mapInputs (f := (·.evaluated s)) fun _ => rfl
  have hmembers : ((memberApplications (grownType s es t).shape).map fun m =>
        ((⟨t.name, some m.1⟩, restored m.2) : Coordinate × List Applied)).filter
          (fun e => !isProtocolPlace s e.1)
      = ((memberApplications t.shape).map fun m =>
        ((⟨t.name, some m.1⟩, restored m.2) : Coordinate × List Applied)).filter
          fun e => !isProtocolPlace s e.1 := by
    rw [grownType_plain hg hmem hplain]
    by_cases hq : s.query = some t.name
    · have hroot := (hg.rootName_iff hmem).mpr hq
      rw [if_pos hq, List.filter_map, List.filter_map]
      simp only [Function.comp_def, isProtocolPlace, hroot, beq_self_eq_true, Bool.true_and,
        Option.any_some]
      rw [memberApplications_grownShape hevaluated, NamedType.evaluated,
        memberApplications_mapInputs]
    · rw [if_neg hq, NamedType.evaluated, memberApplications_mapInputs]
  rw [typeEntries, typeEntries, List.filter_comm, hown, grownType_name, List.filter_cons, hmembers]
  rw [List.filter_comm, List.filter_cons]

theorem typeEntries_queryType (h : c.get? defaultQuery = none) :
    typeEntries c (queryType es) = [] := by
  have hown : typeDirectives c (queryType es) = [] := by
    rw [typeDirectives, queryType, h]
    rfl
  have hmembers : ∀ m ∈ memberApplications (queryType es).shape, restored m.2 = [] := by
    intro m hm
    simp only [queryType, memberApplications] at hm
    obtain ⟨f, hf, rfl⟩ := List.mem_map.mp hm
    rcases mem_protocolFieldTypes hf with rfl | ⟨-, rfl⟩ <;> rfl
  refine List.filter_eq_nil_iff.mpr fun e he => ?_
  rcases List.mem_cons.mp he with rfl | he
  · rw [hown]
    exact Bool.false_ne_true
  · obtain ⟨m, hm, rfl⟩ := List.mem_map.mp he
    rw [hmembers m hm]
    exact Bool.false_ne_true

theorem directiveMap_grown (es : List String) (hw : s.WellFormed) (hg : Growable s) (hc : SameSettings c c')
    (hroot : s.query = none → c.get? defaultQuery = none) :
    (directiveMap (grown s es) c').filter (fun e => !isProtocolPlace s e.1)
      = (directiveMap s c).filter fun e => !isProtocolPlace s e.1 := by
  have hcreated : ((if s.query.isNone then [queryType es] else []).flatMap (typeEntries c')).filter
      (fun e => !isProtocolPlace s e.1) = [] := by
    cases hquery : s.query with
    | some q => rfl
    | none =>
      have hnone : c'.get? defaultQuery = none := by
        have h := hc defaultQuery
        rw [hroot hquery] at h
        exact Option.map_eq_none_iff.mp h
      simp [typeEntries_queryType hnone]
  rw [directiveMap, directiveMap, serviceTypes_grown hg, List.flatMap_append, List.filter_append,
    hcreated, List.append_nil, List.flatMap_map, List.filter_flatMap, List.filter_flatMap]
  exact flatMap_eq_of_mem fun t ht => typeEntries_grown hw hg hc ht

/-- Two maps that hold the same directives, apart from those of protocol fields. -/
def SameDirectives (s : Schema) (m m' : DirectiveMap) : Prop :=
  ∀ k, isProtocolPlace s k = false → m'.get k = m.get k

theorem sameDirectives_grown (hw : s.WellFormed) (hg : Growable s) (hc : SameSettings c c')
    (hroot : s.query = none → c.get? defaultQuery = none) :
    SameDirectives s (directiveMap s c) (directiveMap (grown s es) c') := by
  intro k hk
  have hkeep : (fun k => !isProtocolPlace s k) k = true := by simp only [hk, Bool.not_false]
  have h := congrArg (List.lookup k) (directiveMap_grown es hw hg hc hroot)
  rw [lookup_filter (p := fun k => !isProtocolPlace s k) hkeep,
    lookup_filter (p := fun k => !isProtocolPlace s k) hkeep] at h
  rw [DirectiveMap.get, DirectiveMap.get, h]

section Printing
variable {m m' : DirectiveMap}

theorem printField_grown (hw : s.WellFormed) (hk : PlainKinds s) (hg : Growable s)
    (hm : SameDirectives s m m') {t t' : NamedType} (ht : t ∈ s.types) (hname : t'.name = t.name)
    {f : Field} (hf : f ∈ t.shape.fields) (hplace : isProtocolPlace s ⟨t.name, some f.name⟩ = false)
    (first : Bool) :
    printField (grown s es) m' t' first (f.evaluated s) = printField s m t first f := by
  have hargs : ∀ v ∈ f.arguments, v.Fits s := fun v hv =>
    (hw.refers t ht).inputs v (TypeShape.mem_inputs hf hv)
  have harguments := (grown_evaluates es hw hk hg).printArguments hargs "  "
  have hdirectives := hm ⟨t.name, some f.name⟩ hplace
  simp only [printField, Field.evaluated, harguments, printMemberDirectives, hname, hdirectives]

theorem printType_evaluated (hw : s.WellFormed) (hk : PlainKinds s) (hg : Growable s)
    (hm : SameDirectives s m m') {t : NamedType} (ht : t ∈ s.types) (hq : s.query ≠ some t.name) :
    printType (grown s es) m' (t.evaluated s) = printType s m t := by
  have hroot : t.name ≠ rootName s := fun h => hq ((hg.rootName_iff ht).mp h)
  -- Only the query root has places for the protocol, so elsewhere both maps hold the same.
  have hplace : ∀ member, isProtocolPlace s ⟨t.name, member⟩ = false := by
    intro member
    rw [isProtocolPlace, beq_eq_false_iff_ne.mpr hroot, Bool.false_and]
  have hown : printTypeDirectives m' (t.evaluated s) = printTypeDirectives m t := by
    rw [printTypeDirectives, printTypeDirectives, ← hm ⟨t.name, none⟩ (hplace none)]
    rfl
  have hdeclared : ∀ fs, declaredFields (grown s es) (t.evaluated s) fs = fs := by
    intro fs
    refine if_neg fun h => hroot ?_
    exact (Option.some.inj h).symm
  have hdeclared' : ∀ fs, declaredFields s t fs = fs := fun fs => if_neg hq
  have hfields : ∀ fs, t.shape.fields = fs →
      printItems (printField (grown s es) m' (t.evaluated s)) (fs.map (Field.evaluated s))
        = printItems (printField s m t) fs := by
    rintro fs rfl
    exact printItems_map_congr fun f hf first =>
      printField_grown hw hk hg hm ht rfl hf (hplace (some f.name)) first
  unfold printType
  cases hs : t.shape with
  | scalar url => simp only [NamedType.evaluated_shape, hs, TypeShape.mapInputs, hown,
      NamedType.evaluated_name, NamedType.evaluated_description]
  | union ms => simp only [NamedType.evaluated_shape, hs, TypeShape.mapInputs, hown,
      NamedType.evaluated_name, NamedType.evaluated_description]
  | object is fs =>
    have hitems := hfields fs (by rw [hs]; rfl)
    simp only [NamedType.evaluated_shape, hs, TypeShape.mapInputs, printComposite, hdeclared,
      hdeclared', List.isEmpty_map, hown, NamedType.evaluated_name, NamedType.evaluated_description]
    rw [← hitems]
    rfl
  | interface is fs =>
    have hitems := hfields fs (by rw [hs]; rfl)
    simp only [NamedType.evaluated_shape, hs, TypeShape.mapInputs, printComposite, hdeclared,
      hdeclared', List.isEmpty_map, hown, NamedType.evaluated_name, NamedType.evaluated_description]
    rw [← hitems]
    rfl
  | enum vs =>
    have hvalue : printEnumValue m' (t.evaluated s) = printEnumValue m t := by
      funext first v
      rw [printEnumValue, printEnumValue, printMemberDirectives, printMemberDirectives,
        ← hm ⟨t.name, some v.name⟩ (hplace _)]
      rfl
    simp only [NamedType.evaluated_shape, hs, TypeShape.mapInputs, hown, hvalue,
      NamedType.evaluated_name, NamedType.evaluated_description]
  | input oneOf fs =>
    have hitems : printItems (printInputField (grown s es) m' (t.evaluated s))
        (fs.map (·.evaluated s)) = printItems (printInputField s m t) fs := by
      refine printItems_map_congr fun v hv first => ?_
      have hfits : v.Fits s := (hw.refers t ht).inputs v (by rw [hs]; exact hv)
      rw [printInputField, printInputField, (grown_evaluates es hw hk hg).printInputValue hfits,
        printMemberDirectives, printMemberDirectives, ← hm ⟨t.name, some v.name⟩ (hplace _)]
      rfl
    simp only [NamedType.evaluated_shape, hs, TypeShape.mapInputs, hown, hitems,
      NamedType.evaluated_name, NamedType.evaluated_description]

theorem evaluatedFields_nodup (hw : s.WellFormed) {t : NamedType} (ht : t ∈ s.types)
    {is : List String} {fs : List Field} (hs : t.shape = .object is fs) :
    ((fs.map (Field.evaluated s)).map (·.name)).Nodup := by
  have hdistinct := hw.distinct t ht
  rw [hs] at hdistinct
  rw [List.map_map]
  exact hdistinct.1

theorem declaredFields_grown (es : List String) (hw : s.WellFormed) {t t' : NamedType}
    (ht : t ∈ s.types) (hq : s.query = some t.name) (hname : t'.name = t.name) {is : List String} {fs : List Field}
    (hs : t.shape = .object is fs) :
    declaredFields (grown s es) t'
        (lastByName (·.name) (fs.map (Field.evaluated s) ++ protocolFieldTypes es))
      = (declaredFields s t fs).map (Field.evaluated s) := by
  have hroot : (grown s es).query = some t'.name := by
    rw [grown_query, rootName, hq, hname, Option.getD_some]
  rw [declaredFields, if_pos hroot, filter_lastByName_append (p := fun n => !isFieldName n)
    (evaluatedFields_nodup hw ht hs) (protocolFieldTypes_distinct es).1 protocolFieldTypes_named,
    declaredFields, if_pos hq, List.filter_map]
  rfl

theorem printType_root (hw : s.WellFormed) (hk : PlainKinds s) (hg : Growable s)
    (hm : SameDirectives s m m') {t t' : NamedType} (ht : t ∈ s.types) (hq : s.query = some t.name)
    (hfields : t.shape.fields ≠ []) (hname : t'.name = t.name)
    (hdescription : t'.description = t.description)
    (hshape : t'.shape = grownShape es (t.evaluated s).shape) :
    printType (grown s es) m' t' = printType s m t := by
  obtain ⟨-, is, fs, hs⟩ := hg.root_defined hw ht hq
  rw [NamedType.evaluated_shape, hs] at hshape
  rw [hs] at hfields
  have hown : printTypeDirectives m' t' = printTypeDirectives m t := by
    rw [printTypeDirectives, printTypeDirectives, hname, hm ⟨t.name, none⟩ (Bool.and_false _)]
  have hdeclared := declaredFields_grown es hw ht hq hname hs
  have hitems : printItems (printField (grown s es) m' t')
        ((declaredFields s t fs).map (Field.evaluated s))
      = printItems (printField s m t) (declaredFields s t fs) := by
    refine printItems_map_congr fun f hf first => ?_
    rw [declaredFields, if_pos hq] at hf
    obtain ⟨hf, hplain⟩ := List.mem_filter.mp hf
    rw [Bool.not_eq_eq_eq_not, Bool.not_true] at hplain
    refine printField_grown hw hk hg hm ht hname (by rw [hs]; exact hf) ?_ first
    rw [isProtocolPlace, Option.any_some, hplain, Bool.and_false]
  have hsome : fs.isEmpty = false := List.isEmpty_eq_false_iff.mpr hfields
  have hsome' : (lastByName (·.name) (fs.map (Field.evaluated s) ++ protocolFieldTypes es)).isEmpty
      = false :=
    List.isEmpty_eq_false_iff.mpr (lastByName_append_ne_nil (evaluatedFields_nodup hw ht hs)
      (protocolFieldTypes_distinct es).1 (by simpa [TypeShape.fields] using hfields))
  have hfields' : TypeShape.mapInputs (·.evaluated s) (.object is fs)
      = .object is (fs.map (Field.evaluated s)) := rfl
  rw [hfields', grownShape] at hshape
  simp only [printType, hshape, hs, printComposite, hdeclared, hsome, hsome', List.isEmpty_map,
    hname, hdescription, hown, hitems]

theorem printType_grown (hw : s.WellFormed) (hk : PlainKinds s) (hg : Growable s)
    (hm : SameDirectives s m m') (hfields : ∀ t ∈ s.types, s.query = some t.name →
      t.shape.fields ≠ []) {t : NamedType} (ht : t ∈ serviceTypes s) :
    printType (grown s es) m' (grownType s es t) = printType s m t := by
  obtain ⟨hmem, -, hplain⟩ := mem_serviceTypes.mp ht
  rw [grownType_plain hg hmem hplain]
  split
  · next hq => exact printType_root hw hk hg hm hmem hq (hfields t hmem hq) rfl rfl rfl
  · next hq => exact printType_evaluated hw hk hg hm hmem hq

theorem declaredFields_queryType (es : List String) (hquery : s.query = none) :
    declaredFields (grown s es) (queryType es) (protocolFieldTypes es) = [] := by
  have hroot : (grown s es).query = some (queryType es).name := by
    rw [grown_query, rootName, hquery]
    rfl
  rw [declaredFields, if_pos hroot]
  exact List.filter_eq_nil_iff.mpr fun f hf => by
    rw [protocolFieldTypes_named f hf]
    exact Bool.false_ne_true

theorem printType_queryType (hquery : s.query = none) :
    printType (grown s es) m (queryType es) = none := by
  have hsome : (protocolFieldTypes es).isEmpty = false := by
    rw [protocolFieldTypes_eq]
    rfl
  show printComposite (grown s es) m "type" (queryType es) [] (protocolFieldTypes es) = none
  simp only [printComposite, declaredFields_queryType es hquery, hsome]
  rfl

theorem serviceDirectives_grown (hdirectives : (s.directives.map (·.name)).Nodup) :
    serviceDirectives (grown s es) = (serviceDirectives s).map fun d =>
      { d with arguments := d.arguments.map (·.evaluated s) } := by
  have hnames : (s.evaluated.directives.map (·.name)).Nodup := by
    rw [Schema.evaluated, List.map_map]
    exact hdirectives
  have hprotocol : (protocolDirectives s).filter (fun d => !d.isSpecified && !isDirectiveName d.name)
      = [] := by
    unfold protocolDirectives
    cases (s.directive? keyDirective).isNone <;> cases (s.directive? extendsDirective).isNone <;> rfl
  have hfilter : ∀ ds : List DirectiveType,
      (ds.filter (!·.isSpecified)).filter (fun d => !isDirectiveName d.name)
        = ds.filter fun d => !d.isSpecified && !isDirectiveName d.name := by
    intro ds
    rw [List.filter_filter]
    exact List.filter_congr fun d _ => Bool.and_comm _ _
  rw [serviceDirectives, serviceDirectives, Schema.ownDirectives, Schema.ownDirectives, hfilter,
    hfilter, grown, List.filter_append, hprotocol, List.append_nil, lastByName_of_nodup hnames,
    Schema.evaluated, List.filter_map]
  rfl

theorem leftOut_rootless (hquery : s.query = none) : leftOut s m = [] := by
  have hdeclared : ∀ t fs, declaredFields s t fs = fs := fun t fs =>
    if_neg (by rw [hquery]; exact Option.some_ne_none t.name ∘ Eq.symm)
  have hcomposite : ∀ keyword t is fs, (printComposite s m keyword t is fs).isNone = false := by
    intro keyword t is fs
    simp only [printComposite, hdeclared, Bool.and_not_self]
    rfl
  have hsome : ∀ t, (printType s m t).isNone = false := by
    intro t
    unfold printType
    cases t.shape with
    | object is fs => exact hcomposite "type" t is fs
    | interface is fs => exact hcomposite "interface" t is fs
    | _ => rfl
  simp [leftOut, hsome]

section Parts
variable (hw : s.WellFormed) (hk : PlainKinds s) (hg : Growable s)
include hw hk hg

theorem printTypes_grown (hm : SameDirectives s m m')
    (hfields : ∀ t ∈ s.types, s.query = some t.name → t.shape.fields ≠ []) :
    (serviceTypes (grown s es)).filterMap (printType (grown s es) m')
      = (serviceTypes s).filterMap (printType s m) := by
  have hcreated : (if s.query.isNone then [queryType es] else []).filterMap
      (printType (grown s es) m') = [] := by
    cases hquery : s.query with
    | some q => rfl
    | none =>
      simp only [Option.isNone_none, if_true, List.filterMap_cons, printType_queryType hquery,
        List.filterMap_nil]
  rw [serviceTypes_grown hg, List.filterMap_append, hcreated, List.append_nil, List.filterMap_map]
  exact filterMap_eq_of_mem fun t ht => printType_grown hw hk hg hm hfields ht

theorem leftOut_grown (hm : SameDirectives s m m')
    (hfields : ∀ t ∈ s.types, s.query = some t.name → t.shape.fields ≠ []) :
    leftOut (grown s es) m' = leftOut s m ++ if s.query.isNone then [defaultQuery] else [] := by
  have hsame : ((serviceTypes s).map (grownType s es)).filter
        (fun t => (printType (grown s es) m' t).isNone)
      = ((serviceTypes s).filter fun t => (printType s m t).isNone).map (grownType s es) := by
    rw [List.filter_map]
    congr 1
    refine List.filter_congr fun t ht => ?_
    rw [Function.comp_apply, printType_grown hw hk hg hm hfields ht]
  have hcreated : ((if s.query.isNone then [queryType es] else []).filter
        fun t => (printType (grown s es) m' t).isNone).map (·.name)
      = if s.query.isNone then [defaultQuery] else [] := by
    cases hquery : s.query with
    | some q => rfl
    | none =>
      simp only [Option.isNone_none, if_true, List.filter_cons, printType_queryType hquery]
      rfl
  rw [leftOut, leftOut, serviceTypes_grown hg, List.filter_append, List.map_append, hcreated, hsame,
    List.map_map]
  congr 1
  exact List.map_congr_left fun t _ => grownType_name s es t

theorem printDefinition_grown (hm : SameDirectives s m m')
    (hfields : ∀ t ∈ s.types, s.query = some t.name → t.shape.fields ≠ [])
    (hdescription : ∀ d, s.description = some d → Text.hasIndentedLine d = false) :
    printDefinition (grown s es) (leftOut (grown s es) m') = printDefinition s (leftOut s m) := by
  rw [leftOut_grown hw hk hg hm hfields]
  cases hquery : s.query with
  | some q =>
    have hroot : (grown s es).root = s.root := by
      funext k
      cases k with
      | query =>
        simp only [Schema.root, grown_query, rootName, hquery, Option.getD_some]
      | _ => rfl
    have hsame : (grown s es).printDefinition = s.printDefinition :=
      Schema.printDefinition_of_roots rfl hroot
    rw [Option.isNone_some, if_neg Bool.false_ne_true, List.append_nil, printDefinition,
      printDefinition, hsame]
  | none =>
    have hfree : s.type? defaultQuery = none := by
      cases hg with
      | rooted t _ hroot _ _ _ => rw [hquery] at hroot; cases hroot
      | rootless _ hfree => exact hfree
    have hother : ∀ k, s.root k ≠ some defaultQuery := fun k hn =>
      find?_eq_none_iff_not_mem.mp hfree (hw.roots k _ hn)
    rw [leftOut_rootless hquery, Option.isNone_none, if_pos rfl, List.nil_append]
    exact printDefinition_created rfl hquery (by rw [grown_query, rootName, hquery]; rfl) rfl rfl
      hw.rootsNamed hother hdescription

theorem unwritableFields_grown {fs : List Field}
    (hfits : ∀ f ∈ fs, ∀ v ∈ f.arguments, v.Fits s) :
    (fs.map (Field.evaluated s)).findSome?
        (fun f => f.arguments.findSome? (grown s es).unwritableDefault?)
      = fs.findSome? fun f => f.arguments.findSome? s.unwritableDefault? := by
  rw [List.findSome?_map]
  exact findSome?_eq_of_mem fun f hf =>
    (grown_evaluates es hw hk hg).unwritableDefaults (hfits f hf)

theorem unwritableIn?_root {t t' : NamedType} (ht : t ∈ s.types) (hq : s.query = some t.name)
    (hname : t'.name = t.name) (hshape : t'.shape = grownShape es (t.evaluated s).shape) :
    unwritableIn? (grown s es) t' = unwritableIn? s t := by
  obtain ⟨-, is, fs, hs⟩ := hg.root_defined hw ht hq
  have hmapped : TypeShape.mapInputs (·.evaluated s) (.object is fs)
      = .object is (fs.map (Field.evaluated s)) := rfl
  rw [NamedType.evaluated_shape, hs, hmapped, grownShape] at hshape
  have hfits : ∀ f ∈ declaredFields s t fs, ∀ v ∈ f.arguments, v.Fits s := by
    intro f hf v hv
    rw [declaredFields, if_pos hq] at hf
    refine (hw.refers t ht).inputs v ?_
    rw [hs]
    exact List.mem_flatMap.mpr ⟨f, List.mem_of_mem_filter hf, hv⟩
  simp only [unwritableIn?, hshape, hs, TypeShape.fields]
  rw [declaredFields_grown es hw ht hq hname hs, unwritableFields_grown hw hk hg hfits]

theorem unwritableIn?_evaluated {t : NamedType} (ht : t ∈ s.types) (hq : s.query ≠ some t.name) :
    unwritableIn? (grown s es) (t.evaluated s) = unwritableIn? s t := by
  have hinputs := (hw.refers t ht).inputs
  have hroot : t.name ≠ rootName s := fun h => hq ((hg.rootName_iff ht).mp h)
  have hdeclared : ∀ fs, declaredFields (grown s es) (t.evaluated s) fs = fs :=
    fun fs => if_neg fun h => hroot (Option.some.inj h).symm
  have hdeclared' : ∀ fs, declaredFields s t fs = fs := fun fs => if_neg hq
  have hfields : ∀ fs : List Field, (∀ v ∈ fs.flatMap (·.arguments), v.Fits s) →
      (fs.map (Field.evaluated s)).findSome?
          (fun f => f.arguments.findSome? (grown s es).unwritableDefault?)
        = fs.findSome? fun f => f.arguments.findSome? s.unwritableDefault? := fun fs hfits =>
    unwritableFields_grown hw hk hg fun f hf v hv => hfits v (List.mem_flatMap.mpr ⟨f, hf, hv⟩)
  unfold unwritableIn?
  cases hs : t.shape with
  | input o fs =>
    rw [hs] at hinputs
    simp only [NamedType.evaluated_shape, hs, TypeShape.mapInputs]
    exact (grown_evaluates es hw hk hg).unwritableDefaults hinputs
  | object is fs =>
    rw [hs] at hinputs
    simp only [NamedType.evaluated_shape, hs, TypeShape.mapInputs, TypeShape.fields, hdeclared,
      hdeclared']
    exact hfields fs hinputs
  | interface is fs =>
    rw [hs] at hinputs
    simp only [NamedType.evaluated_shape, hs, TypeShape.mapInputs, TypeShape.fields, hdeclared,
      hdeclared']
    exact hfields fs hinputs
  | _ =>
    simp only [NamedType.evaluated_shape, hs, TypeShape.mapInputs, TypeShape.fields, hdeclared,
      hdeclared', List.findSome?_nil]

theorem unwritableIn?_grown {t : NamedType} (ht : t ∈ serviceTypes s) :
    unwritableIn? (grown s es) (grownType s es t) = unwritableIn? s t := by
  obtain ⟨hmem, -, hplain⟩ := mem_serviceTypes.mp ht
  rw [grownType_plain hg hmem hplain]
  split
  · next hq => exact unwritableIn?_root hw hk hg hmem hq rfl rfl
  · next hq => exact unwritableIn?_evaluated hw hk hg hmem hq

theorem unwritable?_grown (hdirectives : (s.directives.map (·.name)).Nodup) :
    unwritable? (grown s es) = unwritable? s := by
  have hcreated : (if s.query.isNone then [queryType es] else []).findSome?
      (unwritableIn? (grown s es)) = none := by
    refine List.findSome?_eq_none_iff.mpr fun t ht => ?_
    split at ht
    · next hquery =>
      have hnone := declaredFields_queryType es (Option.isNone_iff_eq_none.mp hquery)
      rw [List.mem_singleton.mp ht]
      show (declaredFields (grown s es) (queryType es) (protocolFieldTypes es)).findSome? _ = none
      rw [hnone, List.findSome?_nil]
    · cases ht
  have htypes : (serviceTypes (grown s es)).findSome? (unwritableIn? (grown s es))
      = (serviceTypes s).findSome? (unwritableIn? s) := by
    rw [serviceTypes_grown hg, List.findSome?_append, hcreated, Option.or_none, List.findSome?_map]
    exact findSome?_eq_of_mem fun t ht => unwritableIn?_grown hw hk hg ht
  have hserved : (serviceDirectives (grown s es)).findSome?
        (fun d => d.arguments.findSome? (grown s es).unwritableDefault?)
      = (serviceDirectives s).findSome? fun d => d.arguments.findSome? s.unwritableDefault? := by
    rw [serviceDirectives_grown hdirectives, List.findSome?_map]
    refine findSome?_eq_of_mem fun d hd => (grown_evaluates es hw hk hg).unwritableDefaults ?_
    exact hw.directives d (List.mem_of_mem_filter (List.mem_of_mem_filter hd))
  rw [unwritable?, unwritable?, htypes, hserved]

end Parts
end Printing

/-- The protocol definitions leave no trace in the SDL. -/
theorem printSdl?_grown (es : List String) (hw : s.WellFormed) (hk : PlainKinds s)
    (hg : Growable s)
    (hfields : ∀ t ∈ s.types, s.query = some t.name → t.shape.fields ≠ [])
    (hdirectives : (s.directives.map (·.name)).Nodup)
    (hdescription : ∀ d, s.description = some d → Text.hasIndentedLine d = false)
    (hc : SameSettings c c') (hroot : s.query = none → c.get? defaultQuery = none) :
    printSdl? (grown s es) c' = printSdl? s c := by
  have hm : SameDirectives s (directiveMap s c) (directiveMap (grown s es) c') :=
    sameDirectives_grown hw hg hc hroot
  have hserved : (serviceDirectives (grown s es)).map (grown s es).printDirective
      = (serviceDirectives s).map s.printDirective := by
    rw [serviceDirectives_grown hdirectives, List.map_map]
    refine List.map_congr_left fun d hd => (grown_evaluates es hw hk hg).printDirective ?_
    exact hw.directives d (List.mem_of_mem_filter (List.mem_of_mem_filter hd))
  have hdefinitions : definitions (grown s es) c' = definitions s c := by
    simp only [definitions]
    rw [printDefinition_grown hw hk hg hm hfields hdescription, hserved,
      printTypes_grown hw hk hg hm hfields]
  rw [printSdl?, printSdl?, unwritable?_grown hw hk hg hdirectives, printSdl, printSdl, hdefinitions]

end Growing
end Federation
end Subgraph
