import Subgraph.Proofs.ReadSchemas

/-!
# Reading an SDL back

From the SDL of a schema a schema is built, and its SDL is the same text: what is told to the types and
members of the schema is told to those of the other one. Defaults are what can keep a schema from this:
one that cannot be written, that leads back to itself, that is nested deeper than a document may be, or that
holds a value which is written as another value.
-/

namespace Subgraph.Federation
open Build

/-- The defaults that an SDL shows keep their meaning where they are read again. -/
structure HasSteadyDefaults (s : Schema) : Prop where
  settled : s.Settled
  writable : ∀ v ∈ shownInputs s, s.unwritableDefault? v = none
  steady : ∀ v ∈ shownInputs s, ∀ d, v.default s = some d → d.isSteady s v.type = true
  shallow : ∀ v ∈ shownInputs s, ∀ l, shownDefault s v = some l → l.depth ≤ Document.deepestNesting

section Defaults
variable {s : Schema} (hs : IsReadable s)
include hs

theorem legible_shown {v : InputValue} (hv : v ∈ shownInputs s) : v.IsLegible := by
  rcases List.mem_append.mp hv with hv | hv
  · obtain ⟨d, hd, hv⟩ := List.mem_flatMap.mp hv
    exact (hs.legible.directives d hd).arguments v hv
  · obtain ⟨t, ht, hv⟩ := List.mem_flatMap.mp hv
    have hshape := (hs.legible.types t ht).shape
    have hfields : ∀ fs : List Field, (∀ f ∈ fs, f.IsLegible) → v ∈ fs.flatMap (·.arguments) →
        v.IsLegible := by
      intro fs hfs hmem
      obtain ⟨f, hf, hv⟩ := List.mem_flatMap.mp hmem
      exact (hfs f hf).arguments v hv
    cases hts : t.shape with
    | object is fs => rw [hts] at hshape hv; exact hfields fs hshape.2 hv
    | interface is fs => rw [hts] at hshape hv; exact hfields fs hshape.2 hv
    | input o fs => rw [hts] at hshape hv; exact hshape v hv
    | _ => rw [hts] at hv; cases hv

theorem typedInputs (hplain : ∀ n ∈ typeNames, (s.type? n).isNone = true) (hsettled : s.Settled) :
    s.HasTypedInputs where
  settled := hsettled
  distinct := (legibleInputs hs hplain).distinct
  values := by
    intro n o fs hsh f hf d hd
    rcases shape_cases hs hplain hsh with ⟨t, ht, rfl, hshape⟩ | ⟨b, hb, hshape⟩
    · exact hs.typed f (mem_shownInputs ht (by rw [hshape]; exact hf)) d hd
    · exact absurd hshape (builtin_ne_input hb o fs)

variable (c : Classification) (hplain : ∀ n ∈ typeNames, (s.type? n).isNone = true)
  (hdefaults : HasSteadyDefaults s)
include hplain hdefaults

theorem echoed_default {v : InputValue} (hv : v ∈ shownInputs s) {d : Value} (hd : v.default s = some d) :
    d.Echoed s (echo s c) v.type := by
  have htyped : d.HasType s v.type := by
    cases hv' : v.default? with
    | none => rw [InputValue.default, hv'] at hd; cases hd
    | some x =>
      cases x with
      | value w =>
        rw [InputValue.default, hv'] at hd
        exact Option.some.inj hd ▸ hs.typed v hv w hv'
      | written l =>
        rw [InputValue.default, hv'] at hd
        exact (typedInputs hs hplain hdefaults.settled).hasType d l v.type hd
  have hwritable := hdefaults.writable v hv
  rw [Schema.unwritableDefault?, hd] at hwritable
  exact htyped.echoed (echoes_echo c hs hplain) (legibleInputs hs hplain) (legible_shown hs hv).type.writable
    (known_echo c hs hplain hv) hwritable (hdefaults.steady v hv d hd)

theorem stable_shown : HasStableDefaults s (echo s c) ∧ HasLegibleDefaults s := by
  have hecho : ∀ v ∈ shownInputs s, ∀ l, shownDefault s v = some l →
      l.IsStable (echo s c) v.type ∧ l.IsWritable := by
    intro v hv l hl
    obtain ⟨l', hl', rfl⟩ := Option.map_eq_some_iff.mp hl
    obtain ⟨d, hd, hwritten⟩ := Option.bind_eq_some_iff.mp hl'
    obtain ⟨l'', hagain, hstable, hlegible⟩ := echoed_default hs c hplain hdefaults hv hd
    obtain rfl := Option.some.inj (hwritten.symm.trans hagain)
    exact ⟨hstable, hlegible⟩
  exact ⟨fun v hv l hl => (hecho v hv l hl).1,
    fun v hv l hl => ⟨(hecho v hv l hl).2, hdefaults.shallow v hv l hl⟩⟩

end Defaults

theorem rows_distinct {shape : TypeShape} (h : shape.Distinct) : (shape.rows.map (·.1)).Nodup := by
  cases shape with
  | object is fs =>
    rw [TypeShape.rows, List.map_map]
    exact h.1
  | interface is fs =>
    rw [TypeShape.rows, List.map_map]
    exact h.1
  | enum vs =>
    rw [TypeShape.rows, List.map_map]
    exact h
  | input o fs =>
    rw [TypeShape.rows, List.map_map]
    exact h
  | _ => exact List.nodup_nil

theorem printDefinition_rootless {s : Schema} (hdescribed : s.description.isSome = true → rootsOf s ≠ [])
    (hroots : rootsOf s = []) : printDefinition s [] = none := by
  have hnone : s.description = none := by
    rw [← Option.not_isSome_iff_eq_none]
    exact fun hsome => hdescribed hsome hroots
  have hdefault : s.hasDefaultRoots = true := by
    rw [Schema.hasDefaultRoots, List.all_eq_true]
    intro k _
    cases hk : s.root k with
    | none => rfl
    | some n =>
      have hmem := (mem_rootsOf s).mpr hk
      rw [hroots] at hmem
      cases hmem
  rw [printDefinition, Schema.printDefinition, hnone, hdefault]
  rfl

theorem printSdl?_of_writable {s : Schema} (h : ∀ v ∈ shownInputs s, s.unwritableDefault? v = none)
    (c : Classification) : printSdl? s c = .ok (printSdl s c) := by
  have htypes : (serviceTypes s).findSome? (unwritableIn? s) = none :=
    List.findSome?_eq_none_iff.mpr fun t ht => unwritableIn?_eq_none fun v hv => h v (mem_shownInputs ht hv)
  have hdirectives : (serviceDirectives s).findSome? (fun d => d.arguments.findSome? s.unwritableDefault?)
      = none :=
    List.findSome?_eq_none_iff.mpr fun d hd => List.findSome?_eq_none_iff.mpr fun v hv =>
      h v (List.mem_append_left _ (List.mem_flatMap.mpr ⟨d, hd, hv⟩))
  rw [printSdl?, unwritable?, htypes, hdirectives]
  rfl

/-- The query root that a reader of the SDL takes has no protocol fields. -/
def HasOwnFields (s : Schema) : Prop :=
  ∀ t ∈ serviceTypes s, s.query = some t.name ∨ schemaSource s = none ∧ t.name = Schema.defaultRoot .query →
    ∀ f ∈ t.shape.fields, isFieldName f.name = false

section Echoed
variable {s : Schema} (c : Classification)

theorem rows_echo (hs : IsReadable s) : ∀ u ∈ serviceTypes (echo s c), (u.shape.rows.map (·.1)).Nodup := by
  rw [serviceTypes_echo]
  intro u hu
  obtain ⟨t, ht, rfl⟩ := List.mem_map.mp hu
  exact rows_distinct (distinct_echoShape (hs.distinct t ht))

theorem query_echo {n : String} (h : (echo s c).query = some n) :
    s.query = some n ∨ schemaSource s = none ∧ n = Schema.defaultRoot .query := by
  have htaken : takenRoot s c .query = some n := h
  rw [takenRoot] at htaken
  cases hschema : schemaSource s with
  | some d =>
    rw [hschema] at htaken
    exact .inl htaken
  | none =>
    rw [hschema, Option.isSome_none, if_neg Bool.false_ne_true] at htaken
    split at htaken
    · exact .inr ⟨rfl, (Option.some.inj htaken).symm⟩
    · cases htaken

theorem declaredFields_echo (hfields : HasOwnFields s) : ∀ u ∈ serviceTypes (echo s c),
    declaredFields (echo s c) u u.shape.fields = u.shape.fields := by
  rw [serviceTypes_echo]
  intro u hu
  obtain ⟨t, ht, rfl⟩ := List.mem_map.mp hu
  refine declaredFields_all fun hq f hf => ?_
  have hname : f.name ∈ t.shape.fields.map (·.name) := by
    rw [← names_echoFields (s := s)]
    exact List.mem_map_of_mem hf
  obtain ⟨g, hg, hgf⟩ := List.mem_map.mp hname
  rw [← hgf]
  exact hfields t ht (query_echo c hq) g hg

theorem described_echo : (echo s c).description.isSome = true → rootsOf (echo s c) ≠ [] := by
  intro hdescribed
  cases hschema : schemaSource s with
  | none =>
    have hnone : (echo s c).description = none := by
      show (schemaSource s).bind _ = _
      rw [hschema]
      rfl
    rw [hnone] at hdescribed
    cases hdescribed
  | some d =>
    rw [(roots_defined c hschema).1]
    intro hroots
    rw [schemaSource, hroots, List.isEmpty_nil, Bool.or_true, if_pos rfl] at hschema
    cases hschema

end Echoed

/-- The SDL of a readable schema is read as a schema with the same SDL, which tells the same directives to
the same types and members. -/
theorem IsReadable.read_printSdl {s : Schema} (hs : IsReadable s) (c : Classification)
    (hplain : ∀ n ∈ typeNames, (s.type? n).isNone = true) (hfields : HasOwnFields s)
    (hdefaults : HasSteadyDefaults s) (hne : definitions s c ≠ []) : ∃ sdl s', printSdl? s c = .ok sdl
      ∧ Schema.read sdl true = .ok s' ∧ printSdl? s' ⟨[]⟩ = .ok sdl
        ∧ directiveMap s' ⟨[]⟩ = directiveMap s c := by
  have hall : ∀ t ∈ serviceTypes s, declaredFields s t t.shape.fields = t.shape.fields :=
    fun t ht => declaredFields_all fun hq => hfields t ht (.inl hq)
  obtain ⟨hstable, hlegible⟩ := stable_shown hs c hplain hdefaults
  have htext := text_definitions (c := c) hs.names (fun t ht => rows_distinct (hs.distinct t ht)) hall
    (printDefinition_rootless hs.described)
  have hsource : source s c ≠ [] := by
    intro hnil
    rw [htext, hnil] at hne
    exact hne rfl
  have hwritable := writable_source c hlegible hs.legible
  have hread : Schema.read (source s c).text true = .ok (echo s c) := by
    rw [Schema.read, Document.parse_text hsource hwritable]
    show (Schema.build (source s c)).mapError _ = _
    rw [build_source c hs hplain]
    rfl
  have htextAgain := text_definitions (c := ⟨[]⟩) (placed_echo c hs).distinct (rows_echo c hs)
    (declaredFields_echo c hfields) (printDefinition_rootless (described_echo c))
  have hagain : printSdl (echo s c) ⟨[]⟩ = printSdl s c := by
    rw [printSdl, htextAgain, source_echo c hstable hs, ← htext, ← printSdl]
  rw [← printSdl_source htext hsource hwritable] at hread
  refine ⟨_, echo s c, printSdl?_of_writable hdefaults.writable c, hread, ?_, directiveMap_echo c⟩
  rw [printSdl?, unwritable?_echo c hstable hs, hagain]

section Shop

/-- Whether no input field has a default, and the defaults of all arguments keep their meaning. -/
def hasPlainDefaults (s : Schema) : Bool :=
  (s.types.all fun t => match t.shape with
    | .input _ fs => fs.all (·.default?.isNone)
    | _ => true)
  && (shownInputs s).all fun v => (s.unwritableDefault? v).isNone && (v.default s).all (·.isSteady s v.type)
    && (shownDefault s v).all (decide <| ·.depth ≤ Document.deepestNesting)

theorem hasSteadyDefaults_of_plain {s : Schema} (h : hasPlainDefaults s = true) : HasSteadyDefaults s := by
  obtain ⟨htypes, hshown⟩ := Bool.and_eq_true_iff.mp h
  rw [List.all_eq_true] at htypes hshown
  have hone : ∀ v ∈ shownInputs s,
      (s.unwritableDefault? v = none ∧ (v.default s).all (·.isSteady s v.type) = true)
      ∧ (shownDefault s v).all (decide <| ·.depth ≤ Document.deepestNesting) = true := by
    intro v hv
    have hboth := hshown v hv
    rwa [Bool.and_eq_true_iff, Bool.and_eq_true_iff, Option.isNone_iff_eq_none] at hboth
  refine ⟨Schema.settled_of_no_defaults fun t ht o fs hshape f hf => ?_, fun v hv => (hone v hv).1.1,
    fun v hv d hd => ?_, fun v hv l hl => ?_⟩
  · have htype := htypes t ht
    rw [hshape] at htype
    exact Option.isNone_iff_eq_none.mp (List.all_eq_true.mp htype f hf)
  · have hsteady := (hone v hv).1.2
    rwa [hd] at hsteady
  · have hdepth := (hone v hv).2
    rw [hl] at hdepth
    exact of_decide_eq_true hdepth

def shopText : String :=
  "directive @tag(name: String!) on OBJECT | FIELD_DEFINITION\n"
    ++ "enum Unit \x7b KG LB \x7d\n"
    ++ "\"An item\\n  of \\\"the\\\" shop\"\n"
    ++ "type Item @tag(name: \"a\\\"b\") \x7b id: ID! @tag(name: \"\")\n"
    ++ "  weight(in: [Unit] = KG): Float @deprecated(reason: \"old\") \x7d\n"
    ++ "type Query \x7b item(id: ID = \"7\"): Item \x7d\n"

def shopConfig : Config := [("Item", ⟨[["id"]], true, none⟩)]

def shopSdl : String :=
  "directive @tag(name: String!) on OBJECT | FIELD_DEFINITION\n\n"
    ++ "enum Unit \x7b\n  KG\n  LB\n\x7d\n\n"
    ++ "\"\"\"\nAn item\n  of \"the\" shop\n\"\"\"\n"
    ++ "type Item @tag(name: \"a\\\"b\") @key(fields: \"id\") @extends \x7b\n  id: ID! @tag(name: \"\")\n"
    ++ "  weight(in: [Unit] = [KG]): Float @deprecated(reason: \"old\")\n\x7d\n\n"
    ++ "type Query \x7b\n  item(id: ID = 7): Item\n\x7d\n"

/-- The SDL of what is read from a text, if nothing keeps it from being read back. -/
def readableSdl (text : String) (config : Config) : Option String :=
  (Schema.read text false).toOption.bind fun s => (classify s config).toOption.bind fun c =>
    if (typeNames.all fun n => (s.type? n).isNone)
        && ((serviceTypes s).all fun t => t.shape.fields.all fun f => !isFieldName f.name)
        && hasPlainDefaults s && !(definitions s c).isEmpty then (printSdl? s c).toOption
    else none

end Shop

section Shifts

/-- A text is read as a schema without a type of the protocol and without protocol fields on its query root,
whose SDL is read as a schema with another SDL. -/
def Shifts (text sdl sdl' : String) : Prop :=
  ∃ s s', Schema.read text false = .ok s ∧ (∀ n ∈ typeNames, (s.type? n).isNone = true)
    ∧ (∀ t ∈ serviceTypes s, s.query = some t.name → ∀ f ∈ t.shape.fields, isFieldName f.name = false)
    ∧ definitions s ⟨[]⟩ ≠ [] ∧ printSdl? s ⟨[]⟩ = .ok sdl ∧ Schema.read sdl true = .ok s'
    ∧ printSdl? s' ⟨[]⟩ = .ok sdl' ∧ sdl' ≠ sdl

/-- The SDL of a schema without settings, and the SDL of what is read from it. -/
def printedTwice (text : String) : Option (String × String) :=
  (Schema.read text false).toOption.bind fun s =>
    if (typeNames.all fun n => (s.type? n).isNone)
        && ((serviceTypes s).all fun t => s.query != some t.name
          || t.shape.fields.all fun f => !isFieldName f.name)
        && !(definitions s ⟨[]⟩).isEmpty then
      (printSdl? s ⟨[]⟩).toOption.bind fun sdl => (Schema.read sdl true).toOption.bind fun s' =>
        (printSdl? s' ⟨[]⟩).toOption.map (sdl, ·)
    else none

theorem shifts_of_printedTwice {text sdl sdl' : String} (h : printedTwice text = some (sdl, sdl'))
    (hne : sdl' ≠ sdl) : Shifts text sdl sdl' := by
  obtain ⟨s, hs, h⟩ := Option.bind_eq_some_iff.mp h
  split at h
  · next hall =>
    rw [Bool.and_eq_true_iff, Bool.and_eq_true_iff, List.all_eq_true, List.all_eq_true] at hall
    obtain ⟨⟨hplain, hown⟩, hdefined⟩ := hall
    obtain ⟨x, hx, h⟩ := Option.bind_eq_some_iff.mp h
    obtain ⟨s', hs', h⟩ := Option.bind_eq_some_iff.mp h
    obtain ⟨x', hx', hpair⟩ := Option.map_eq_some_iff.mp h
    obtain ⟨rfl, rfl⟩ := Prod.mk.inj hpair
    refine ⟨s, s', Except.of_toOption hs, hplain, fun t ht hq f hf => ?_, fun hnil => ?_,
      Except.of_toOption hx, Except.of_toOption hs', Except.of_toOption hx', hne⟩
    · have hfields := hown t ht
      rw [hq, bne_self_eq_false, Bool.false_or] at hfields
      simpa using List.all_eq_true.mp hfields f hf
    · rw [hnil] at hdefined
      cases hdefined
  · cases h

end Shifts

end Subgraph.Federation
