import Subgraph.Proofs.GrownProblems
import Subgraph.Proofs.Transforming
import Subgraph.Proofs.WidenedExecution
import Subgraph.Proofs.WidenedValidity
import Subgraph.Query.Answer

/-!
# The protocol definitions are a conservative extension

A request that a service answers is answered alike after its schema has taken the protocol
definitions: the document stays valid and gives the same data and the same errors. What is left out
is what cannot stay the same: operations that ask objects of the query root for the fields of the
protocol after all, directives that are defined several times, and the words in which a value is
refused that claims to be of a type of the protocol.
-/

namespace Subgraph
open Exec

/-- The same data, and errors that say the same at the same paths, or what `M` lets stand for it. -/
structure Response.Alike (M : String → String → Prop) (r r' : Response) : Prop where
  data : r'.data = r.data
  errors : List.Forall₂ (QueryError.Parallel (fun p p' => p' = p) M) r.errors r'.errors

/-- Alike responses, or the same fault. -/
inductive SameAnswer (M : String → String → Prop) :
    Except RequestFault Response → Except RequestFault Response → Prop
  | fault (f : RequestFault) : SameAnswer M (.error f) (.error f)
  | response {r r' : Response} (alike : r.Alike M r') : SameAnswer M (.ok r) (.ok r')

namespace Response
variable {M : String → String → Prop}

theorem Alike.refused {errors : List QueryError} (h : ∀ e ∈ errors, e.path = none) :
    (refused errors).Alike M (refused errors) := by
  refine ⟨rfl, List.forall₂_same.mpr fun e he => ⟨rfl, .inl rfl, ?_⟩⟩
  rw [h e he]
  exact .none

theorem Alike.of_execution {r r' : Except QueryError Value × Notes}
    (h : Exec.Alike (fun p p' => p' = p) M r r') : (ofExecution r).Alike M (ofExecution r') := by
  obtain ⟨result, notes⟩ := r
  obtain ⟨result', notes'⟩ := r'
  obtain ⟨hresult, herrors, hlater⟩ := h
  have hat : List.Forall₂ (QueryError.Parallel (fun p p' => p' = p) M) notes.errors notes'.errors :=
    herrors.imp fun _ _ he => he.1
  have hafter : List.Forall₂ (QueryError.Parallel (fun p p' => p' = p) M)
      (Waiting.allErrors notes.waiting) (Waiting.allErrors notes'.waiting) :=
    hlater.imp fun _ _ he => he.1
  cases hresult with
  | ok v => exact ⟨rfl, List.rel_append hat hafter⟩
  | error he => exact ⟨rfl, List.rel_append hat (.cons he .nil)⟩

end Response

/-- The values of variables that come with a request. -/
def QueryRequest.given (r : QueryRequest) : Entries Value :=
  match r.bindings with
  | .record es => es
  | _ => []

theorem onlyOperation_mem {c : QueryContext} {o : Operation Nat} (h : onlyOperation c = .ok o) :
    o ∈ c.operations := by
  unfold onlyOperation at h
  split at h
  · cases h
  · next o' hs =>
    cases h
    rw [hs]
    exact List.mem_singleton_self _
  · cases h

/-- The operation of a document, with the variables of a request, asks no object of the query root
for a field of one of these names. -/
def Service.Avoids (x : Service) (doc : Document Nat) (r : QueryRequest) (names : List String) :
    Prop :=
  ∀ o vs, onlyOperation (QueryContext.ofDocument x.schema doc) = .ok o →
    variableValues x.schema r.given o.variableDefinitions = .ok (.ok vs) →
    Scope.Avoids ⟨QueryContext.ofDocument x.schema doc, vs⟩ o names

section Unwritten
variable {names : List String} {sc : Scope} {o : Operation Nat}

theorem Scope.Asks.every {p : FieldNode → Prop}
    (ho : EverySelection p (fun _ => True) (fun _ => True) o.selections)
    (hfragments : ∀ f ∈ sc.query.fragments,
      EverySelection p (fun _ => True) (fun _ => True) f.selections)
    {t : NamedType} {nodes : List FieldNode} (h : sc.Asks o t nodes) :
    ∀ n ∈ nodes, n.Every p (fun _ => True) fun _ => True := by
  have hagree : ∀ t, Scope.Agree p (fun _ => True) (fun _ => True) sc sc t t := fun t =>
    ⟨rfl, rfl, fun f hf => ⟨trivial, hfragments f hf⟩, fun _ _ => rfl, fun _ _ => rfl⟩
  induction h with
  | top _ hcollected hasked => exact ((hagree _).fieldsOf ho).2 _ hcollected _ hasked
  | under _ _ _ _ hcollected hasked ih =>
    exact ((hagree _).fieldsBelow fun n hn => (ih n hn).2).2 _ hcollected _ hasked

/-- Nothing in a document is written that goes by one of these names. -/
def QueryContext.Unwritten (c : QueryContext) (names : List String) : Prop :=
  (∀ o ∈ c.operations,
      EverySelection (·.name ∉ names) (fun _ => True) (fun _ => True) o.selections)
    ∧ ∀ f ∈ c.fragments,
      EverySelection (·.name ∉ names) (fun _ => True) (fun _ => True) f.selections

instance (c : QueryContext) : DecidablePred c.Unwritten := fun names =>
  inferInstanceAs (Decidable ((∀ o ∈ c.operations,
      EverySelection (·.name ∉ names) (fun _ => True) (fun _ => True) o.selections)
    ∧ ∀ f ∈ c.fragments,
      EverySelection (·.name ∉ names) (fun _ => True) (fun _ => True) f.selections))

theorem Service.avoids_of_unwritten {x : Service} {doc : Document Nat} (r : QueryRequest)
    (h : (QueryContext.ofDocument x.schema doc).Unwritten names) : x.Avoids doc r names :=
  fun o _ ho _ _ n _ hasks _ =>
    (hasks.every (h.1 o (onlyOperation_mem ho)) h.2 n List.mem_cons_self).1

end Unwritten

theorem Service.answer_of_valid (x : Service) (r : QueryRequest) (calls : Nat) {doc : Document Nat}
    (hschema : x.schema.problems = []) (hdoc : Document.parse Nat r.text = .ok doc)
    (hvalid : Document.issues x.schema doc = .ok []) :
    x.answer r calls = match r.bindings with
      | .null | .record _ => x.execute (QueryContext.ofDocument x.schema doc) r r.given calls
      | _ => .error .bindings := by
  have hissues : (QueryContext.ofDocument x.schema doc).issues = .ok [] := hvalid
  simp only [Service.answer, hschema, hdoc, hissues, QueryRequest.given]
  cases r.bindings <;> rfl

section Execute
variable {extra : NamedType → List Field} {shared : String → Prop} {x y : Service}

/-- A document that asks for no further field and for no part of the schema is executed alike. -/
theorem Service.Widens.execute (h : x.Widens extra shared y) {c : QueryContext}
    (hq : c.schema = x.schema) (hc : c.Clear)
    (hinputs : ∀ o ∈ c.operations, ∀ v ∈ o.variableDefinitions,
      (x.schema.shape? v.type.base).any TypeShape.isInput = true)
    {inputs : Entries Value}
    (hasks : ∀ o vs, onlyOperation c = .ok o →
      variableValues x.schema inputs o.variableDefinitions = .ok (.ok vs) →
      ∀ t n more, Scope.Asks ⟨c, vs⟩ o t (n :: more) → (∀ f ∈ extra t, f.name ≠ n.name)
        ∧ (x.schema.query = some t.name → n.name ≠ "__schema" ∧ n.name ≠ "__type"))
    (r : QueryRequest) (calls calls' : Nat) :
    SameAnswer (Misnamed shared) (x.execute c r inputs calls)
      (y.execute (c.on y.schema) r inputs calls') := by
  unfold Service.execute
  rw [show onlyOperation (c.on y.schema) = onlyOperation c from rfl]
  cases ho : onlyOperation c with
  | error m => exact .response (.refused fun e he => by rw [List.mem_singleton.mp he]; rfl)
  | ok o =>
    have hmem : o ∈ c.operations := onlyOperation_mem ho
    simp only [h.schema.variableValues h.settled inputs (hinputs o hmem)]
    cases hvs : variableValues x.schema inputs o.variableDefinitions with
    | error f => exact .fault _
    | ok given =>
      cases given with
      | error issues =>
        refine .response (.refused fun e he => ?_)
        obtain ⟨i, -, rfl⟩ := List.mem_map.mp he
        rfl
      | ok vs =>
        let env : Env := ⟨⟨c, vs⟩, x, o, r.context, r.root, r.waits⟩
        have hwidens : env.service.Widens extra shared y := h
        have hsimilar := Env.executeOperation_on hwidens hq hc hmem (hasks o vs ho hvs)
        exact .response (.of_execution (hsimilar calls calls'))

end Execute

namespace Federation
open Config Build

section Widens
variable {x y : Service} {config : Config} {c : Classification} {sdl : String}
  (hs : Unfederated x.schema) (h : Transforms x config c sdl y)
include hs h

theorem Transforms.grown : y.schema = Federation.grown x.schema c.entityNames := by
  obtain ⟨s, hadd, -⟩ := extend_eq h.extends
  have hobjects : ∀ n ∈ c.entityNames, x.schema.isObject n = true := by
    obtain ⟨-, rfl⟩ := classify_ok_iff.mp h.fits
    exact fun n hn => entityNames_objects hn
  have hduplicate := duplicate?_evaluated.symm.trans (adds_of_ok hadd).specified
  have hextend := extend_additions hs.wellFormed hs.unserved.kinds.toProtocolKinds hs.unserved.growable
    hobjects hduplicate
  exact Except.ok.inj (h.extends.symm.trans hextend)

omit h in
theorem definedNames_kept (es : List String) {n : String} (hn : isTypeName n = false) :
    (definedNames (additions x.schema es)).contains n = false := by
  have hcreates : createsRoot x.schema = false := by
    rw [createsRoot, hs.query_isSome]
    rfl
  rw [definedNames, (parts_additions x.schema es).1, hcreates,
    if_neg Bool.false_ne_true, List.append_nil, Bool.eq_false_iff]
  intro hmem
  obtain ⟨d, hd, hname⟩ := List.mem_map.mp (List.contains_iff_mem.mp hmem)
  subst hname
  rcases commonDefinitions_names hd with hd | hd | ⟨hd, -⟩ | ⟨hd, -⟩ <;> rw [hd] at hn <;> cases hn

theorem Transforms.resolver?_kept {t : NamedType} (ht : t ∈ x.schema.types) {n : String}
    (hn : ∀ f ∈ rootFields x.schema c.entityNames t, f.name ≠ n) :
    y.resolver? t.name n = x.resolver? t.name n := by
  obtain ⟨u, -, hquery, -⟩ := hs.root
  have hprotocol : ∀ r ∈ protocolResolvers (rootName x.schema) c sdl, r.1 ≠ (t.name, n) := by
    intro r hr heq
    obtain ⟨hname, f, hf, hfield⟩ := mem_protocolResolvers hr
    have hroot : x.schema.query = some t.name := by
      rw [heq, rootName, hquery, Option.getD_some] at hname
      rw [hquery, ← hname]
    rw [heq] at hfield
    exact hn f (by rw [rootFields, if_pos hroot]; exact hf) hfield
  have hnone : (protocolResolvers (rootName x.schema) c sdl).lookup (t.name, n) = none :=
    List.lookup_eq_none_iff.mpr fun r hr => bne_iff_ne.mpr fun heq => hprotocol r hr heq.symm
  have hany : (protocolResolvers (rootName x.schema) c sdl).any (·.1 == (t.name, n)) = false :=
    List.any_eq_false.mpr fun r hr heq => hprotocol r hr (eq_of_beq heq)
  rw [Service.resolver?, h.resolvers, List.lookup_append, hnone, Option.none_or]
  refine lookup_filter (p := fun k =>
    !(definedNames (additions x.schema c.entityNames)).contains k.1
      && !((protocolResolvers (rootName x.schema) c sdl).any (·.1 == k))) ?_ x.resolvers
  rw [definedNames_kept hs _ (hs.unserved.plain ht), hany]
  rfl

/-- A transformed service answers like the service that it was made from, wherever that one has
types and fields. -/
theorem Transforms.widens (hplain : ∀ r ∈ x.resolvers, ∀ c, r.2 ≠ .entities c) :
    x.Widens (rootFields x.schema c.entityNames) (fun n => isTypeName n = false) y where
  schema := by
    rw [h.grown hs]
    exact hs.widens c.entityNames
  settled := hs.settled
  resolver? := fun _ ht _ hn => h.resolver?_kept hs ht hn
  typeCheck? := by
    intro n hn
    rw [Service.typeCheck?, h.typeChecks]
    refine lookup_filter (p := fun k =>
      !(definedNames (additions x.schema c.entityNames)).contains k) ?_ x.typeChecks
    rw [definedNames_kept hs _ hn]
    rfl
  tagged := by
    intro n hn
    have hother : n ≠ entityUnion := by
      rintro rfl
      cases hn
    rw [h.taggedTypes]
    split
    · rfl
    · rw [List.contains_cons, beq_eq_false_iff_ne.mpr hother, Bool.false_or]
  plain := hplain

end Widens

section Transform
variable {registry : Registry} {x y : Service} {raw : Raw} {config : Config}

/-- A service is transformed only where its SDL can be written and no specified directive has an
argument of a type that is not built in. -/
theorem Transforms.conditions {c : Classification} {sdl : String} (h : Transforms x config c sdl y) :
    unwritable? x.schema = none ∧ duplicate? x.schema.directives = none := by
  obtain ⟨s, hadd, -⟩ := extend_eq h.extends
  exact ⟨(printSdl?_ok_iff.mp h.writes).1, duplicate?_evaluated.symm.trans (adds_of_ok hadd).specified⟩

theorem conditions_of_isOk {old : List LogRecord}
    (hok : (transform registry x raw old).1.isOk = true) :
    unwritable? x.schema = none ∧ duplicate? x.schema.directives = none := by
  cases hy : (transform registry x raw old).1 with
  | error e =>
    rw [hy] at hok
    cases hok
  | ok y =>
    obtain ⟨_, _, _, -, h⟩ := transform_ok hy
    exact h.conditions

theorem transform_isOk_of_yields (hparse : parse registry raw = .ok config)
    (h : Logged.Yields (transformBy x config) y) (old : List LogRecord) :
    (transform registry x raw old).1.isOk = true := by
  have hall : Logged.Yields (transform registry x raw) y :=
    .bind (.ofExcept hparse) (.bind (.say _) h)
  rw [hall old]
  rfl

/-- A configuration that fits a schema transforms it, if the SDL can be written and no specified
directive keeps the schema from being extended. -/
theorem transform_isOk_iff {old : List LogRecord} (hs : Unfederated x.schema)
    (hparse : parse registry raw = .ok config) (haccepts : Accepts x.schema config) :
    (transform registry x raw old).1.isOk = true
      ↔ unwritable? x.schema = none ∧ duplicate? x.schema.directives = none := by
  refine ⟨conditions_of_isOk, fun ⟨hwritable, hspecified⟩ => ?_⟩
  obtain ⟨y, hyields, -⟩ := transformBy_yields hs.wellFormed hs.unserved.kinds.toProtocolKinds
    hs.unserved.growable hwritable hspecified haccepts
  exact transform_isOk_of_yields hparse hyields old

end Transform

/-- The fields that objects of a transformed query root have besides their own. -/
def rootOnlyFields : List String := fieldNames ++ ["__schema", "__type"]

section Request
variable {x y : Service} {config : Config} {c : Classification} {sdl : String}
  (hs : Unfederated x.schema) (h : Transforms x config c sdl y)
include hs h

theorem Transforms.problems_eq_nil (hnames : (config.map (·.1)).Nodup) :
    y.schema.problems = [] := by
  rw [h.grown hs]
  refine hs.unserved.problems_grown c.entityNames ?_
  obtain ⟨haccepts, rfl⟩ := classify_ok_iff.mp h.fits
  rw [haccepts.entityNames]
  exact hnames.sublist (List.filter_sublist.map _)

end Request

theorem unasked_of_avoids {x : Service} {doc : Document Nat} {r : QueryRequest}
    (h : x.Avoids doc r rootOnlyFields) (es : List String) {o : Operation Nat} {vs : Entries Value}
    (ho : onlyOperation (QueryContext.ofDocument x.schema doc) = .ok o)
    (hvs : variableValues x.schema r.given o.variableDefinitions = .ok (.ok vs))
    {t : NamedType} {n : FieldNode} {more : List FieldNode}
    (hasked : Scope.Asks ⟨QueryContext.ofDocument x.schema doc, vs⟩ o t (n :: more)) :
    (∀ f ∈ rootFields x.schema es t, f.name ≠ n.name)
      ∧ (x.schema.query = some t.name → n.name ≠ "__schema" ∧ n.name ≠ "__type") := by
  have hnames := h o vs ho hvs t n more hasked
  refine ⟨fun f hf hname => ?_, fun hroot => ⟨fun hname => ?_, fun hname => ?_⟩⟩
  · by_cases hroot : x.schema.query = some t.name
    · rw [rootFields, if_pos hroot] at hf
      have hnamed := protocolFieldTypes_named f hf
      rw [Bool.not_eq_false'] at hnamed
      exact hnames hroot (hname ▸ List.mem_append_left _ (List.contains_iff_mem.mp hnamed))
    · rw [rootFields, if_neg hroot] at hf
      cases hf
  · exact hnames hroot (by rw [hname]; decide)
  · exact hnames hroot (by rw [hname]; decide)

section Requests

theorem unfederated_of_query {own : List NamedType} {fields : List Field}
    {directives : List DirectiveType}
    (hw : (schemaOf (queryOf fields :: own) directives).WellFormed)
    (hvalid : (schemaOf (queryOf fields :: own) directives).problems = [])
    (hundeclared : ∀ n ∈ typeNames,
      ((schemaOf (queryOf fields :: own) directives).type? n).isNone = true)
    (hfields : ∀ n ∈ fieldNames, ((queryOf fields).field? n).isNone = true)
    (houtput : ∀ t ∈ (schemaOf (queryOf fields :: own) directives).types, t.shape.isOutput = true) :
    Unfederated (schemaOf (queryOf fields :: own) directives) where
  wellFormed := hw
  valid := hvalid
  undeclared := hundeclared
  root := ⟨queryOf fields, List.mem_cons_self, rfl, rfl, rfl, hfields⟩
  settled := by
    refine Schema.settled_of_no_defaults fun t ht o fs hshape => ?_
    have hoption := houtput t ht
    rw [hshape] at hoption
    cases hoption

theorem unfederated_shop : Unfederated shop :=
  unfederated_of_query (by decide +kernel) (by decide +kernel) (by decide +kernel)
    (by decide +kernel) (by decide +kernel)

theorem plain_ofSchema (s : Schema) :
    ∀ r ∈ (Service.ofSchema s).resolvers, ∀ c, r.2 ≠ .entities c := fun _ hr => by cases hr

/-- A request for a product that is there. -/
def productRequest : QueryRequest :=
  ⟨"\x7b product \x7b id \x7d \x7d", .null,
    .record [("product", .record [("id", .text "1")])], .null, false⟩

/-- Whatever is valid and does not ask for parts of the schema stays valid, and it is answered with
the same data and the same errors word for word. -/
def Conserves (registry : Registry) (x : Service) (raw : Raw) : Prop :=
  ∀ y, (transform registry x raw []).1 = .ok y → ∀ r doc, Document.parse Nat r.text = .ok doc →
    Document.issues x.schema doc = .ok [] →
    (∀ o ∈ (QueryContext.ofDocument x.schema doc).operations, o.kind ≠ .subscription) →
    (QueryContext.ofDocument x.schema doc).Unwritten ["__schema", "__type"] →
    Document.issues y.schema doc = .ok [] ∧ SameAnswer Verbatim (x.answer r 0) (y.answer r 0)

/-- What a response shows. -/
def shown (a : Except RequestFault Response) : Option (String × List QueryError) :=
  a.toOption.map fun r => (r.data.inspectTo 4, r.errors)

theorem shown_eq {a b : Except RequestFault Response} (h : SameAnswer Verbatim a b) :
    shown b = shown a := by
  cases h with
  | fault f => rfl
  | @response r r' alike =>
    have herrors := alike.errors.imp fun _ _ he => (he.eq fun _ _ hp => hp).symm
    rw [List.forall₂_eq_eq_eq] at herrors
    show some (r'.data.inspectTo 4, r'.errors) = some (r.data.inspectTo 4, r.errors)
    rw [alike.data, herrors]

/-- Whether a transformation without configuration changes what a request is answered. -/
def changed (s : Schema) (r : QueryRequest) : Bool :=
  match (transform shopRegistry (.ofSchema s) (.record []) []).1, Document.parse Nat r.text with
  | .ok y, .ok doc =>
    decide (Document.issues s doc = .ok []
        ∧ (∀ o ∈ (QueryContext.ofDocument s doc).operations, o.kind ≠ .subscription)
        ∧ (QueryContext.ofDocument s doc).Unwritten ["__schema", "__type"])
      && (Document.issues y.schema doc != .ok []
        || shown ((Service.ofSchema s).answer r 0) != shown (y.answer r 0))
  | _, _ => false

theorem not_conserves {s : Schema} {r : QueryRequest} (h : changed s r = true) :
    ¬ Conserves shopRegistry (.ofSchema s) (.record []) := by
  intro hconserves
  unfold changed at h
  split at h
  · next y doc hy hdoc =>
    obtain ⟨hclean, hdiffers⟩ := Bool.and_eq_true_iff.mp h
    obtain ⟨hvalid, hkinds, hunwritten⟩ := of_decide_eq_true hclean
    obtain ⟨hissues, hsame⟩ := hconserves y hy r doc hdoc hvalid hkinds hunwritten
    rw [hissues, shown_eq hsame] at hdiffers
    simp at hdiffers
  · cases h

/-- A product that claims to be of the service type. -/
def nodes : Schema :=
  schemaOf [queryOf [⟨none, "node", [], .named "Node", none, []⟩],
    ⟨none, "Node", .interface [] [⟨none, "id", [], .named "ID", none, []⟩], []⟩,
    ⟨none, "Product", .object ["Node"] [⟨none, "id", [], .named "ID", none, []⟩], []⟩] []

def nodeRequest : QueryRequest :=
  ⟨"\x7b node \x7b id \x7d \x7d", .null,
    .record [("node", .record [("__typename", .text serviceType), ("id", .text "1")])], .null,
    false⟩

/-- A field of another type that is called like the one for the service. -/
def detours : Schema :=
  schemaOf [queryOf [⟨none, "foo", [], .named "Foo", none, []⟩],
    ⟨none, "Foo", .object [] [⟨none, "a", [], .named defaultQuery, none, []⟩,
      ⟨none, "b", [], .named "Bar", none, []⟩], []⟩,
    ⟨none, "Bar", .object [] [⟨none, serviceField, [], .named "Int", none, []⟩], []⟩] []

/-- Fields that are selected as one although they differ: that a fragment has been compared once
hides the conflict. -/
def detourRequest : QueryRequest :=
  ⟨"\x7b first: foo \x7b ...F \x7d second: foo \x7b k: a \x7b __typename \x7d ...F \x7d \x7d"
      ++ " fragment F on Foo \x7b ...G \x7d fragment G on Foo \x7b k: b \x7b _service \x7d \x7d",
    .null, .record [("foo", .record [("a", .record [("x", .int 1)]),
      ("b", .record [(serviceField, .int 1)])])], .null, false⟩

/-- A directive that is defined twice. -/
def twofold : Schema :=
  schemaOf [queryOf [⟨none, "n", [], .named "Int", none, []⟩]]
    [⟨none, "a", [⟨none, "x", .named "Int", none, none, []⟩], false, ["FIELD"]⟩,
      ⟨none, "a", [⟨none, "x", .named "String", none, none, []⟩], false, ["FIELD"]⟩]

def twofoldRequest : QueryRequest := ⟨"\x7b n @a(x: 1) \x7d", .null, .null, .null, false⟩

end Requests

end Federation
end Subgraph
