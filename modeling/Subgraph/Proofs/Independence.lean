import Subgraph.Proofs.Retransform
import Subgraph.Proofs.Slots

/-!
# Every representation is answered on its own

A query for a list of entities gives one entry for each representation, whatever becomes of the
others. The entry, with the errors at it and below it, is the one that the query gives for the list
of this representation alone. The list may be the value of a variable or be written in the query;
nothing else in the query may depend on it.
-/

namespace Subgraph

namespace QueryError

/-- Whether an error is at an item of the list under a key, or below it. -/
def isAt (key : String) (i : Nat) (e : QueryError) : Bool :=
  match e.path with
  | some (.key k :: .index j :: _) => k == key && j == i
  | _ => false

/-- The error as it shows in the first slot. -/
def atFirst (e : QueryError) : QueryError :=
  { e with path := e.path.map fun
    | k :: .index _ :: r => k :: .index 0 :: r
    | p => p }

theorem isAt_iff {key : String} {i : Nat} {e : QueryError} :
    e.isAt key i = true ↔ ∃ r, e.path = some (.key key :: .index i :: r) := by
  unfold isAt
  constructor
  · intro h
    split at h
    · next k j r hp =>
      obtain ⟨hk, hj⟩ := Bool.and_eq_true_iff.mp h
      exact ⟨r, by rw [hp, eq_of_beq hk, eq_of_beq hj]⟩
    · cases h
  · rintro ⟨r, hp⟩
    simp [hp]

theorem isAt_unique {key : String} {i j : Nat} {e : QueryError} (hi : e.isAt key i = true)
    (hj : e.isAt key j = true) : i = j := by
  obtain ⟨r, hr⟩ := isAt_iff.mp hi
  obtain ⟨r', hr'⟩ := isAt_iff.mp hj
  rw [hr] at hr'
  cases hr'
  rfl

variable {key : String} {i j : Nat}

theorem Located.isAt {e e' : QueryError}
    (h : e.Located (Beyond (Env.slotPath key i) (Env.slotPath key j)) Verbatim e') : e.isAt key i = true := by
  obtain ⟨⟨-, -, hpath⟩, hsome⟩ := h
  obtain ⟨ps, p?, m⟩ := e
  obtain ⟨ps', p?', m'⟩ := e'
  cases hpath with
  | none => cases hsome
  | some hp =>
    obtain ⟨r, rfl, -⟩ := hp
    exact isAt_iff.mpr ⟨r, rfl⟩

theorem Located.atFirst {e e' : QueryError}
    (h : e.Located (Beyond (Env.slotPath key i) (Env.slotPath key 0)) Verbatim e') : e' = e.atFirst := by
  have hmessage := h.1.verbatim
  obtain ⟨⟨hpositions, -, hpath⟩, hsome⟩ := h
  obtain ⟨ps, p?, m⟩ := e
  obtain ⟨ps', p?', m'⟩ := e'
  subst hpositions hmessage
  cases hpath with
  | none => cases hsome
  | some hp =>
    obtain ⟨r, rfl, rfl⟩ := hp
    rfl

theorem Located.all_atFirst {es es' : List QueryError}
    (h : List.Forall₂ (Located (Beyond (Env.slotPath key i) (Env.slotPath key 0)) Verbatim) es es') :
    es' = es.map QueryError.atFirst := by
  induction h with
  | nil => rfl
  | cons he _ ih => rw [List.map_cons, ih, he.atFirst]

theorem Located.all_isAt {es es' : List QueryError}
    (h : List.Forall₂ (Located (Beyond (Env.slotPath key i) (Env.slotPath key j)) Verbatim) es es') :
    ∀ e ∈ es, e.isAt key i = true := by
  induction h with
  | nil => exact fun e he => by cases he
  | cons he _ ih =>
    intro e' he'
    rcases List.mem_cons.mp he' with rfl | he'
    · exact he.isAt
    · exact ih e' he'

theorem filter_isAt {α : Type} {runs : List α} {f : α → List QueryError} (index : Nat)
    (h : ∀ i (hi : i < runs.length), ∀ e ∈ f runs[i], e.isAt key (index + i) = true) (i : Nat)
    (hi : i < runs.length) :
    (runs.flatMap f).filter (·.isAt key (index + i)) = f runs[i] := by
  induction runs generalizing index i with
  | nil => cases hi
  | cons run runs ih =>
    have hrest : ∀ i (hi : i < runs.length), ∀ e ∈ f runs[i], e.isAt key (index + 1 + i) = true := by
      intro i hi e he
      have hnext := h (i + 1) (Nat.succ_lt_succ hi) e he
      rwa [show index + (i + 1) = index + 1 + i by omega] at hnext
    have hfirst : ∀ e ∈ f run, e.isAt key index = true := h 0 (Nat.succ_pos _)
    rw [List.flatMap_cons, List.filter_append]
    cases i with
    | zero =>
      have hall : (f run).filter (·.isAt key (index + 0)) = f run := List.filter_eq_self.mpr hfirst
      have hnone : (runs.flatMap f).filter (·.isAt key (index + 0)) = [] := by
        refine List.filter_eq_nil_iff.mpr fun e he hat => ?_
        obtain ⟨run', hrun', he⟩ := List.mem_flatMap.mp he
        obtain ⟨k, hk, rfl⟩ := List.getElem_of_mem hrun'
        have heq := isAt_unique hat (hrest k hk e he)
        omega
      rw [hall, hnone, List.append_nil]
      rfl
    | succ i =>
      have hnone : (f run).filter (·.isAt key (index + (i + 1))) = [] := by
        refine List.filter_eq_nil_iff.mpr fun e he hat => ?_
        have heq := isAt_unique hat (hfirst e he)
        omega
      have hlt : i < runs.length := Nat.lt_of_succ_lt_succ hi
      rw [hnone, List.nil_append, show index + (i + 1) = index + 1 + i by omega,
        ih (index + 1) hrest i hlt]
      rfl

end QueryError

namespace Env
open Exec
variable {env : Env} {sc : Scope} {o : Operation Nat} {used : String → Prop} {t : NamedType}
  {node : FieldNode} {x : Source} {i : Nat} {run run' : SlotRun}

theorem SlotRun.Of.placed (hplain : env.service.Plain env.waits)
    (hfragments : ∀ f ∈ env.query.fragments, env.service.Apart used f.selections)
    (hbody : env.service.Apart used node.selections) (h : SlotRun.Of env t node (x, i) run) :
    (∀ e ∈ run.errors, e.isAt node.key i = true) ∧ ∀ e ∈ run.later, e.isAt node.key i = true := by
  have hself := slot_similar (o := env.operation) (t := t) (.refl used env.toScope) hplain hfragments
    hbody i i x
  obtain ⟨-, herrors, hlater⟩ := Similar.of_yields hself h h
  exact ⟨QueryError.Located.all_isAt herrors, QueryError.Located.all_isAt hlater⟩

/-- What becomes of an entity in a slot is what becomes of it in the first slot. -/
theorem SlotRun.Of.first (hbeside : env.toScope.Beside used sc) (hplain : env.service.Plain env.waits)
    (hfragments : ∀ f ∈ env.query.fragments, env.service.Apart used f.selections)
    (hbody : env.service.Apart used node.selections) (h : SlotRun.Of env t node (x, i) run)
    (h' : SlotRun.Of (env.rebind sc o) t node (x, 0) run') :
    run' = ⟨run.value, run.errors.map .atFirst, run.later.map .atFirst⟩ := by
  have hsimilar := slot_similar (o := o) (t := t) hbeside hplain hfragments hbody i 0 x
  obtain ⟨hvalue, herrors, hlater⟩ := Similar.of_yields hsimilar h h'
  obtain ⟨value, errors, later⟩ := run'
  obtain rfl : value = run.value := hvalue
  rw [← QueryError.Located.all_atFirst herrors, ← QueryError.Located.all_atFirst hlater]

end Env

namespace Federation
open Config

section Transformed
variable {x y : Service} {c : Classification}

theorem augment_resolves (hx : Rooted x.schema) (hc : c.entityNames ≠ []) {sdl : String}
    (h : augment x c sdl = .ok y) :
    (∃ t, y.Resolves c t) ∧ y.schema.shape? anyScalar = some (.scalar none) := by
  obtain ⟨hs, -, hresolvers, -⟩ := augment_ok h
  obtain ⟨t, hquery, htype, hfield, hany⟩ := hx.extend hc hs
  refine ⟨⟨t, hquery, htype, hfield, ?_⟩, by rw [Schema.shape?, hany]; rfl⟩
  have hempty : c.entityNames.isEmpty = false := by
    cases hnames : c.entityNames with
    | nil => exact absurd hnames hc
    | cons n ns => rfl
  have hother : ((t.name, entitiesField) == (t.name, serviceField)) = false :=
    beq_eq_false_iff_ne.mpr fun heq => absurd (Prod.mk.inj heq).2 (by decide)
  simp only [Service.resolver?, hresolvers, protocolResolvers, hquery, Option.getD_some, hempty,
    Bool.false_eq_true, if_false, List.cons_append, List.lookup_cons, hother, beq_self_eq_true]

theorem augment_plain {waits : Bool} (hx : x.Plain waits) (hc : c.Plain waits) {sdl : String}
    (h : augment x c sdl = .ok y) : y.Plain waits := by
  obtain ⟨-, -, hresolvers, -⟩ := augment_ok h
  intro r hr c' hc'
  rw [hresolvers] at hr
  rcases List.mem_append.mp hr with hr | hr
  · rcases List.mem_cons.mp hr with rfl | hr
    · cases hc'
    · split at hr
      · cases hr
      · rw [List.mem_singleton.mp hr] at hc'
        cases hc'
        exact hc
  · exact hx r (List.mem_filter.mp hr).1 c' hc'

theorem transform_augments {registry : Registry} {raw : Raw} {config : Config}
    {old : List LogRecord} (hparse : parse registry raw = .ok config)
    (hc : classify x.schema config = .ok c) (h : (transform registry x raw old).1 = .ok y) :
    ∃ sdl, augment x c sdl = .ok y := by
  obtain ⟨config', c', sdl, hparse', htransforms⟩ := transform_ok h
  obtain rfl : config = config' := Except.ok.inj (hparse.symm.trans hparse')
  obtain rfl : c = c' := Except.ok.inj (hc.symm.trans htransforms.fits)
  exact ⟨sdl, htransforms.augments⟩

end Transformed
end Federation

/-- A query for a list of entities, with what is given for its variables. -/
structure ListQuery where
  context : QueryContext
  operation : Operation Nat
  field : FieldNode
  inputs : Entries Value

namespace ListQuery

/-- How a query passes a list on: as the value of a variable, or in place. -/
inductive Passes (s : Schema) (q : ListQuery) : Literal Nat → List Value → Prop
  | byVariable {m : Nat} {v : String} {reps : List Value} {vs : Variables}
      (htakes : TakesList s v q.operation.variableDefinitions) (hgiven : Given reps)
      (hinput : q.inputs.get? v = some (.list reps))
      (hothers : variableValues s (q.inputs.put v (.list [])) q.operation.variableDefinitions
        = .ok (.ok vs)) : Passes s q (.variable m v) reps
  | inPlace {a : Literal Nat} {reps : List Value} {vs : Variables}
      (hwritten : ∀ m v, a ≠ .variable m v)
      (hvalues : variableValues s q.inputs q.operation.variableDefinitions = .ok (.ok vs))
      (hlist : a.coerce? q.context.schema vs Federation.representationsType = some (.list reps)) :
      Passes s q a reps

/-- A query asks for the entities of a list. -/
structure Asks (s : Schema) (q : ListQuery) (reps : List Value) : Prop where
  operation : onlyOperation q.context = .ok q.operation
  field : Env.AsksFor q.operation q.field
  argument : ∃ m a, q.field.arguments = [⟨m, "representations", a⟩] ∧ q.Passes s a reps

/-- Nothing below the list uses other variables than these, or asks for a template. -/
structure Apart (y : Service) (used : String → Prop) (q : ListQuery) : Prop where
  selections : y.Apart used q.field.selections
  fragments : ∀ f ∈ q.context.fragments, y.Apart used f.selections

/-- Two queries that differ in the list that they ask for. -/
structure Alike (used : String → Prop) (q q' : ListQuery) : Prop where
  schema : q'.context.schema = q.context.schema
  fragments : q'.context.fragments = q.context.fragments
  definitions : q'.operation.variableDefinitions = q.operation.variableDefinitions
  field : q'.field = { q.field with arguments := q'.field.arguments }
  inputs : ∀ n, used n → q'.inputs.get? n = q.inputs.get? n

section Queries
variable {s : Schema} {q q' : ListQuery} {reps reps' : List Value} {used : String → Prop}

theorem Asks.values (h : q.Asks s reps) :
    ∃ vs, variableValues s q.inputs q.operation.variableDefinitions = .ok (.ok vs)
      ∧ Scope.argumentValues ⟨q.context, vs⟩ q.field.arguments
          Federation.entitiesFieldType.arguments = .ok [("representations", .list reps)] := by
  obtain ⟨m, a, harguments, hpasses⟩ := h.argument
  have hdefs : Federation.entitiesFieldType.arguments
      = [⟨none, "representations", Federation.representationsType, none, none, []⟩] := rfl
  rw [harguments, hdefs]
  cases hpasses with
  | @byVariable _ v _ _ htakes hgiven hinput hothers =>
    obtain ⟨vs, hvs, hlist⟩ := variableValues_taken htakes hgiven hinput hothers
    refine ⟨vs, hvs, ?_⟩
    have hhas : Entries.has vs v = true := by
      rw [Entries.has_eq_isSome, hlist]
      rfl
    simp [Scope.argumentValues, Scope.argumentValue, hhas, hlist, Value.isNull, Literal.coerce?,
      Literal.valueWith]
    rfl
  | inPlace hwritten hvalues hlist =>
    refine ⟨_, hvalues, ?_⟩
    cases a with
    | «variable» m v => exact absurd rfl (hwritten m v)
    | null m => cases hlist
    | _ =>
      simp [Scope.argumentValues, Scope.argumentValue, hlist]
      rfl

theorem Asks.operations (h : q.Asks s reps) : q.context.operations = [q.operation] := by
  have honly := h.operation
  unfold onlyOperation at honly
  split at honly
  · cases honly
  · next o ho => rw [ho, Except.ok.inj honly]
  · cases honly

theorem Alike.topDepth (h : q.Alike used q') (hq : q.Asks s reps) (hq' : q'.Asks s reps') :
    q'.context.topDepth = q.context.topDepth := by
  have hroot : q'.context.operationRoot q'.operation = q.context.operationRoot q.operation := by
    rw [QueryContext.operationRoot, QueryContext.operationRoot, hq'.field.kind, hq.field.kind, h.schema]
  have hfragments : q'.context.fragmentSites = q.context.fragmentSites := by
    funext f
    rw [QueryContext.fragmentSites, QueryContext.fragmentSites, h.schema]
  have hoperation : (q'.context.operationSites q'.operation).length
      = (q.context.operationSites q.operation).length := by
    rw [QueryContext.operationSites, QueryContext.operationSites, hroot, h.schema,
      hq'.field.selections, hq.field.selections, h.field]
    simp only [Site.ofSelections, Site.ofSelection, List.length_cons, List.length_append]
  rw [QueryContext.topDepth, QueryContext.topDepth, QueryContext.sites, QueryContext.sites,
    hq'.operations, hq.operations, h.fragments, hfragments]
  simp only [List.flatMap_cons, List.flatMap_nil, List.length_append, hoperation]

/-- The environment in which a query is executed. -/
def env (y : Service) (r : QueryRequest) (q : ListQuery) (vs : Variables) : Env :=
  ⟨⟨q.context, vs⟩, y, q.operation, r.context, r.root, r.waits⟩

theorem Alike.beside (h : q.Alike used q') (hq : q.Asks s reps) (hq' : q'.Asks s reps')
    {vs vs' : Variables}
    (hvs : variableValues s q.inputs q.operation.variableDefinitions = .ok (.ok vs))
    (hvs' : variableValues s q'.inputs q'.operation.variableDefinitions = .ok (.ok vs')) :
    Scope.Beside used ⟨q.context, vs⟩ ⟨q'.context, vs'⟩ where
  schema := h.schema
  fragments := h.fragments
  depth := h.topDepth hq hq'
  bindings := by
    rw [h.definitions] at hvs'
    exact fun n hn => variableValues_agree hvs hvs' (h.inputs n hn)

theorem Alike.apart (h : q.Alike used q') {y : Service} (hq : q.Apart y used) : q'.Apart y used where
  selections := by
    rw [h.field]
    exact hq.selections
  fragments := by
    rw [h.fragments]
    exact hq.fragments

/-- A query is answered with entries for its list and with errors. -/
def Answers (y : Service) (r : QueryRequest) (calls : Nat) (q : ListQuery) (entries : List Value)
    (errors : List QueryError) : Prop :=
  ∃ resp, y.execute q.context r q.inputs calls = .ok resp
    ∧ resp.data = .record [(q.field.key, .list entries)] ∧ resp.errors = errors

/-- A query has an entry for each representation of its list. The entry, with the errors at it, is
the one that every query for this representation alone has. -/
def AnswersAlone (y : Service) (r : QueryRequest) (used : String → Prop) (q : ListQuery)
    (reps : List Value) : Prop :=
  ∀ calls, ∃ entries errors, q.Answers y r calls entries errors
    ∧ entries.length = reps.length
    ∧ (∀ e ∈ errors, ∃ i < reps.length, e.isAt q.field.key i = true)
    ∧ ∀ i rep, reps[i]? = some rep → ∀ q', q.Alike used q' → q'.Asks y.schema [rep] →
        ∀ calls', ∃ entry, entries[i]? = some entry
          ∧ q'.Answers y r calls' [entry] ((errors.filter (·.isAt q.field.key i)).map .atFirst)

variable {y : Service} {r : QueryRequest} {c : Federation.Classification} {t : NamedType}

/-- A query for a list is answered slot by slot. -/
theorem Asks.answers (hq : q.Asks y.schema reps) (hresolves : y.Resolves c t)
    (hplain : y.Plain r.waits) (hapart : q.Apart y used) (calls : Nat) :
    ∃ vs, variableValues y.schema q.inputs q.operation.variableDefinitions = .ok (.ok vs)
      ∧ ∃ runs, List.Forall₂ (Env.SlotRun.Of (q.env y r vs) t q.field)
          (((q.env y r vs).entities' c t reps).zipIdx 0) runs
        ∧ q.Answers y r calls (runs.map (·.value))
          (runs.flatMap (·.errors) ++ runs.flatMap (·.later)) := by
  obtain ⟨vs, hvs, hlist⟩ := hq.values
  obtain ⟨runs, hruns, es, ls, herrors, hyields⟩ := Env.executeOperation_yields
    (show (q.env y r vs).service.Resolves c t from hresolves) hq.field hplain hapart.fragments hapart.selections hlist
  refine ⟨vs, hvs, runs, hruns,
    .ofExecution ((q.env y r vs).executeOperation q.operation calls), ?_, ?_⟩
  · simp only [Service.execute, hq.operation, hvs]
    rfl
  · obtain ⟨hvalue, hes, hls⟩ := hyields calls
    simp [Response.ofExecution, hvalue, hes, hls, herrors]

end Queries
end ListQuery

namespace Federation
open Config

section Products

/-- The variable for a list, `$r: [_Any!]!`. -/
def listVariable : VariableDefinition Nat := ⟨6, 6, "r", 10, 10, representationsType, none, []⟩

/-- A query for the products of a list, with what is selected of them. -/
def productsQuery (s : Schema) (below : List (Selection Nat)) (reps : List Value) : ListQuery :=
  let argument : Argument Nat := ⟨38, "representations", .variable 54 "r"⟩
  let body : List (Selection Nat) := [.inline 60 (some (67, "Product")) [] below]
  let operation : Operation Nat := ⟨0, .query, none, [listVariable], [],
    [.field 26 none entitiesField [argument] [] 58 body]⟩
  { context := .ofDocument s [.operation operation]
    operation := operation
    field := ⟨26, none, entitiesField, [argument], [], 58, body⟩
    inputs := [("r", .list reps)] }

variable {s : Schema} {below : List (Selection Nat)} {reps : List Value}

theorem variableValues_empty (hs : s.shape? anyScalar = some (.scalar none)) :
    variableValues s [("r", .list [])] [listVariable] = .ok (.ok [("r", .list [])]) := by
  have hempty : variableValue s [("r", .list [])] listVariable = (some (.list []), []) :=
    variableValue_representations hs Given.nil.present rfl rfl
  rw [variableValues, List.map_singleton, hempty]
  rfl

theorem productsQuery_asks (below : List (Selection Nat))
    (hs : s.shape? anyScalar = some (.scalar none)) (h : Given reps) :
    (productsQuery s below reps).Asks s reps where
  operation := rfl
  field := ⟨rfl, rfl, rfl, fun d hd => by cases hd⟩
  argument := by
    have htakes : TakesList s "r" [listVariable] := by
      refine ⟨hs, List.mem_singleton_self _, fun d hd _ => ?_⟩
      rw [List.mem_singleton.mp hd]
      rfl
    exact ⟨38, .variable 54 "r", rfl, .byVariable htakes h rfl (variableValues_empty hs)⟩

theorem productsQuery_alike (reps' : List Value) :
    (productsQuery s below reps).Alike (· ≠ "r") (productsQuery s below reps') where
  schema := rfl
  fragments := rfl
  definitions := rfl
  field := rfl
  inputs := by
    intro n hn
    simp only [productsQuery, Entries.get?_cons, if_neg hn]

/-- A request that gives no context and cannot wait. -/
def plainRequest : QueryRequest := ⟨"", .null, .null, .null, false⟩

def bareField (m : Nat) (name : String) (below : List (Selection Nat)) : Selection Nat :=
  .field m none name [] [] m below

/-- A product, and something that is no representation. -/
def mixedList : List Value := [.record [("__typename", .text "Product"), ("id", .text "1")], .int 5]

/-- The entry at an index of the list in a response. -/
def entryAt (response : Except RequestFault Response) (i : Nat) : Option Value :=
  match response with
  | .ok resp =>
    match resp.data with
    | .record [(_, .list entries)] => entries[i]?
    | _ => none
  | .error _ => none

/-- The response to a query for some products. -/
def productsResponse (y : Service) (below : List (Selection Nat)) (reps : List Value) :
    Except RequestFault Response :=
  y.execute (productsQuery y.schema below reps).context plainRequest [("r", .list reps)] 0

/-- Whether the entry for a representation shows as the one that it has alone. -/
def showsAlone (y : Service) (below : List (Selection Nat)) (reps : List Value) (i : Nat)
    (rep : Value) : Bool :=
  match entryAt (productsResponse y below reps) i, entryAt (productsResponse y below [rep]) 0 with
  | some entry, some alone => entry.inspect == alone.inspect
  | _, _ => false

theorem showsAlone_of_answersAlone {y : Service}
    (hs : y.schema.shape? anyScalar = some (.scalar none))
    (h : (productsQuery y.schema below reps).AnswersAlone y plainRequest (· ≠ "r") reps) {i : Nat}
    {rep : Value} (hrep : reps[i]? = some rep) (hgiven : Given [rep]) :
    showsAlone y below reps i rep = true := by
  obtain ⟨entries, errors, ⟨resp, hresp, hdata, -⟩, -, -, hslots⟩ := h 0
  obtain ⟨entry, hentry, resp', hresp', hdata', -⟩ := hslots i rep hrep _
    (productsQuery_alike [rep]) (productsQuery_asks _ hs hgiven) 0
  have hlist : entryAt (productsResponse y below reps) i = some entry := by
    rw [show productsResponse y below reps = .ok resp from hresp]
    simp only [entryAt, hdata, hentry]
  have halone : entryAt (productsResponse y below [rep]) 0 = some entry := by
    rw [show productsResponse y below [rep] = .ok resp' from hresp']
    simp only [entryAt, hdata']
    rfl
  simp only [showsAlone, hlist, halone, beq_self_eq_true]

theorem not_answersAlone {x : Service} {raw : Raw} (hx : Rooted x.schema)
    (hclassified : ∃ config c, parse shopRegistry raw = .ok config
      ∧ classify x.schema config = .ok c ∧ c.entityNames ≠ [])
    {i : Nat} {rep : Value} (hrep : reps[i]? = some rep) (hgiven : Given [rep])
    (hshows : (transform shopRegistry x raw []).1.toOption.map
      (fun y => showsAlone y below reps i rep) = some false) :
    ∃ y, (transform shopRegistry x raw []).1 = .ok y
      ∧ ¬ (productsQuery y.schema below reps).AnswersAlone y plainRequest (· ≠ "r") reps := by
  obtain ⟨config, c, hparse, hc, hentities⟩ := hclassified
  cases hy : (transform shopRegistry x raw []).1 with
  | error e => rw [hy] at hshows; cases hshows
  | ok y =>
    obtain ⟨sdl, haugment⟩ := transform_augments hparse hc hy
    refine ⟨y, rfl, fun h => ?_⟩
    rw [hy] at hshows
    have halone := showsAlone_of_answersAlone (augment_resolves hx hentities haugment).2 h hrep hgiven
    rw [Except.toOption, Option.map_some, halone] at hshows
    cases hshows

/-- Products with a label, which may be a text. -/
def labelled : Schema :=
  schemaOf [queryOf [⟨none, "product", [], .named "Product", none, []⟩],
    ⟨none, "Product", .object [] [⟨none, "id", [], .nonNull (.named "ID"), none, []⟩,
      ⟨none, "label", [], .named "Label", none, []⟩], []⟩,
    ⟨none, "Label", .object [] [⟨none, "format", [], .named "String", none, []⟩], []⟩] []

/-- A product whose label shows the index of the slot. -/
def showsIndex : Value := .record [("__typename", .text "Product"), ("id", .text "1"),
  ("label", .text "\x7b.path.prev.prev.key\x7d")]

/-- A function that answers later. -/
def echoLater : Reference := ⟨"echoLater", fun _ => false, fun _ rep _ => .later 0 [] [] (.value rep)⟩

def laterKeys : Raw := .record [(.text "Product", .record [(.text "keyFields", .text "id"),
  (.text "resolveReference", .function echoLater)])]

/-- Lists in lists. -/
def nested : Nat → Value
  | 0 => .list []
  | n + 1 => .list [nested n]

/-- Products that count what they are given. -/
def counting : Service where
  schema := schemaOf [queryOf [⟨none, "product", [], .named "Product", none, []⟩],
    ⟨none, "Product", .object [] [⟨none, "id", [], .nonNull (.named "ID"), none, []⟩,
      ⟨none, "count", [⟨none, "of", .list (.nonNull (.named "_Any")), none, none, []⟩],
        .named "Int", none, []⟩], []⟩,
    ⟨none, "_Any", .scalar none, []⟩] []
  resolvers := [(("Product", "count"), .custom fun k =>
    match Entries.get? k.arguments "of" with
    | some (.list xs) => .ok (.int xs.length)
    | _ => .ok .null)]
  typeChecks := []
  taggedTypes := []

def countOfList : Selection Nat :=
  .field 77 none "count" [⟨83, "of", .variable 87 "r"⟩] [] 77 []

end Products

end Federation
end Subgraph
