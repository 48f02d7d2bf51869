import Subgraph.Proofs.Conservative
import Subgraph.Proofs.Growth
import Mathlib

/-!
# Asking a service for its SDL

Where the query root has the field for the service and resolves it to a text, the query for the SDL
is a valid document of the schema, and it is answered with this text and without errors, whatever
the request brings with it.
-/

namespace Subgraph

/-- A field as it is written in a selection set. -/
def FieldNode.selection (n : FieldNode) : Selection Nat :=
  .field n.mark n.label? n.name n.arguments n.directives n.bodyMark n.selections

theorem Overlap.issues_field (c : QueryContext) (parent : Option NamedType) (owner : Option String)
    (n : FieldNode) : Overlap.issues c parent owner [n.selection] = pure [] := by
  have hcollect : Overlap.collect c.schema parent owner [n.selection]
      = ⟨owner, [(n.key, [⟨parent, n, parent.bind (·.field? n.name)⟩])], []⟩ := rfl
  funext p
  rw [Overlap.issues, hcollect]
  show (([] : List Issue), { p with found := p.found ++ [] }) = ([], p)
  rw [List.append_nil]

namespace QueryContext
variable {c : QueryContext}

/-- A field without arguments and directives is in order where it is known and selects something
just where it has to. -/
theorem siteIssues_field {parent : Option NamedType} {f : Field} {n : FieldNode}
    (hname : n.name ≠ "__schema" ∧ n.name ≠ "__type") (harguments : n.arguments = [])
    (hdirectives : n.directives = [])
    (hleaf : (c.schema.shape? f.type.base).any TypeShape.isLeaf = n.selections.isEmpty) :
    c.siteIssues (.field parent (some f) n) = [] := by
  have hselections : c.leafSelectionIssues (some f) n = [] := by
    simp only [leafSelectionIssues, hleaf]
    cases n.selections.isEmpty <;> rfl
  have hknown : c.unknownFieldIssues parent (some f) n = [] := by cases parent <;> rfl
  have hplain : c.introspectionIssues n = [] := by
    simp [introspectionIssues, hname.1, hname.2]
  simp only [siteIssues, hselections, hknown, hplain, argumentIssues, harguments, hdirectives]
  rfl

theorem fragmentsOf_nil (h : c.fragments = []) (o : Operation Nat) : c.fragmentsOf o = [] := by
  have hnone : ∀ n, c.fragment? n = none := fun n => by rw [fragment?, h]; rfl
  have hfound : ∀ names : List String, names.filterMap c.fragment? = [] := fun names =>
    List.filterMap_eq_nil_iff.mpr fun n _ => hnone n
  rw [fragmentsOf, h]
  simp only [List.length_nil, reach, hfound, List.map_nil, List.reverse_nil, List.append_nil]

theorem sitesIssues_eq_pure_nil : ∀ (sites : List Site) (owner : Option String),
    (∀ site ∈ sites, c.siteIssues site = []) →
    (∀ parent ss, Site.selections parent ss ∈ sites →
      ∀ owner, Overlap.issues c parent owner ss = pure []) →
    c.sitesIssues owner sites = pure []
  | [], _, _, _ => rfl
  | site :: r, owner, hsites, hoverlap => by
    have hrest := fun owner => sitesIssues_eq_pure_nil r owner
      (fun x hx => hsites x (List.mem_cons_of_mem site hx))
      (fun parent ss hx => hoverlap parent ss (List.mem_cons_of_mem site hx))
    cases site with
    | selections parent ss =>
      rw [sitesIssues, hoverlap parent ss List.mem_cons_self, hrest]
      rfl
    | _ =>
      simp only [sitesIssues, hsites _ List.mem_cons_self, hrest]
      rfl

end QueryContext

namespace Scope
variable (sc : Scope) (type : NamedType) {n : FieldNode} (hdirectives : n.directives = [])
include hdirectives

theorem collect_field (fuel : Nat) (acc : List String × FieldGroups) :
    sc.collect type (fuel + 1) [n.selection] acc = .ok (acc.1, acc.2.add n) := by
  obtain ⟨m, l, name, as, ds, bm, ss⟩ := n
  cases hdirectives
  rfl

theorem fieldsOf_field : sc.fieldsOf type [n.selection] = .ok [(n.key, [n])] := by
  rw [fieldsOf, QueryContext.topDepth, sc.collect_field type hdirectives]
  rfl

theorem fieldsBelow_field {outer : FieldNode} (h : outer.selections = [n.selection]) :
    sc.fieldsBelow type [outer] = .ok [(n.key, [n])] := by
  rw [fieldsBelow, List.foldlM_cons, h, QueryContext.topDepth, sc.collect_field type hdirectives]
  rfl

end Scope

theorem Exec.pure_bind {α β : Type} (a : α) (f : α → Exec β) : (Exec.pure a >>= f) = f a := by
  funext k
  show ((f a (k + 0)).1, Notes.empty ++ (f a (k + 0)).2) = f a k
  rw [Notes.empty_append]
  rfl

theorem Response.ofExecution_pure (v : Value) (n : Nat) :
    Response.ofExecution (Exec.pure v n) = ⟨v, [], [], [], 0⟩ := by
  simp [Response.ofExecution, Exec.pure, Notes.empty, Waiting.events, Waiting.inTurn,
    Waiting.allErrors, Federation.inOrder, Federation.traceOf, Federation.recordsOf]

namespace Env
variable {env : Env} {sub : List FieldNode → NamedType → Source → Trail → Exec Value}

theorem executeGroups_field {parent : NamedType} {source : Source} {trail : Trail} {key : String}
    {n : FieldNode} {f : Field} {v : Value} (hfield : env.schema.fieldOf? parent n.name = some f)
    (harguments : f.arguments = [])
    (hanswer : ∀ describe, env.resolveField parent source f [] describe (fun x =>
      env.complete (parent.name ++ "." ++ n.name) [n.mark] (sub [n]) f.type x
        (trail ++ [(.key key, some parent.name)])) = Exec.pure v) :
    env.executeGroups sub parent source trail [(key, [n])] = Exec.pure [(key, v)] := by
  have hsettle : ∀ positions path,
      Exec.settle f.type (Exec.located positions path (Exec.pure v)) = Exec.pure v := by
    intro positions path
    unfold Exec.settle
    split <;> rfl
  have hone : env.executeField sub parent source trail key [n] = Exec.pure (some v) := by
    simp only [executeField, hfield, harguments, List.map_cons, List.map_nil, Scope.argumentValues,
      Exec.ofScope, Exec.pure_bind, hanswer, hsettle]
    rfl
  rw [executeGroups, hone]
  rfl

theorem complete_string {place : String} {positions : List Nat}
    {sub : NamedType → Source → Trail → Exec Value} {text : String} {trail : Trail}
    (htexts : env.schema.shape? "String" = some (.scalar none)) :
    env.complete place positions sub (.named "String") (.data (.text text)) trail
      = Exec.pure (.text text) := by
  obtain ⟨u, hu, hshape⟩ := Option.map_eq_some_iff.mp htexts
  show env.completeNamed place (fun t x => sub t x trail) "String" (.data (.text text)) = _
  rw [completeNamed, hu]
  simp only [hshape]
  rfl

theorem complete_object {place : String} {positions : List Nat}
    {sub : NamedType → Source → Trail → Exec Value} {t : NamedType} {n : String}
    {es es' : Entries Value} {trail : Trail} (ht : env.schema.type? n = some t)
    (hobject : t.shape.isObject = true)
    (hsub : sub t (.data (.record es)) trail = Exec.pure (.record es')) :
    env.complete place positions sub (.nonNull (.named n)) (.data (.record es)) trail
      = Exec.pure (.record es') := by
  have hnamed : env.complete place positions sub (.named n) (.data (.record es)) trail
      = Exec.pure (.record es') := by
    show env.completeNamed place (fun t x => sub t x trail) n (.data (.record es)) = _
    rw [completeNamed, ht]
    cases hs : t.shape with
    | object is fs =>
      simp only [hs]
      exact hsub
    | _ => rw [hs] at hobject; cases hobject
  rw [complete, hnamed, Exec.pure_bind]
  rfl

end Env

namespace Federation

def serviceFieldType : Field := ⟨none, serviceField, [], .nonNull (.named serviceType), none, []⟩

def sdlFieldType : Field := ⟨none, "sdl", [], .named "String", none, []⟩

def sdlNode : FieldNode := ⟨13, none, "sdl", [], [], 13, []⟩

def serviceNode : FieldNode := ⟨2, none, serviceField, [], [], 11, [sdlNode.selection]⟩

def sdlOperation : Operation Nat := ⟨0, .query, none, [], [], [serviceNode.selection]⟩

theorem parse_sdlQuery : Document.parse Nat sdlQuery = .ok [.operation sdlOperation] := by cbv

/-- The fields for the SDL are there, at the query root and below it, and the one at the root is
resolved to a text. -/
structure HoldsSdl (x : Service) (t u : NamedType) (text : String) : Prop where
  query : x.schema.query = some t.name
  root : x.schema.type? t.name = some t
  object : t.shape.isObject = true
  field : t.field? serviceField = some serviceFieldType
  service : x.schema.type? serviceType = some u
  below : u.shape.isObject = true
  sdl : u.field? "sdl" = some sdlFieldType
  texts : x.schema.shape? "String" = some (.scalar none)
  resolver : x.resolver? t.name serviceField = some (.sdl text)
  plain : x.resolver? serviceType "sdl" = none
  unchecked : x.typeCheck? serviceType = none

namespace HoldsSdl
variable {x : Service} {t u : NamedType} {text : String} (h : HoldsSdl x t u text)
include h

theorem fieldOf?_service : x.schema.fieldOf? t serviceField = some serviceFieldType := by
  rw [Schema.fieldOf?, if_neg fun h => absurd h.1 (by decide),
    if_neg fun h => absurd h.1 (by decide), if_neg fun h => absurd h.1 (by decide)]
  exact h.field

theorem fieldOf?_sdl : x.schema.fieldOf? u "sdl" = some sdlFieldType := by
  rw [Schema.fieldOf?, if_neg fun h => absurd h.1 (by decide),
    if_neg fun h => absurd h.1 (by decide), if_neg fun h => absurd h.1 (by decide)]
  exact h.sdl

theorem operationSites_sdl (doc : Document Nat) :
    (QueryContext.ofDocument x.schema doc).operationSites sdlOperation =
      [.selections (some t) sdlOperation.selections,
       .field (some t) (some serviceFieldType) serviceNode,
       .selections (some u) [sdlNode.selection],
       .field (some u) (some sdlFieldType) sdlNode,
       .fieldEnd (some u) (some sdlFieldType) sdlNode,
       .fieldEnd (some t) (some serviceFieldType) serviceNode] := by
  have hroot : x.schema.composite? t.name = some t := by
    simp [Schema.composite?, h.root, TypeShape.isComposite, h.object]
  have hservice : x.schema.composite? serviceType = some u := by
    simp [Schema.composite?, h.service, TypeShape.isComposite, h.below]
  have hoperation : (QueryContext.ofDocument x.schema doc).operationRoot sdlOperation = some t := by
    show (x.schema.root .query).bind x.schema.composite? = _
    rw [Schema.root, h.query]
    exact hroot
  have hschema : (QueryContext.ofDocument x.schema doc).schema = x.schema := rfl
  have hbase : serviceFieldType.type.base = serviceType := rfl
  rw [QueryContext.operationSites, hoperation]
  simp [hschema, sdlOperation, FieldNode.selection, Site.ofSelections, Site.ofSelection,
    h.fieldOf?_service, h.fieldOf?_sdl, hbase, hservice, serviceNode, sdlNode]

theorem issues_sdl : Document.issues x.schema [.operation sdlOperation] = .ok [] := by
  let c := QueryContext.ofDocument x.schema [.operation sdlOperation]
  have hsites := h.operationSites_sdl [.operation sdlOperation]
  have hkinds : ∀ o ∈ c.operations, o.kind ≠ .subscription := by
    intro o ho
    obtain rfl : o = sdlOperation := by
      simpa [c, QueryContext.ofDocument, QueryContext.operationsOf] using ho
    decide
  -- At none of the six places that the query opens is there an issue.
  have hsite : ∀ site ∈ c.operationSites sdlOperation, c.siteIssues site = [] := by
    intro site hsite
    rw [hsites] at hsite
    simp only [List.mem_cons, List.not_mem_nil, or_false] at hsite
    rcases hsite with rfl | rfl | rfl | rfl | rfl | rfl
    · rfl
    · refine QueryContext.siteIssues_field (by decide) rfl rfl ?_
      have hleaf : u.shape.isLeaf = false := by
        have hobject := h.below
        cases hs : u.shape <;> rw [hs] at hobject <;> first | rfl | cases hobject
      show (x.schema.shape? serviceType).any _ = _
      rw [Schema.shape?, h.service, Option.map_some, Option.any_some, hleaf]
      rfl
    · rfl
    · refine QueryContext.siteIssues_field (by decide) rfl rfl ?_
      show (x.schema.shape? "String").any _ = _
      rw [h.texts]
      rfl
    · rfl
    · rfl
  have hoverlap : ∀ parent ss, Site.selections parent ss ∈ c.operationSites sdlOperation →
      ∀ owner, Overlap.issues c parent owner ss = pure [] := by
    intro parent ss hmem owner
    rw [hsites] at hmem
    simp only [List.mem_cons, List.not_mem_nil, or_false, reduceCtorEq, false_or,
      Site.selections.injEq] at hmem
    rcases hmem with ⟨rfl, rfl⟩ | ⟨rfl, rfl⟩
    · exact Overlap.issues_field c _ owner serviceNode
    · exact Overlap.issues_field c _ owner sdlNode
  have huses : c.variableUses sdlOperation = [] := by
    rw [QueryContext.variableUses, QueryContext.fragmentsOf_nil rfl,
      QueryContext.operationArguments, hsites]
    rfl
  have hoperation : c.operationIssues [] sdlOperation = pure [] := by
    rw [QueryContext.operationIssues, QueryContext.sitesIssues_eq_pure_nil _ none hsite hoverlap,
      QueryContext.undefinedVariableIssues, QueryContext.unusedVariableIssues,
      QueryContext.variablePositionIssues, huses]
    rfl
  have hdefinitions : c.definitionsIssues [] c.document = pure [] := by
    show c.definitionsIssues [] [.operation sdlOperation] = _
    rw [QueryContext.definitionsIssues_cons]
    show (do return (← c.operationIssues [] sdlOperation) ++ (← pure [])) = _
    rw [hoperation]
    rfl
  refine (QueryContext.issues_eq_nil_iff hkinds).mpr ⟨rfl, ?_⟩
  rw [QueryContext.allIssues, hdefinitions]
  rfl

section Execution
variable {env : Env} (hservice : env.service = x)
include hservice

theorem executeBelow_sdl (depth : Nat) (trail : Trail) :
    env.executeBelow (depth + 1) [serviceNode] u
      (.data (.record [("sdl", .text text)])) trail = Exec.pure (.record [("sdl", .text text)]) := by
  subst hservice
  have hname : u.name = serviceType := (Schema.mem_of_type? h.service).2
  have hgroups : env.fieldsBelow u [serviceNode] = .ok [(sdlNode.key, [sdlNode])] :=
    env.toScope.fieldsBelow_field u rfl rfl
  have hchecked : env.checkType u (.data (.record [("sdl", .text text)])) = Exec.pure () := by
    rw [Env.checkType, hname, h.unchecked]
  have hfields : env.executeGroups (env.executeBelow depth) u
      (.data (.record [("sdl", .text text)])) trail [(sdlNode.key, [sdlNode])]
        = Exec.pure [("sdl", .text text)] := by
    refine Env.executeGroups_field h.fieldOf?_sdl rfl fun describe => ?_
    have hresolver : env.service.resolver? u.name sdlFieldType.name = none := hname ▸ h.plain
    rw [Env.resolveField_data _ (by decide) (by decide), if_neg (by decide), Env.answerField,
      hresolver]
    exact Env.complete_string h.texts
  rw [Env.executeBelow, hgroups, hchecked, Exec.ofScope, Exec.pure_bind, Exec.pure_bind, hfields]
  rfl

theorem executeOperation_sdl : env.executeOperation sdlOperation
    = Exec.pure (.record [(serviceField, .record [("sdl", .text text)])]) := by
  have hbelow := h.executeBelow_sdl hservice (env.query.sites.length + env.query.fragments.length)
  subst hservice
  have hroot : (env.schema.root sdlOperation.kind).bind env.schema.type? = some t := by
    show (env.service.schema.query).bind env.service.schema.type? = _
    rw [h.query]
    exact h.root
  have hgroups := env.toScope.fieldsOf_field t (n := serviceNode) rfl
  have hfields : env.executeGroups (env.executeBelow env.query.topDepth) t (.data env.root) []
      [(serviceNode.key, [serviceNode])]
        = Exec.pure [(serviceField, .record [("sdl", .text text)])] := by
    refine Env.executeGroups_field h.fieldOf?_service rfl fun describe => ?_
    have hresolver : env.service.resolver? t.name serviceFieldType.name = some (.sdl text) :=
      h.resolver
    rw [Env.resolveField_data _ (by decide) (by decide), if_neg (by decide), Env.answerField,
      hresolver]
    exact Env.complete_object h.service h.below (hbelow _)
  rw [Env.executeOperation, hroot]
  simp only
  rw [show sdlOperation.selections = [serviceNode.selection] from rfl, hgroups, Exec.ofScope,
    Exec.pure_bind, hfields]
  rfl

end Execution

/-- The query for the SDL is answered with the text and without errors. -/
theorem answer_sdl (hvalid : x.schema.problems = []) {r : QueryRequest} (htext : r.text = sdlQuery)
    (hbindings : r.bindings = .null ∨ ∃ es, r.bindings = .record es) (calls : Nat) :
    x.answer r calls = .ok
      ⟨.record [(serviceField, .record [("sdl", .text text)])], [], [], [], 0⟩ := by
  have hexecute : ∀ es, x.execute (QueryContext.ofDocument x.schema [.operation sdlOperation]) r es
      calls = .ok ⟨.record [(serviceField, .record [("sdl", .text text)])], [], [], [], 0⟩ := by
    intro es
    have honly : onlyOperation (QueryContext.ofDocument x.schema [.operation sdlOperation])
        = .ok sdlOperation := rfl
    have hvalues : variableValues x.schema es sdlOperation.variableDefinitions = .ok (.ok []) := rfl
    simp only [Service.execute, honly, hvalues]
    rw [h.executeOperation_sdl rfl, Response.ofExecution_pure]
  rw [x.answer_of_valid r calls hvalid (htext ▸ parse_sdlQuery) h.issues_sdl]
  rcases hbindings with hnull | ⟨es, hrecord⟩
  · rw [hnull]
    exact hexecute _
  · rw [hrecord]
    exact hexecute _

end HoldsSdl
end Federation
end Subgraph
