import Mathlib.Data.List.Induction
import Subgraph.Federation.Directives
import Subgraph.Proofs.Lists
import Subgraph.Schema.Define
import Subgraph.Schema.Rules

/-!
# What the rules give

A document that breaks no rule defines no type twice, and no member of a type twice, in the definition
and in all extensions together. A directive that it applies is known where it stands, takes arguments
that are known, each once, and stands there once if it cannot be repeated.
-/

namespace Subgraph

section Repeated
variable {n : String} {names seen : List String}

theorem of_not_mem_repeated (h : n ∉ repeated seen names) :
    names.count n ≤ 1 ∧ (n ∈ names → n ∉ seen) := by
  induction names generalizing seen with
  | nil => simp
  | cons m names ih =>
    unfold repeated at h
    split at h
    · next hseen =>
      rw [List.mem_cons, not_or] at h
      obtain ⟨hcount, hnew⟩ := ih h.2
      rw [List.count_cons_of_ne (Ne.symm h.1), List.mem_cons]
      exact ⟨hcount, fun hn => hnew (hn.resolve_left h.1)⟩
    · next hseen =>
      obtain ⟨hcount, hnew⟩ := ih h
      by_cases hnm : n = m
      · subst hnm
        have habsent : n ∉ names := fun hmem => hnew hmem List.mem_cons_self
        rw [List.count_cons_self, List.count_eq_zero_of_not_mem habsent]
        exact ⟨Nat.le_refl 1, fun _ hmem => hseen (List.contains_iff_mem.mpr hmem)⟩
      · rw [List.count_cons_of_ne (Ne.symm hnm), List.mem_cons]
        exact ⟨hcount, fun hn hmem => hnew (hn.resolve_left hnm) (List.mem_cons_of_mem m hmem)⟩

theorem of_repeated_eq_nil (h : repeated seen names = []) :
    names.Nodup ∧ ∀ n ∈ names, n ∉ seen := by
  have hnone : ∀ n, n ∉ repeated seen names := fun n => by rw [h]; exact List.not_mem_nil
  exact ⟨List.nodup_iff_count.mpr fun n => (of_not_mem_repeated (hnone n)).1,
    fun n hn => (of_not_mem_repeated (hnone n)).2 hn⟩

theorem nodup_of_doubled (h : doubled names = []) : names.Nodup := by
  refine List.nodup_iff_count.mpr fun n => ?_
  by_cases hn : n ∈ names
  · have hone := List.filter_eq_nil_iff.mp h n (List.mem_eraseDups.mpr hn)
    simpa using hone
  · rw [List.count_eq_zero_of_not_mem hn]
    exact Nat.zero_le 1

end Repeated

namespace Visit

theorem mem_ofDefinitions (earlier before after : List (Definition Unit)) (d : Definition Unit) :
    .definition (before.reverse ++ earlier) d ∈ ofDefinitions earlier (before ++ d :: after)
      ∧ ∀ v ∈ ofDefinition d, v ∈ ofDefinitions earlier (before ++ d :: after) := by
  induction before generalizing earlier with
  | nil =>
    refine ⟨List.mem_cons_self, fun v hv => List.mem_cons_of_mem _ ?_⟩
    exact List.mem_append_left _ hv
  | cons e before ih =>
    obtain ⟨hdefinition, hinside⟩ := ih (e :: earlier)
    have hlater : ∀ v ∈ ofDefinitions (e :: earlier) (before ++ d :: after),
        v ∈ ofDefinitions earlier (e :: before ++ d :: after) := fun v hv =>
      List.mem_cons_of_mem _ (List.mem_append_right _ hv)
    refine ⟨hlater _ ?_, fun v hv => hlater v (hinside v hv)⟩
    rw [List.reverse_cons, List.append_assoc]
    exact hdefinition

end Visit

namespace Document
variable {doc : Document Unit}

theorem faults_of_visit (h : doc.faults = []) {v : Visit} (hv : v ∈ doc.visits) :
    v.faults (RuleContext.ofDocument doc) = [] := List.flatMap_eq_nil_iff.mp h v hv

theorem mem_visits_of_definition {d : Definition Unit} (hd : d ∈ doc) {v : Visit}
    (hv : v ∈ Visit.ofDefinition d) : v ∈ doc.visits := by
  obtain ⟨before, after, rfl⟩ := List.append_of_mem hd
  exact (Visit.mem_ofDefinitions [] before after d).2 v hv

/-- Names that a definition without faults brings, each once and none of those before it, are brought
once by the whole document. -/
theorem nodup_names {names : Definition Unit → List String} (h : doc.faults = [])
    (hstep : ∀ earlier d,
      (Visit.definition earlier d).faults (RuleContext.ofDocument doc) = [] →
        (names d).Nodup ∧ ∀ n ∈ names d, n ∉ earlier.flatMap names) :
    (doc.flatMap names).Nodup := by
  have hsplit : ∀ before after, doc = before ++ after → (before.flatMap names).Nodup := by
    intro before
    induction before using List.reverseRecOn with
    | nil => exact fun _ _ => List.nodup_nil
    | append_singleton before d ih =>
      intro after hdoc
      rw [List.append_assoc] at hdoc
      have hvisit := (Visit.mem_ofDefinitions [] before after d).1
      rw [List.append_nil] at hvisit
      obtain ⟨hnodup, hnew⟩ := hstep _ d (faults_of_visit h (by rw [hdoc]; exact hvisit))
      rw [List.flatMap_append, List.flatMap_singleton, List.nodup_append]
      refine ⟨ih _ hdoc, hnodup, fun n hn m hm heq => hnew m hm ?_⟩
      obtain ⟨e, he, hne⟩ := List.mem_flatMap.mp hn
      exact List.mem_flatMap.mpr ⟨e, List.mem_reverse.mpr he, heq ▸ hne⟩
  exact hsplit doc [] (List.append_nil doc).symm

/-- The definition of a type and its extensions, in their order. -/
def nodes (defs : List (Definition Unit)) (n : String) : List (TypeDefinition Unit) :=
  (defs.filterMap Definition.type?).filter (·.name == n)

theorem nodes_cons (d : Definition Unit) (defs : List (Definition Unit)) (n : String) :
    nodes (d :: defs) n = nodes [d] n ++ nodes defs n := by
  rw [nodes, nodes, nodes, ← List.filter_append, ← List.filterMap_append]
  rfl

theorem flatMap_nodes (names : TypeDefinition Unit → List String) (n : String)
    (defs : List (Definition Unit)) :
    (defs.flatMap fun d => (nodes [d] n).flatMap names) = (nodes defs n).flatMap names := by
  induction defs with
  | nil => rfl
  | cons d defs ih => rw [List.flatMap_cons, ih, nodes_cons d defs, List.flatMap_append]

theorem definition_typeFaults {c : RuleContext} {earlier : List (Definition Unit)}
    {e : Definition Unit} {d : TypeDefinition Unit} (he : e.type? = some d)
    (h : (Visit.definition earlier e).faults c = []) : Visit.typeFaults c earlier d = [] := by
  cases e with
  | type description d' =>
    cases he
    exact List.map_eq_nil_iff.mp (List.append_eq_nil_iff.mp h).2
  | extendType d' =>
    cases he
    exact List.map_eq_nil_iff.mp (List.append_eq_nil_iff.mp h).1
  | _ => cases he

/-- Names that every node of a type brings once, and none of an earlier node, are distinct. -/
theorem nodup_nodeNames {names : TypeDefinition Unit → List String} (h : doc.faults = [])
    (hnames : ∀ earlier d, Visit.typeFaults (RuleContext.ofDocument doc) earlier d = [] →
      repeated ((Visit.sameType earlier d).flatMap names) (names d) = []) (n : String) :
    ((nodes doc n).flatMap names).Nodup := by
  rw [← flatMap_nodes]
  refine nodup_names h fun earlier e hfaults => ?_
  have hnone : (nodes [e] n).flatMap names = [] →
      ((nodes [e] n).flatMap names).Nodup ∧ ∀ m ∈ (nodes [e] n).flatMap names,
        m ∉ earlier.flatMap fun e => (nodes [e] n).flatMap names := by
    intro hnil
    rw [hnil]
    exact ⟨List.nodup_nil, fun _ hm => nomatch hm⟩
  cases he : e.type? with
  | none => exact hnone (by simp [nodes, he])
  | some d =>
    by_cases hn : d.name = n
    · subst hn
      have hself : (nodes [e] d.name).flatMap names = names d := by simp [nodes, he]
      rw [hself, flatMap_nodes]
      exact of_repeated_eq_nil (hnames earlier d (definition_typeFaults he hfaults))
    · exact hnone (by simp [nodes, he, hn])

theorem fieldNames_distinct (h : doc.faults = []) (n : String) :
    ((nodes doc n).flatMap (·.body.fieldNames)).Nodup := by
  refine nodup_nodeNames h (fun earlier d hfaults => ?_) n
  have hfields := (List.append_eq_nil_iff.mp (List.append_eq_nil_iff.mp
    (List.append_eq_nil_iff.mp hfaults).1).1).2
  exact List.map_eq_nil_iff.mp hfields

theorem enumValueNames_distinct (h : doc.faults = []) (n : String) :
    ((nodes doc n).flatMap (·.body.enumValueNames)).Nodup := by
  refine nodup_nodeNames h (fun earlier d hfaults => ?_) n
  have hvalues := (List.append_eq_nil_iff.mp (List.append_eq_nil_iff.mp
    (List.append_eq_nil_iff.mp hfaults).1).1).1
  exact List.map_eq_nil_iff.mp hvalues

/-- The names of the types that a definition defines: its own, if it defines a type. -/
def definitionNames : Definition Unit → List String
  | .type _ d => [d.name]
  | _ => []

theorem flatMap_definitionNames (doc : Document Unit) :
    doc.flatMap definitionNames = (Build.parts doc).types.map (·.2.name) := by
  show _ = List.map _ (List.filterMap _ doc)
  induction doc with
  | nil => rfl
  | cons d doc ih => cases d <;> simp [definitionNames, ih]

theorem types_distinct (h : doc.faults = []) :
    ((Build.parts doc).types.map (·.2.name)).Nodup := by
  rw [← flatMap_definitionNames]
  refine nodup_names h fun earlier e hfaults => ?_
  cases e with
  | type description d =>
    refine ⟨by simp [definitionNames], fun n hn hmem => ?_⟩
    rw [definitionNames, List.mem_singleton] at hn
    obtain ⟨e, he, hne⟩ := List.mem_flatMap.mp hmem
    cases e with
    | type description' d' =>
      have hsame : d'.name = d.name := by rw [← hn]; exact (List.mem_singleton.mp hne).symm
      have hfirst := List.map_eq_nil_iff.mp (List.append_eq_nil_iff.mp hfaults).1
      split at hfirst
      · next hall =>
        have hother := List.all_eq_true.mp hall _ he
        simp [hsame] at hother
      · cases hfirst
    | _ => cases hne
  | _ => exact ⟨List.nodup_nil, fun _ hm => nomatch hm⟩

theorem nodes_perm (doc : Document Unit) (n : String) :
    (nodes doc n).Perm ((((Build.parts doc).types.map (·.2)).filter (·.name == n))
      ++ (Build.parts doc).extensions.filter (·.name == n)) := by
  induction doc with
  | nil => exact .nil
  | cons d doc ih =>
    have hparts : ∀ d : Definition Unit,
        (Build.parts (d :: doc)).types = (Build.parts [d]).types ++ (Build.parts doc).types
          ∧ (Build.parts (d :: doc)).extensions
            = (Build.parts [d]).extensions ++ (Build.parts doc).extensions := by
      intro d
      cases d <;> exact ⟨rfl, rfl⟩
    rw [nodes_cons, (hparts d).1, (hparts d).2, List.map_append, List.filter_append,
      List.filter_append]
    cases d with
    | type description d =>
      have hself : nodes [.type description d] n
          = ((Build.parts [.type description d]).types.map (·.2)).filter (·.name == n) := rfl
      rw [hself, List.append_assoc]
      exact ih.append_left _
    | extendType d =>
      have hself : nodes [.extendType d] n
          = (Build.parts [.extendType d]).extensions.filter (·.name == n) := rfl
      rw [hself]
      exact (ih.append_left _).trans (List.perm_append_comm_assoc _ _ _)
    | _ => exact ih

end Document

/-- What the rules ask of a directive where it stands. -/
structure RuleContext.Governs (c : RuleContext) (location : String) (a : Applied) : Prop where
  known : ∃ k, c.directive? a.name = some k ∧ location ∈ k.locations
    ∧ (∀ x ∈ a.arguments, x.name ∈ k.arguments) ∧ ∀ r ∈ k.required, ∃ x ∈ a.arguments, x.name = r.1
  distinct : (a.arguments.map (·.name)).Nodup

section Directives
variable {doc : Document Unit} {c : RuleContext} {location : String} {a : Applied}

theorem RuleContext.Governs.of_faults
    (hdirective : (Visit.directive a location).faults c = [])
    (hend : (Visit.directiveEnd a).faults c = []) : c.Governs location a := by
  obtain ⟨hfaults, hnames⟩ := List.append_eq_nil_iff.mp hdirective
  have hdistinct : (a.arguments.map (·.name)).Nodup :=
    nodup_of_doubled (List.map_eq_nil_iff.mp (List.map_eq_nil_iff.mp hnames))
  have hrequired := List.map_eq_nil_iff.mp hend
  rw [Visit.requiredFaults, List.map_eq_nil_iff, List.filter_eq_nil_iff] at hrequired
  unfold Visit.directiveFaults at hfaults
  cases hk : c.directive? a.name with
  | none =>
    rw [hk] at hfaults
    cases hfaults
  | some k =>
    rw [hk] at hfaults hrequired
    obtain ⟨hplaced, hknown⟩ := List.append_eq_nil_iff.mp hfaults
    refine ⟨⟨k, hk, ?_, fun x hx => ?_, fun r hr => ?_⟩, hdistinct⟩
    · have hnone := List.map_eq_nil_iff.mp hplaced
      split at hnone
      · next hmem => exact List.contains_iff_mem.mp hmem
      · cases hnone
    · have hfilter := List.filter_eq_nil_iff.mp (List.map_eq_nil_iff.mp hknown) x hx
      simpa using hfilter
    · have hgiven := hrequired r hr
      simpa using hgiven

theorem Document.governs (h : doc.faults = []) {ds : List Applied}
    (hds : ∀ v ∈ Visit.ofDirectives location ds, v ∈ doc.visits) (ha : a ∈ ds) :
    (RuleContext.ofDocument doc).Governs location a := by
  have hinside : ∀ v ∈ Visit.ofDirective location a, v ∈ doc.visits := fun v hv =>
    hds v (List.mem_flatMap.mpr ⟨a, ha, hv⟩)
  refine .of_faults (faults_of_visit h (hinside _ List.mem_cons_self))
    (faults_of_visit h (hinside _ ?_))
  exact List.mem_cons_of_mem _ (List.mem_append_right _ (List.mem_singleton_self _))

theorem find?_of_count {ds : List Applied} (ha : a ∈ ds)
    (hcount : (ds.map (·.name)).count a.name ≤ 1) : ds.find? (·.name == a.name) = some a := by
  induction ds with
  | nil => cases ha
  | cons b ds ih =>
    rw [List.find?_cons]
    rcases List.mem_cons.mp ha with rfl | hmem
    · rw [beq_self_eq_true]
    · by_cases hname : b.name = a.name
      · have htail : 0 < (ds.map (·.name)).count a.name :=
          List.count_pos_iff.mpr (List.mem_map_of_mem hmem)
        rw [List.map_cons, hname, List.count_cons_self] at hcount
        omega
      · rw [beq_eq_false_iff_ne.mpr hname]
        rw [List.map_cons, List.count_cons_of_ne hname] at hcount
        exact ih hmem hcount

theorem find?_of_once {seen ds : List Applied} (h : Visit.repeatedDirectives c seen ds = [])
    (ha : a ∈ ds) (honce : c.onlyOnce a.name = true) : ds.find? (·.name == a.name) = some a := by
  have hnone : a.name ∉ repeated (seen.map (·.name)) (ds.map (·.name)) := fun hrepeated =>
    List.filter_eq_nil_iff.mp (List.map_eq_nil_iff.mp h) _ hrepeated honce
  exact find?_of_count ha (of_not_mem_repeated hnone).1

section Specified
variable (hnew : ∀ e ∈ (Build.parts doc).directives, e.name ≠ a.name)
include hnew

theorem directive?_specified : (RuleContext.ofDocument doc).directive? a.name
    = (Builtin.directives.map KnownDirective.ofType).reverse.find? (·.name == a.name) := by
  show (_ ++ _ : List KnownDirective).reverse.find? _ = _
  rw [List.reverse_append, List.find?_append]
  refine (congrArg (Option.or · _) ?_).trans Option.none_or
  refine List.find?_eq_none.mpr fun k hk hname => ?_
  obtain ⟨d, hd, hsome⟩ := List.mem_filterMap.mp (List.mem_reverse.mp hk)
  cases d with
  | directive e =>
    cases hsome
    exact hnew e (List.mem_filterMap.mpr ⟨_, hd, rfl⟩) (eq_of_beq hname)
  | _ => cases hsome

theorem onlyOnce_specified (hname : a.name ∈ Federation.printedNames) :
    (RuleContext.ofDocument doc).onlyOnce a.name = true := by
  have hall : ∀ n ∈ Federation.printedNames, ((Builtin.directives.map
      KnownDirective.ofType).reverse.find? (·.name == n)).any (!·.repeatable) = true := by
    decide +kernel
  rw [RuleContext.onlyOnce, directive?_specified hnew]
  exact hall a.name hname

theorem arguments_of_governs (h : (RuleContext.ofDocument doc).Governs location a)
    {k : KnownDirective}
    (hk : (Builtin.directives.map KnownDirective.ofType).reverse.find? (·.name == a.name) = some k) :
    location ∈ k.locations ∧ (∀ x ∈ a.arguments, x.name ∈ k.arguments)
      ∧ ∀ r ∈ k.required, ∃ x ∈ a.arguments, x.name = r.1 := by
  obtain ⟨k', hk', hlocation, hknown, hrequired⟩ := h.known
  rw [directive?_specified hnew, hk] at hk'
  cases hk'
  exact ⟨hlocation, hknown, hrequired⟩

end Specified
end Directives
end Subgraph
