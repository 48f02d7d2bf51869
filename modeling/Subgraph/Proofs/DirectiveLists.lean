import Subgraph.Proofs.ShownDirectives
import Subgraph.Proofs.TypewiseSdl

/-!
# The lists of directives

What the SDL is told about the directives of a type are those of its source, in the order of the definition
and its extensions, and then those of the configuration that are new by their printed form. So merging is
a matter of printed forms alone: what is merged in is there, merging it in again changes nothing, and it
may be merged in one go or bit by bit.
-/

namespace Subgraph.Federation
open Build

/-- The additions whose printed form stands neither among some directives nor among the additions before. -/
def newAdditions (source additions : List Applied) : List Applied :=
  (additions.zipIdx.filter fun p =>
    !((source ++ additions.take p.2).map Directive.print).contains p.1.print).map (·.1)

section Merging
variable {seen seen' : List String} {source additions : List Applied}

theorem fresh_congr (h : ∀ x, x ∈ seen ↔ x ∈ seen') (ds : List Applied) : fresh seen ds = fresh seen' ds := by
  induction ds generalizing seen seen' with
  | nil => rfl
  | cons d ds ih =>
    have hsame : seen.contains d.print = seen'.contains d.print := by
      rw [Bool.eq_iff_iff, List.contains_iff_mem, List.contains_iff_mem, h]
    have hcons : ∀ x, x ∈ d.print :: seen ↔ x ∈ d.print :: seen' := by simp [h]
    rw [fresh, fresh, hsame, ih h, ih hcons]

theorem fresh_append (seen : List String) (a b : List Applied) :
    fresh seen (a ++ b) = fresh seen a ++ fresh (seen ++ (fresh seen a).map Directive.print) b := by
  induction a generalizing seen with
  | nil => simp [fresh]
  | cons d a ih =>
    rw [List.cons_append, fresh, fresh]
    split
    · exact ih seen
    · rw [ih, List.cons_append, List.map_cons]
      congr 2
      apply fresh_congr
      intro x
      simp only [List.mem_append, List.mem_cons]
      tauto

theorem fresh_singleton (seen : List String) (d : Applied) :
    fresh seen [d] = if seen.contains d.print then [] else [d] := rfl

theorem fresh_eq_nil {ds : List Applied} (h : ∀ d ∈ ds, d.print ∈ seen) : fresh seen ds = [] := by
  induction ds with
  | nil => rfl
  | cons d ds ih =>
    rw [fresh, if_pos (List.contains_iff_mem.mpr (h d List.mem_cons_self))]
    exact ih fun e he => h e (List.mem_cons_of_mem d he)

theorem mem_seen_fresh (seen : List String) (ds : List Applied) (x : String) :
    x ∈ seen ++ (fresh seen ds).map Directive.print ↔ x ∈ seen ++ ds.map Directive.print := by
  simp only [List.mem_append, List.mem_map]
  constructor
  · rintro (hx | ⟨d, hd, rfl⟩)
    · exact .inl hx
    · exact .inr ⟨d, mem_of_mem_fresh hd, rfl⟩
  · rintro (hx | ⟨d, hd, rfl⟩)
    · exact .inl hx
    · exact fresh_covers hd seen

theorem newAdditions_append (source additions : List Applied) (d : Applied) :
    newAdditions source (additions ++ [d]) = newAdditions source additions
      ++ if ((source ++ additions).map Directive.print).contains d.print then [] else [d] := by
  have hfilter : additions.zipIdx.filter (fun p =>
        !((source ++ (additions ++ [d]).take p.2).map Directive.print).contains p.1.print)
      = additions.zipIdx.filter fun p =>
        !((source ++ additions.take p.2).map Directive.print).contains p.1.print := by
    apply List.filter_congr
    intro p hp
    have hlt := List.snd_lt_of_mem_zipIdx hp
    rw [List.take_append_of_le_length (by omega)]
  have hall : (additions ++ [d]).take additions.length = additions := List.take_left
  rw [newAdditions, List.zipIdx_append, List.filter_append, List.map_append, hfilter, Nat.zero_add,
    List.zipIdx_singleton, List.filter_singleton, hall]
  cases ((source ++ additions).map Directive.print).contains d.print <;> rfl

theorem fresh_eq_newAdditions (source additions : List Applied) :
    fresh (source.map Directive.print) additions = newAdditions source additions := by
  induction additions using List.reverseRecOn with
  | nil => rfl
  | append_singleton additions d ih =>
    have hseen : (source.map Directive.print
          ++ (fresh (source.map Directive.print) additions).map Directive.print).contains d.print
        = ((source ++ additions).map Directive.print).contains d.print := by
      rw [Bool.eq_iff_iff, List.contains_iff_mem, List.contains_iff_mem, mem_seen_fresh,
        List.map_append]
    rw [fresh_append, newAdditions_append, fresh_singleton, hseen, ih]

theorem merge_eq (source additions : List Applied) :
    merge source additions = source ++ newAdditions source additions := by
  rw [merge, fresh_eq_newAdditions]

theorem merge_append (source a b : List Applied) : merge source (a ++ b) = merge (merge source a) b := by
  rw [merge, merge, merge, fresh_append, List.map_append, List.append_assoc]

theorem merge_again (source a : List Applied) : merge (merge source a) a = merge source a := by
  have hnone : fresh ((merge source a).map Directive.print) a = [] := by
    apply fresh_eq_nil
    intro d hd
    obtain ⟨e, he, hprint⟩ := merge_covers source hd
    exact List.mem_map.mpr ⟨e, he, hprint⟩
  rw [merge, hnone, List.append_nil]

end Merging

/-- What a map says of the directives of a schema that is given a configuration. -/
structure ListsDirectives (s : Schema) (config : Config) (m : DirectiveMap) : Prop where
  type : ∀ t ∈ serviceTypes s, m.get ⟨t.name, none⟩ = restored t.applied
    ++ newAdditions (restored t.applied) (shownDirectives (shownOf config t.name))
  member : ∀ t ∈ serviceTypes s, ∀ r ∈ t.shape.rows, m.get ⟨t.name, some r.1⟩ = restored r.2.2
  once : (m.map (·.1)).Nodup
  listed : ∀ k, k ∈ m.map (·.1) ↔ m.get k ≠ []
  placed : ∀ k ∈ m.map (·.1), ∃ t ∈ serviceTypes s, k.type = t.name
    ∧ ∀ n, k.member = some n → n ∈ t.shape.rows.map (·.1)

section Map
variable {s : Schema} {c : Classification} {t : NamedType} {m : DirectiveMap}

theorem DirectiveMap.mem_keys (h : ∀ e ∈ m, e.2 ≠ []) (k : Coordinate) :
    k ∈ m.map (·.1) ↔ m.get k ≠ [] := by
  unfold DirectiveMap.get
  cases hk : m.lookup k with
  | none =>
    refine iff_of_false (fun hmem => ?_) (fun hne => hne rfl)
    obtain ⟨e, he, rfl⟩ := List.mem_map.mp hmem
    have hne := List.lookup_eq_none_iff.mp hk e he
    simp at hne
  | some ds =>
    have hmem := mem_of_lookup hk
    exact iff_of_true (List.mem_map.mpr ⟨_, hmem, rfl⟩) (h _ hmem)

theorem directiveMap_nonempty {e : Coordinate × List Applied} (he : e ∈ directiveMap s c) : e.2 ≠ [] := by
  obtain ⟨t, -, he⟩ := List.mem_flatMap.mp he
  have hfull := (List.mem_filter.mp he).2
  simpa using hfull

theorem typeEntries_keys (hrows : (t.shape.rows.map (·.1)).Nodup) :
    ((typeEntries c t).map (·.1)).Nodup := by
  have hmembers : ((memberApplications t.shape).map fun m => (⟨t.name, some m.1⟩ : Coordinate))
      = (t.shape.rows.map (·.1)).map fun n => ⟨t.name, some n⟩ := by
    rw [memberApplications_rows, List.map_map, List.map_map]
    rfl
  apply List.Nodup.sublist (List.filter_sublist.map _)
  rw [List.map_cons, List.map_map, List.nodup_cons]
  refine ⟨by simp, ?_⟩
  show ((memberApplications t.shape).map fun m => (⟨t.name, some m.1⟩ : Coordinate)).Nodup
  rw [hmembers]
  apply hrows.map
  rintro n n' heq
  cases heq
  rfl

theorem directiveMap_keys (hnames : (s.types.map (·.name)).Nodup)
    (hrows : ∀ t ∈ s.types, (t.shape.rows.map (·.1)).Nodup) :
    ((directiveMap s c).map (·.1)).Nodup := by
  have hdistinct : ((serviceTypes s).map (·.name)).Nodup :=
    hnames.sublist (List.filter_sublist.map _)
  rw [directiveMap, List.map_flatMap, List.nodup_flatMap]
  constructor
  · intro t ht
    exact typeEntries_keys (hrows t (mem_serviceTypes.mp ht).1)
  · apply (List.pairwise_map.mp hdistinct).imp
    intro t u hne k hk hk'
    obtain ⟨e, he, rfl⟩ := List.mem_map.mp hk
    obtain ⟨e', he', heq⟩ := List.mem_map.mp hk'
    apply hne
    rw [← typeEntries_type he, ← typeEntries_type he', heq]

theorem directiveMap_placed {k : Coordinate} (hk : k ∈ (directiveMap s c).map (·.1)) :
    ∃ t ∈ serviceTypes s, k.type = t.name ∧ ∀ n, k.member = some n → n ∈ t.shape.rows.map (·.1) := by
  obtain ⟨e, he, rfl⟩ := List.mem_map.mp hk
  obtain ⟨t, ht, he⟩ := List.mem_flatMap.mp he
  refine ⟨t, ht, typeEntries_type he, fun n hn => ?_⟩
  unfold typeEntries at he
  rcases List.mem_cons.mp (List.mem_of_mem_filter he) with rfl | hmem
  · cases hn
  · obtain ⟨m, hm, rfl⟩ := List.mem_map.mp hmem
    obtain rfl := Option.some.inj hn
    rw [memberApplications_rows] at hm
    obtain ⟨r, hr, rfl⟩ := List.mem_map.mp hm
    exact List.mem_map.mpr ⟨r, hr, rfl⟩

theorem listsDirectives {config : Config} (hnames : (s.types.map (·.name)).Nodup)
    (hrows : ∀ t ∈ s.types, (t.shape.rows.map (·.1)).Nodup) (hc : classify s config = .ok c) :
    ListsDirectives s config (directiveMap s c) where
  type t ht := by rw [directiveMap_type hnames ht, typeDirectives_shown hc, merge_eq]
  member t ht r hr := directiveMap_member hnames ht (hrows t (mem_serviceTypes.mp ht).1) hr
  once := directiveMap_keys hnames hrows
  listed := DirectiveMap.mem_keys fun _ he => directiveMap_nonempty he
  placed _ hk := directiveMap_placed hk

end Map

/-- A type has the directives of a definition and then those of all extensions of its name. Of a member
that is defined more than once the last definition counts. -/
structure TakenFrom (doc : Document Unit) (t : NamedType) (d : TypeDefinition Unit) : Prop where
  defined : d ∈ (parts doc).types.map (·.2)
  name : d.name = t.name
  applied : t.applied
    = (d :: (parts doc).extensions.filter (·.name == t.name)).flatMap (·.directives)
  rows : t.shape.rows = lastByName (·.1)
    ((d :: (parts doc).extensions.filter (·.name == t.name)).flatMap fun e =>
      e.body.applications.map rowOf)

theorem taken_of_build {doc : Document Unit} {s : Schema} (h : Schema.build doc = .ok s)
    {t : NamedType} (ht : t ∈ s.types) (hdefined : t.isDefined = true) : ∃ d, TakenFrom doc t d := by
  obtain ⟨⟨description, d⟩, hd, hname, hsound, ht⟩ := defined_of_build h ht hdefined
  simp only at hname hsound ht
  rw [hname] at ht
  have hkind : ∀ e ∈ (parts doc).extensions.filter (·.name == t.name),
      e.body.kind = (shape d).kind := by
    intro e he
    rw [kind_shape]
    rw [← hname] at he
    exact Build.definitionFault_kind hsound he
  refine ⟨d, List.mem_map.mpr ⟨_, hd, rfl⟩, hname, ?_, ?_⟩
  · have happlied := congrArg NamedType.applied ht
    rw [happlied]
    exact foldl_addExtension_applied _
  · have hrows := congrArg (fun u : NamedType => u.shape.rows) ht
    rw [hrows, rows_settle_lastByName, foldl_addExtension_rows _ hkind, rows_shape, List.flatMap_cons]

/-- The map of a schema lists at a type the directives of the source and then the additions of the
configuration that are new, and at a member those of the source; it has no other entries and none without
directives. In a schema that a document makes they are the directives of the document. What is configured
is in the list of its type, and of merging it does not matter how often and in how many steps it is done. -/
theorem directiveMap_lists {s : Schema} {config : Config} {c : Classification}
    (hnames : (s.types.map (·.name)).Nodup)
    (hrows : ∀ t ∈ s.types, (t.shape.rows.map (·.1)).Nodup) (hc : classify s config = .ok c) :
    ListsDirectives s config (directiveMap s c)
    ∧ (∀ doc, Schema.build doc = .ok s → ∀ t ∈ serviceTypes s, ∃ d, TakenFrom doc t d)
    ∧ (∀ t ∈ serviceTypes s, ∀ d ∈ shownDirectives (shownOf config t.name),
      ∃ e ∈ (directiveMap s c).get ⟨t.name, none⟩, e.print = d.print)
    ∧ ∀ source a b, merge (merge source a) a = merge source a
      ∧ merge source (a ++ b) = merge (merge source a) b := by
  refine ⟨listsDirectives hnames hrows hc, fun doc hdoc t ht => ?_, fun t ht d hd => ?_,
    fun source a b => ⟨merge_again source a, merge_append source a b⟩⟩
  · obtain ⟨hmem, hdefined, -⟩ := mem_serviceTypes.mp ht
    exact taken_of_build hdoc hmem hdefined
  · rw [directiveMap_type hnames ht, typeDirectives_shown hc]
    exact merge_covers _ hd

section Tagged

def tagged (name : String) : Applied := textDirective "tag" "name" name false

/-- Products that are tagged twice alike, have a key already, and are tagged again by an extension. -/
def taggedDocument : Document Unit :=
  [.type none ⟨(), "Query", [], .object [] [⟨none, "product", [], .named "Product", []⟩]⟩,
    .type none ⟨(), "Product", [tagged "a", keyApplication ["id"], tagged "a"],
      .object [] [⟨none, "id", [], .named "ID", [tagged "own", ⟨(), "deprecated", []⟩]⟩,
        ⟨none, "sku", [], .named "String", []⟩]⟩,
    .extendType ⟨(), "Product", [tagged "b"], .object [] []⟩]

def taggedConfig : Config := [("Product", ⟨[["sku"], ["id"], ["sku"]], true, none⟩)]

/-- What the map lists for products and for a field of theirs, in printed form, if members differ. -/
def listedProduct (s : Schema) (config : Config) : Option (List String × List String) :=
  if s.types.all fun t => decide (t.shape.rows.map (·.1)).Nodup then
    (classify s config).toOption.map fun c =>
      (((directiveMap s c).get ⟨"Product", none⟩).map Directive.print,
        ((directiveMap s c).get ⟨"Product", some "id"⟩).map Directive.print)
  else none

/-- The key that is there is not added again, and the new one is added once. -/
theorem directiveMap_lists_tagged : ∃ s c, Schema.build taggedDocument = .ok s
    ∧ classify s taggedConfig = .ok c ∧ (s.types.map (·.name)).Nodup
    ∧ (∀ t ∈ s.types, (t.shape.rows.map (·.1)).Nodup)
    ∧ ListsDirectives s taggedConfig (directiveMap s c)
    ∧ (∀ t ∈ serviceTypes s, ∃ d, TakenFrom taggedDocument t d)
    ∧ ((directiveMap s c).get ⟨"Product", none⟩).map Directive.print
      = ["@tag(name: \"a\")", "@key(fields: \"id\")", "@tag(name: \"a\")", "@tag(name: \"b\")",
        "@key(fields: \"sku\")", "@extends"]
    ∧ ((directiveMap s c).get ⟨"Product", some "id"⟩).map Directive.print
      = ["@tag(name: \"own\")"] := by
  have hlisted : (Schema.build taggedDocument).toOption.bind (listedProduct · taggedConfig)
      = some (["@tag(name: \"a\")", "@key(fields: \"id\")", "@tag(name: \"a\")", "@tag(name: \"b\")",
        "@key(fields: \"sku\")", "@extends"], ["@tag(name: \"own\")"]) := by
    decide +kernel
  cases hbuild : Schema.build taggedDocument with
  | error e => rw [hbuild] at hlisted; cases hlisted
  | ok s =>
    rw [hbuild, Except.toOption, Option.bind_some, listedProduct] at hlisted
    split at hlisted
    · next hall =>
      have hnames := (built hbuild).names
      have hrows : ∀ t ∈ s.types, (t.shape.rows.map (·.1)).Nodup := fun t ht =>
        of_decide_eq_true (List.all_eq_true.mp hall t ht)
      cases hc : classify s taggedConfig with
      | error e => rw [hc] at hlisted; cases hlisted
      | ok c =>
        rw [hc] at hlisted
        obtain ⟨htype, hmember⟩ := Prod.mk.inj (Option.some.inj hlisted)
        obtain ⟨hlists, htaken, -⟩ := directiveMap_lists hnames hrows hc
        exact ⟨s, c, rfl, hc, hnames, hrows, hlists, htaken _ hbuild, htype, hmember⟩
    · cases hlisted

end Tagged

end Subgraph.Federation
