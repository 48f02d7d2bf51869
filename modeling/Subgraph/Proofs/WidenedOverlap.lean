import Subgraph.Proofs.WidenedSites

/-!
# Overlapping fields in wide and narrow schemas

The search for fields of one key that conflict goes through the selections of a document with the
types that they stand in. It takes the same steps against a schema and against one that widens it:
the fields that it collects are the same ones, and what it compares of them is shared.
-/

namespace Subgraph

mutual

/-- A selection that asks no type for one of the fields that it has in a wide schema only. -/
def Selection.Narrow (s : Schema) (extra : NamedType → List Field) (p : Option NamedType) :
    Selection Nat → Prop
  | .field _ _ n _ _ _ ss => (∀ t ∈ p, ∀ g ∈ extra t, g.name ≠ n)
    ∧ NarrowSelections s extra ((p.bind (·.field? n)).bind fun f => s.type? f.type.base) ss
  | .spread .. => True
  | .inline _ c _ ss => (∀ x ∈ c, x.2 ∈ s.types.map (·.name))
    ∧ NarrowSelections s extra (match c with
      | some (_, n) => s.type? n
      | none => p) ss

def NarrowSelections (s : Schema) (extra : NamedType → List Field) (p : Option NamedType) :
    List (Selection Nat) → Prop
  | [] => True
  | x :: xs => x.Narrow s extra p ∧ NarrowSelections s extra p xs

end

section Narrow
variable {extra : NamedType → List Field} {shared : String → Prop} {s s' : Schema}

theorem Schema.Widens.composite?_of_clear (h : s.Widens extra shared s') {t : NamedType}
    (ht : t ∈ s.types) {f : Field} (hf : f ∈ t.shape.fields)
    (hleaf : (s.shape? f.type.base).any TypeShape.isLeaf = false) :
    s.composite? f.type.base = s.type? f.type.base := by
  have houtput := ((h.wellFormed.refers t ht).fields f hf).1
  rw [Schema.shape?] at houtput hleaf
  rw [Schema.composite?]
  cases hu : s.type? f.type.base with
  | none => rfl
  | some u =>
    rw [hu] at houtput hleaf
    have hcomposite : u.shape.isComposite = true := by
      simp only [Option.map_some, Option.any_some] at houtput hleaf
      cases hshape : u.shape with
      | object is fs => rfl
      | interface is fs => rfl
      | union ms => rfl
      | scalar url => rw [hshape] at hleaf; cases hleaf
      | enum vs => rw [hshape] at hleaf; cases hleaf
      | input o fs => rw [hshape] at houtput; cases houtput
    rw [Option.filter_some, if_pos hcomposite]

mutual

/-- Selections at clear places are narrow. The search may know less of the type that they stand in
than the place does. -/
theorem Selection.narrow_of_clear (h : s.Widens extra shared s') :
    ∀ (p q : Option NamedType), (q = p ∨ q = none) → (∀ t ∈ p, t ∈ s.types) → ∀ x : Selection Nat,
      (∀ site ∈ Site.ofSelection s p x, site.Clear s) → x.Narrow s extra q
  | p, q, hq, hp, .field m l n as ds bm ss, hclear => by
    rw [Site.ofSelection] at hclear
    obtain ⟨hfound, hleaf⟩ := hclear _ List.mem_cons_self
    have hbelow : ∀ site ∈ Site.ofSelections s
        ((p.bind (s.fieldOf? · n)).bind fun f => s.composite? f.type.base) ss, site.Clear s :=
      fun site hsite => hclear site
        (List.mem_cons_of_mem _ (List.mem_append_left _ (List.mem_append_right _ hsite)))
    rw [Selection.Narrow]
    constructor
    · intro t ht
      -- A search that knows the type knows the one that the place has.
      have hpt : p = some t := by
        rcases hq with rfl | rfl
        · exact ht
        · cases ht
      obtain ⟨f, hf⟩ := Option.isSome_iff_exists.mp (hfound (by rw [hpt]; rfl))
      rw [hpt] at hf
      exact h.not_extra (hp t hpt) hf
    · by_cases hss : ss = []
      · rw [hss]
        trivial
      refine narrowSelections_of_clear h _ _ ?_ Site.mem_inner ss hbelow
      cases hd : q.bind (·.field? n) with
      | none => exact .inr rfl
      | some f =>
        obtain ⟨t, ht, hfield⟩ := Option.bind_eq_some_iff.mp hd
        have hpt : p = some t := by
          rcases hq with rfl | rfl
          · exact ht
          · cases ht
        have hmem := hp t hpt
        have hf : p.bind (s.fieldOf? · n) = some f := by
          rw [hpt]
          exact h.fieldOf?_declared hmem hfield
        -- At a clear place a leaf has no selections.
        have hnotLeaf : (s.shape? f.type.base).any TypeShape.isLeaf = false := by
          cases hl : (s.shape? f.type.base).any TypeShape.isLeaf with
          | false => rfl
          | true => exact absurd (hleaf f hf hl) hss
        left
        rw [hf, Option.bind_some, Option.bind_some,
          h.composite?_of_clear hmem (List.mem_of_find?_eq_some hfield) hnotLeaf]
  | p, q, _, _, .spread m nm n ds, _ => by rw [Selection.Narrow]; trivial
  | p, q, hq, hp, .inline m c ds ss, hclear => by
    rw [Site.ofSelection_inline] at hclear
    have hbelow : ∀ site ∈ Site.ofSelections s (Site.conditioned s p c) ss, site.Clear s :=
      fun site hsite => hclear site (List.mem_cons_of_mem _ (List.mem_cons_of_mem _ hsite))
    have hcondition : ∀ x ∈ c, (s.composite? x.2).isSome = true := hclear _ List.mem_cons_self
    cases c with
    | none => exact ⟨by simp, narrowSelections_of_clear h p q hq hp ss hbelow⟩
    | some x =>
      obtain ⟨t, ht⟩ := Option.isSome_iff_exists.mp (hcondition x rfl)
      have htype : s.type? x.2 = s.composite? x.2 := by
        rw [ht]
        exact (Option.filter_eq_some_iff.mp ht).1
      refine ⟨fun y hy => ?_, ?_⟩
      · cases hy
        exact Site.mem_names_of_composite? (hcondition x rfl)
      · exact narrowSelections_of_clear h _ _ (.inl htype) Site.mem_composite? ss hbelow

theorem narrowSelections_of_clear (h : s.Widens extra shared s') :
    ∀ (p q : Option NamedType), (q = p ∨ q = none) → (∀ t ∈ p, t ∈ s.types) →
      ∀ ss : List (Selection Nat), (∀ site ∈ Site.ofSelections s p ss, site.Clear s) →
      NarrowSelections s extra q ss
  | _, _, _, _, [], _ => trivial
  | p, q, hq, hp, x :: xs, hclear => by
    rw [Site.ofSelections] at hclear
    exact ⟨x.narrow_of_clear h p q hq hp fun site hsite => hclear site (List.mem_append_left _ hsite),
      narrowSelections_of_clear h p q hq hp xs
        fun site hsite => hclear site (List.mem_append_right _ hsite)⟩

end

end Narrow

namespace Overlap

/-- A field that was collected, in the wide schema. -/
def Entry.widened (s : Schema) (extra : NamedType → List Field) (e : Entry) : Entry :=
  ⟨e.parent.map fun t => t.widened s (extra t), e.node, e.def?.map (Field.evaluated s)⟩

def widenedFields (s : Schema) (extra : NamedType → List Field) (fields : List (String × List Entry)) :
    List (String × List Entry) :=
  fields.map fun g => (g.1, g.2.map (Entry.widened s extra))

def Collected.widened (s : Schema) (extra : NamedType → List Field) (a : Collected) : Collected :=
  ⟨a.owner, widenedFields s extra a.fields, a.spreads⟩

/-- A collected field with what is selected below it. -/
structure Entry.Narrow (s : Schema) (extra : NamedType → List Field) (shared : String → Prop)
    (e : Entry) : Prop where
  field : ∀ f ∈ e.def?, shared f.type.base
  below : NarrowSelections s extra (e.def?.bind fun f => s.type? f.type.base) e.node.selections

def Collected.Narrow (s : Schema) (extra : NamedType → List Field) (shared : String → Prop)
    (a : Collected) : Prop :=
  ∀ g ∈ a.fields, ∀ e ∈ g.2, e.Narrow s extra shared

section Collecting
variable {extra : NamedType → List Field} {shared : String → Prop} {s s' : Schema}

theorem addField_widened (s : Schema) (extra : NamedType → List Field)
    (fields : List (String × List Entry)) (key : String) (e : Entry) :
    addField (widenedFields s extra fields) key (e.widened s extra)
      = widenedFields s extra (addField fields key e) := by
  induction fields with
  | nil => rfl
  | cons g r ih =>
    obtain ⟨k, es⟩ := g
    simp only [widenedFields, List.map_cons, addField] at ih ⊢
    split
    · simp only [List.map_cons, List.map_append, List.map_nil]
    · rw [List.map_cons, ih]

theorem addField_narrow {fields : List (String × List Entry)} {key : String} {e : Entry}
    (hfields : ∀ g ∈ fields, ∀ e ∈ g.2, e.Narrow s extra shared) (he : e.Narrow s extra shared) :
    ∀ g ∈ addField fields key e, ∀ e ∈ g.2, e.Narrow s extra shared := by
  induction fields with
  | nil =>
    intro g hg e' he'
    rw [List.mem_singleton.mp hg] at he'
    rw [List.mem_singleton.mp he']
    exact he
  | cons g r ih =>
    obtain ⟨k, es⟩ := g
    have hfirst := hfields (k, es) List.mem_cons_self
    have hrest := fun g hg => hfields g (List.mem_cons_of_mem (k, es) hg)
    rw [addField]
    split
    · intro g hg e' he'
      rcases List.mem_cons.mp hg with rfl | hg
      · rcases List.mem_append.mp he' with he' | he'
        · exact hfirst e' he'
        · rw [List.mem_singleton.mp he']
          exact he
      · exact hrest g hg e' he'
    · intro g hg e' he'
      rcases List.mem_cons.mp hg with rfl | hg
      · exact hfirst e' he'
      · exact ih hrest g hg e' he'

theorem mem_type? {n : String} : ∀ t ∈ s.type? n, t ∈ s.types :=
  fun _ ht => (Schema.mem_of_type? ht).1

theorem bind_field?_widened {p : Option NamedType} {n : String}
    (hn : ∀ t ∈ p, ∀ g ∈ extra t, g.name ≠ n) :
    (p.map fun t => t.widened s (extra t)).bind (·.field? n)
      = (p.bind (·.field? n)).map (Field.evaluated s) := by
  cases p with
  | none => rfl
  | some t => exact t.field?_widened s (extra t) (hn t rfl)

theorem entry_narrow (h : s.Widens extra shared s') {p : Option NamedType}
    (hp : ∀ t ∈ p, t ∈ s.types) {n : FieldNode}
    (hbelow : NarrowSelections s extra ((p.bind (·.field? n.name)).bind fun f => s.type? f.type.base)
      n.selections) : Entry.Narrow s extra shared ⟨p, n, p.bind (·.field? n.name)⟩ where
  field := by
    intro f hf
    obtain ⟨t, ht, hfield⟩ := Option.bind_eq_some_iff.mp hf
    exact (h.shared_field (hp t ht) (List.mem_of_find?_eq_some hfield)).1
  below := hbelow

mutual

theorem addSelection_widened (h : s.Widens extra shared s') :
    ∀ (p : Option NamedType), (∀ t ∈ p, t ∈ s.types) → ∀ (acc : Collected),
      acc.Narrow s extra shared → ∀ x : Selection Nat, x.Narrow s extra p →
      addSelection s' (p.map fun t => t.widened s (extra t)) (acc.widened s extra) x
          = (addSelection s p acc x).widened s extra
        ∧ (addSelection s p acc x).Narrow s extra shared
  | p, hp, acc, hacc, .field m l n as ds bm ss, hx => by
    rw [Selection.Narrow] at hx
    have hadd := addField_widened s extra acc.fields (FieldNode.key ⟨m, l, n, as, ds, bm, ss⟩)
      ⟨p, ⟨m, l, n, as, ds, bm, ss⟩, p.bind (·.field? n)⟩
    simp only [addSelection, bind_field?_widened hx.1]
    refine ⟨?_, addField_narrow hacc (entry_narrow h hp hx.2)⟩
    simp only [Collected.widened, Entry.widened] at hadd ⊢
    rw [hadd]
  | p, hp, acc, hacc, .spread m nm n ds, _ => by
    have hspreads : (acc.widened s extra).spreads = acc.spreads := rfl
    rw [addSelection, addSelection, hspreads]
    by_cases hn : acc.spreads.contains n = true
    · rw [if_pos hn, if_pos hn]
      exact ⟨rfl, hacc⟩
    · rw [if_neg hn, if_neg hn]
      exact ⟨rfl, hacc⟩
  | p, hp, acc, hacc, .inline m none ds ss, hx => by
    rw [addSelection, addSelection]
    exact addSelections_widened h p hp acc hacc ss hx.2
  | p, hp, acc, hacc, .inline m (some x) ds ss, hx => by
    have hinner := h.type? x.2 (h.shared_of_mem (hx.1 x rfl))
    rw [addSelection, addSelection]
    simp only [hinner]
    exact addSelections_widened h _ mem_type? acc hacc ss hx.2

theorem addSelections_widened (h : s.Widens extra shared s') :
    ∀ (p : Option NamedType), (∀ t ∈ p, t ∈ s.types) → ∀ (acc : Collected),
      acc.Narrow s extra shared → ∀ ss : List (Selection Nat), NarrowSelections s extra p ss →
      addSelections s' (p.map fun t => t.widened s (extra t)) (acc.widened s extra) ss
          = (addSelections s p acc ss).widened s extra
        ∧ (addSelections s p acc ss).Narrow s extra shared
  | _, _, _, hacc, [], _ => ⟨rfl, hacc⟩
  | p, hp, acc, hacc, x :: xs, ⟨hx, hxs⟩ => by
    obtain ⟨hfirst, hnarrow⟩ := addSelection_widened h p hp acc hacc x hx
    rw [addSelections, addSelections, hfirst]
    exact addSelections_widened h p hp _ hnarrow xs hxs

end

theorem collect_widened (h : s.Widens extra shared s') {p : Option NamedType}
    (hp : ∀ t ∈ p, t ∈ s.types) (owner : Option String) {ss : List (Selection Nat)}
    (hss : NarrowSelections s extra p ss) :
    collect s' (p.map fun t => t.widened s (extra t)) owner ss
        = (collect s p owner ss).widened s extra
      ∧ (collect s p owner ss).Narrow s extra shared :=
  addSelections_widened h p hp ⟨owner, [], []⟩ (fun _ hg => by cases hg) ss hss

end Collecting

section Search
variable {α β : Type}

theorem gatherAll_map (f : β → Search (List Conflict)) (g : α → β) (xs : List α) :
    gatherAll f (xs.map g) = gatherAll (fun x => f (g x)) xs := by
  induction xs with
  | nil => rfl
  | cons x xs ih => rw [List.map_cons, gatherAll, gatherAll, ih]

theorem gatherAll_eq_of_mem {f g : α → Search (List Conflict)} {xs : List α}
    (h : ∀ x ∈ xs, f x = g x) : gatherAll f xs = gatherAll g xs := by
  induction xs with
  | nil => rfl
  | cons x xs ih =>
    rw [gatherAll, gatherAll, h x List.mem_cons_self, ih fun y hy => h y (List.mem_cons_of_mem x hy)]

theorem pairsOf_map (g : α → β) (xs : List α) :
    pairsOf (xs.map g) = (pairsOf xs).map fun x => (g x.1, g x.2) := by
  induction xs with
  | nil => rfl
  | cons x xs ih =>
    rw [List.map_cons, pairsOf, pairsOf, ih, List.map_append, List.map_map, List.map_map]
    rfl

theorem mem_of_mem_pairsOf {xs : List α} {x : α × α} (h : x ∈ pairsOf xs) : x.1 ∈ xs ∧ x.2 ∈ xs := by
  induction xs with
  | nil => cases h
  | cons y ys ih =>
    rcases List.mem_append.mp h with h | h
    · obtain ⟨z, hz, rfl⟩ := List.mem_map.mp h
      exact ⟨List.mem_cons_self, List.mem_cons_of_mem y hz⟩
    · exact ⟨List.mem_cons_of_mem y (ih h).1, List.mem_cons_of_mem y (ih h).2⟩

end Search

section Same
variable {extra : NamedType → List Field} {shared : String → Prop} {s' : Schema} {c : QueryContext}

/-- The fragments of a document can be searched. -/
def NarrowFragments (c : QueryContext) (extra : NamedType → List Field) : Prop :=
  ∀ f ∈ c.fragments, f.condition ∈ c.schema.types.map (·.name)
    ∧ NarrowSelections c.schema extra (c.schema.type? f.condition) f.selections

theorem narrowFragments_of_clear (h : c.schema.Widens extra shared s') (hc : c.Clear) :
    NarrowFragments c extra := by
  intro f hf
  have hcondition := (hc.fragments f hf).1
  obtain ⟨t, ht⟩ := Option.isSome_iff_exists.mp hcondition
  have htype : c.schema.type? f.condition = c.schema.composite? f.condition := by
    rw [ht]
    exact (Option.filter_eq_some_iff.mp ht).1
  refine ⟨Site.mem_names_of_composite? hcondition,
    narrowSelections_of_clear h _ _ (.inl htype) Site.mem_composite? f.selections fun site hsite => ?_⟩
  exact (hc.sites site (List.mem_append_right _ (List.mem_flatMap.mpr
    ⟨f, hf, List.mem_cons_of_mem _ hsite⟩))).clear

variable (h : c.schema.Widens extra shared s')
include h

theorem typesConflict_on {t u : TypeRef} (ht : shared t.base) (hu : shared u.base) :
    typesConflict s' t u = typesConflict c.schema t u := by
  fun_induction typesConflict c.schema t u with
  | case1 a b ih => exact ih ht hu
  | case2 a b ih => exact ih ht hu
  | case3 a b =>
    have ha : (s'.shape? a).any TypeShape.isLeaf = (c.schema.shape? a).any TypeShape.isLeaf :=
      h.any ht TypeShape.isLeaf_widened
    have hb : (s'.shape? b).any TypeShape.isLeaf = (c.schema.shape? b).any TypeShape.isLeaf :=
      h.any hu TypeShape.isLeaf_widened
    show (((s'.shape? a).any TypeShape.isLeaf || (s'.shape? b).any TypeShape.isLeaf) && a != b)
      = (((c.schema.shape? a).any TypeShape.isLeaf || (c.schema.shape? b).any TypeShape.isLeaf)
        && a != b)
    rw [ha, hb]
  | case4 t u hlist hnonNull hnamed =>
    rw [typesConflict]
    · exact hlist
    · exact hnonNull
    · exact hnamed

theorem fragmentFields?_on (hf : NarrowFragments c extra) (n : String) :
    fragmentFields? (c.on s') n = (fragmentFields? c n).map (Collected.widened c.schema extra) := by
  have hfragment : (c.on s').fragment? n = c.fragment? n := rfl
  rw [fragmentFields?, fragmentFields?, hfragment]
  cases hfind : c.fragment? n with
  | none => rfl
  | some f =>
    obtain ⟨hname, hselections⟩ := hf f (List.mem_reverse.mp (List.mem_of_find?_eq_some hfind))
    have hcollect := (collect_widened h mem_type? (some n) hselections).1
    simp only [Option.map_some, QueryContext.on, h.type? f.condition (h.shared_of_mem hname)]
    rw [hcollect]

theorem fragmentFields?_narrow (hf : NarrowFragments c extra) {n : String} {a : Collected}
    (ha : fragmentFields? c n = some a) : a.Narrow c.schema extra shared := by
  obtain ⟨f, hfind, rfl⟩ := Option.map_eq_some_iff.mp ha
  exact (collect_widened h mem_type? (some n)
    (hf f (List.mem_reverse.mp (List.mem_of_find?_eq_some hfind))).2).2

omit h in
theorem bothObjects_widened (s : Schema) (a b : Option NamedType) :
    bothObjects (a.map fun t => t.widened s (extra t)) (b.map fun t => t.widened s (extra t))
      = bothObjects a b := by
  cases a with
  | none => rfl
  | some a =>
    cases b with
    | none => rfl
    | some b =>
      simp only [bothObjects, Option.map_some, NamedType.widened_name, NamedType.widened_shape,
        TypeShape.isObject_widened]

omit h in
theorem lookup_widenedFields (s : Schema) (fields : List (String × List Entry)) (key : String) :
    ((widenedFields s extra fields).lookup key).getD []
      = ((fields.lookup key).getD []).map (Entry.widened s extra) := by
  rw [widenedFields, lookup_map_values]
  cases fields.lookup key <;> rfl

omit h in
theorem Collected.Narrow.lookup {a : Collected} (ha : a.Narrow c.schema extra shared) (key : String) :
    ∀ e ∈ (a.fields.lookup key).getD [], e.Narrow c.schema extra shared := by
  intro e he
  cases hes : a.fields.lookup key with
  | none => rw [hes] at he; cases he
  | some es =>
    rw [hes] at he
    exact ha (key, es) (mem_of_lookup hes) e he

/-- What a search of some fuel finds is the same in the wide schema. -/
structure SameSearch (c : QueryContext) (extra : NamedType → List Field) (shared : String → Prop)
    (s' : Schema) (fuel : Nat) : Prop where
  conflict? : ∀ apart key (a b : Entry), a.Narrow c.schema extra shared →
    b.Narrow c.schema extra shared →
    conflict? (c.on s') fuel apart key (a.widened c.schema extra) (b.widened c.schema extra)
      = conflict? c fuel apart key a b
  between : ∀ apart (a b : Collected), a.Narrow c.schema extra shared →
    b.Narrow c.schema extra shared →
    between (c.on s') fuel apart (a.widened c.schema extra) (b.widened c.schema extra)
      = between c fuel apart a b
  fieldsBetween : ∀ apart (a b : Collected), a.Narrow c.schema extra shared →
    b.Narrow c.schema extra shared →
    fieldsBetween (c.on s') fuel apart (a.widened c.schema extra) (b.widened c.schema extra)
      = fieldsBetween c fuel apart a b
  fieldsAndFragment : ∀ apart (a : Collected) n, a.Narrow c.schema extra shared →
    fieldsAndFragment (c.on s') fuel apart (a.widened c.schema extra) n
      = fieldsAndFragment c fuel apart a n
  fragments : ∀ apart m n, fragments (c.on s') fuel apart m n = fragments c fuel apart m n

theorem below_widened {e : Entry} (he : e.Narrow c.schema extra shared) :
    collect s' ((e.widened c.schema extra).def?.bind fun f => s'.type? f.type.base) none
        e.node.selections
      = (collect c.schema (e.def?.bind fun f => c.schema.type? f.type.base) none
          e.node.selections).widened c.schema extra
    ∧ (collect c.schema (e.def?.bind fun f => c.schema.type? f.type.base) none
          e.node.selections).Narrow c.schema extra shared := by
  have hinner : ((e.widened c.schema extra).def?.bind fun f => s'.type? f.type.base)
      = (e.def?.bind fun f => c.schema.type? f.type.base).map
          fun t => t.widened c.schema (extra t) := by
    rw [Entry.widened]
    cases hd : e.def? with
    | none => rfl
    | some f => exact h.type? f.type.base (he.field f hd)
  have hmem : ∀ t ∈ e.def?.bind fun f => c.schema.type? f.type.base, t ∈ c.schema.types := by
    intro t ht
    obtain ⟨f, -, ht⟩ := Option.bind_eq_some_iff.mp ht
    exact mem_type? t ht
  rw [hinner]
  exact collect_widened h hmem none he.below

section Steps
variable {fuel : Nat} (ih : SameSearch c extra shared s' fuel)
include ih

theorem conflict?_step (apart : Bool) (key : String) {a b : Entry}
    (ha : a.Narrow c.schema extra shared) (hb : b.Narrow c.schema extra shared) :
    conflict? (c.on s') (fuel + 1) apart key (a.widened c.schema extra) (b.widened c.schema extra)
      = conflict? c (fuel + 1) apart key a b := by
  have hnode : ∀ e : Entry, (e.widened c.schema extra).node = e.node := fun _ => rfl
  have hobjects : bothObjects (a.widened c.schema extra).parent (b.widened c.schema extra).parent
      = bothObjects a.parent b.parent := bothObjects_widened c.schema a.parent b.parent
  have hschema : (c.on s').schema = s' := rfl
  obtain ⟨hbelow, hnarrow⟩ := below_widened h ha
  obtain ⟨hbelow', hnarrow'⟩ := below_widened h hb
  have hbetween := ih.between (apart || bothObjects a.parent b.parent) _ _ hnarrow hnarrow'
  have htypes : ∀ f ∈ a.def?, ∀ g ∈ b.def?, typesConflict s' f.type g.type
      = typesConflict c.schema f.type g.type := fun f hf g hg =>
    typesConflict_on h (ha.field f hf) (hb.field g hg)
  have hdef : ∀ e : Entry, (e.widened c.schema extra).def? = e.def?.map (Field.evaluated c.schema) :=
    fun _ => rfl
  simp only [Overlap.conflict?, hnode, hobjects, hschema, hbelow, hbelow', hbetween]
  rw [hdef, hdef]
  cases hf : a.def? with
  | none => rfl
  | some f =>
    cases hg : b.def? with
    | none => rfl
    | some g =>
      have hsame : typesConflict s' (f.evaluated c.schema).type (g.evaluated c.schema).type
          = typesConflict c.schema f.type g.type := htypes f hf g hg
      simp only [Option.map_some, hsame]
      rfl

omit h in
theorem between_step (apart : Bool) {a b : Collected} (ha : a.Narrow c.schema extra shared)
    (hb : b.Narrow c.schema extra shared) :
    between (c.on s') (fuel + 1) apart (a.widened c.schema extra) (b.widened c.schema extra)
      = between c (fuel + 1) apart a b := by
  have hright : fieldsAndFragment (c.on s') fuel apart (a.widened c.schema extra)
      = fieldsAndFragment c fuel apart a := funext fun n => ih.fieldsAndFragment apart a n ha
  have hleft : fieldsAndFragment (c.on s') fuel apart (b.widened c.schema extra)
      = fieldsAndFragment c fuel apart b := funext fun n => ih.fieldsAndFragment apart b n hb
  have hspread : fragments (c.on s') fuel apart = fragments c fuel apart :=
    funext fun m => funext fun n => ih.fragments apart m n
  rw [Overlap.between, Overlap.between, ih.fieldsBetween apart a b ha hb, hright, hleft, hspread]
  rfl

omit h in
theorem fieldsBetween_step (apart : Bool) {a b : Collected} (ha : a.Narrow c.schema extra shared)
    (hb : b.Narrow c.schema extra shared) :
    fieldsBetween (c.on s') (fuel + 1) apart (a.widened c.schema extra) (b.widened c.schema extra)
      = fieldsBetween c (fuel + 1) apart a b := by
  have hfields : ∀ a : Collected,
      (a.widened c.schema extra).fields = widenedFields c.schema extra a.fields := fun _ => rfl
  rw [Overlap.fieldsBetween, Overlap.fieldsBetween]
  simp only [hfields, lookup_widenedFields, gatherAll_map]
  rw [widenedFields, gatherAll_map]
  refine gatherAll_eq_of_mem fun g hg => ?_
  obtain ⟨key, es⟩ := g
  simp only [gatherAll_map]
  refine gatherAll_eq_of_mem fun e he => gatherAll_eq_of_mem fun e' he' => ?_
  rw [ih.conflict? apart key e e' (ha (key, es) hg e he) (hb.lookup key e' he')]

theorem fieldsAndFragment_step (hf : NarrowFragments c extra) (apart : Bool) {a : Collected}
    (ha : a.Narrow c.schema extra shared) (n : String) :
    fieldsAndFragment (c.on s') (fuel + 1) apart (a.widened c.schema extra) n
      = fieldsAndFragment c (fuel + 1) apart a n := by
  rw [Overlap.fieldsAndFragment, Overlap.fieldsAndFragment, fragmentFields?_on h hf]
  cases hb : fragmentFields? c n with
  | none => rfl
  | some b =>
    simp only [Option.map_some, ih.fieldsBetween apart a b ha (fragmentFields?_narrow h hf hb),
      ih.fieldsAndFragment apart a _ ha]
    rfl

theorem fragments_step (hf : NarrowFragments c extra) (apart : Bool) (m n : String) :
    fragments (c.on s') (fuel + 1) apart m n = fragments c (fuel + 1) apart m n := by
  have hspread : fragments (c.on s') fuel apart = fragments c fuel apart :=
    funext fun m => funext fun n => ih.fragments apart m n
  rw [Overlap.fragments, Overlap.fragments, fragmentFields?_on h hf, fragmentFields?_on h hf, hspread]
  cases ha : fragmentFields? c m with
  | none => rfl
  | some a =>
    cases hb : fragmentFields? c n with
    | none => rfl
    | some b =>
      simp only [Option.map_some, ih.fieldsBetween apart a b (fragmentFields?_narrow h hf ha)
        (fragmentFields?_narrow h hf hb)]
      rfl

end Steps

theorem sameSearch (hf : NarrowFragments c extra) (fuel : Nat) : SameSearch c extra shared s' fuel := by
  induction fuel with
  | zero =>
    exact ⟨fun _ _ _ _ _ _ => rfl, fun _ _ _ _ _ => rfl, fun _ _ _ _ _ => rfl, fun _ _ _ _ => rfl,
      fun _ _ _ => rfl⟩
  | succ fuel ih =>
    exact {
      conflict? := fun apart key a b ha hb => conflict?_step h ih apart key ha hb
      between := fun apart a b ha hb => between_step ih apart ha hb
      fieldsBetween := fun apart a b ha hb => fieldsBetween_step ih apart ha hb
      fieldsAndFragment := fun apart a n ha => fieldsAndFragment_step h ih hf apart ha n
      fragments := fun apart m n => fragments_step h ih hf apart m n }

theorem within_on (hf : NarrowFragments c extra) (fuel : Nat) {a : Collected}
    (ha : a.Narrow c.schema extra shared) :
    within (c.on s') fuel (a.widened c.schema extra) = within c fuel a := by
  have hsame := sameSearch h hf fuel
  have hfields : (a.widened c.schema extra).fields = widenedFields c.schema extra a.fields := rfl
  have hspreads : (a.widened c.schema extra).spreads = a.spreads := rfl
  have hfragments : fragments (c.on s') fuel false = fragments c fuel false :=
    funext fun m => funext fun n => hsame.fragments false m n
  have hown : gatherAll (fun g : String × List Entry => gatherAll (fun x : Entry × Entry => do
        return (← conflict? (c.on s') fuel false g.1 x.1 x.2).toList) (pairsOf g.2))
        (widenedFields c.schema extra a.fields)
      = gatherAll (fun g : String × List Entry => gatherAll (fun x : Entry × Entry => do
        return (← conflict? c fuel false g.1 x.1 x.2).toList) (pairsOf g.2)) a.fields := by
    rw [widenedFields, gatherAll_map]
    refine gatherAll_eq_of_mem fun g hg => ?_
    simp only [pairsOf_map, gatherAll_map]
    refine gatherAll_eq_of_mem fun x hx => ?_
    obtain ⟨hfirst, hsecond⟩ := mem_of_mem_pairsOf hx
    rw [hsame.conflict? false g.1 x.1 x.2 (ha g hg x.1 hfirst) (ha g hg x.2 hsecond)]
  rw [within, within, hfields, hown, hspreads, hfragments]
  simp only [hsame.fieldsAndFragment false a _ ha]

theorem issues_on (hc : c.Clear) {p : Option NamedType} (hp : ∀ t ∈ p, t ∈ c.schema.types)
    (owner : Option String) {ss : List (Selection Nat)}
    (hss : NarrowSelections c.schema extra p ss) :
    issues (c.on s') (p.map fun t => t.widened c.schema (extra t)) owner ss
      = issues c p owner ss := by
  have hlength : (c.on s').sites.length = c.sites.length := QueryContext.length_sites_on h hc
  obtain ⟨hcollect, hnarrow⟩ := collect_widened h hp owner hss
  have hwithin := fun fuel => within_on h (narrowFragments_of_clear h hc) fuel hnarrow
  simp only [issues, hlength]
  rw [show (c.on s').schema = s' from rfl, hcollect]
  simp only [hwithin]
  rfl

end Same
end Overlap
end Subgraph
