import Subgraph.Proofs.EntityDeclarations
import Mathlib.Data.List.Perm.Basic

/-!
# The SDL and the configuration, type by type

What the SDL says of a type depends on the key sets and the mark of extension that the configuration
gives this type, and on nothing else of it. So neither the order of a configuration matters, nor
the reference functions, nor types without settings. A configuration is accepted in any order, with
the same entities.
-/

namespace Subgraph.Federation
open Config Build

/-- What the SDL shows of the settings of a type: its key sets, and whether it extends another type. A
type that is not configured has no keys and extends nothing. -/
def shownOf (config : Config) (n : String) : List KeySet × Bool :=
  ((config.lookup n).map fun t => (t.keySets, t.extend)).getD ([], false)

def shownDirectives (shown : List KeySet × Bool) : List Applied :=
  shown.1.map keyApplication ++ if shown.2 then [extendsApplication] else []

section Types
variable {s : Schema} {config config' : Config} {c c' : Classification} {t : NamedType}

theorem typeDirectives_shown (h : classify s config = .ok c) (t : NamedType) :
    typeDirectives c t = merge (restored t.applied) (shownDirectives (shownOf config t.name)) := by
  obtain ⟨haccepts, rfl⟩ := classify_ok_iff.mp h
  have hsettings := haccepts.settings t.name
  rw [typeDirectives_eq, shownOf, ← hsettings]
  cases (⟨configuredTypes s config⟩ : Classification).get? t.name with
  | none => rfl
  | some f => rfl

theorem typeEntries_shown (h : classify s config = .ok c) (h' : classify s config' = .ok c')
    (hshown : shownOf config t.name = shownOf config' t.name) : typeEntries c t = typeEntries c' t := by
  rw [typeEntries, typeEntries, typeDirectives_shown h, typeDirectives_shown h', hshown]

theorem directiveMap_lookup {n : String}
    (hsame : ∀ t ∈ serviceTypes s, t.name = n → typeEntries c t = typeEntries c' t)
    (member : Option String) :
    (directiveMap s c).get ⟨n, member⟩ = (directiveMap s c').get ⟨n, member⟩ := by
  unfold DirectiveMap.get directiveMap
  congr 1
  generalize serviceTypes s = types at hsame
  induction types with
  | nil => rfl
  | cons t ts ih =>
    have hrest := ih fun u hu => hsame u (List.mem_cons_of_mem t hu)
    rw [List.flatMap_cons, List.flatMap_cons, List.lookup_append, List.lookup_append, hrest]
    by_cases hn : t.name = n
    · rw [hsame t List.mem_cons_self hn]
    · rw [typeEntries_lookup_of_ne hn, typeEntries_lookup_of_ne hn]

theorem printType_congr {m m' : DirectiveMap}
    (h : ∀ member, m.get ⟨t.name, member⟩ = m'.get ⟨t.name, member⟩) :
    printType s m t = printType s m' t := by
  have htype : printTypeDirectives m t = printTypeDirectives m' t := by
    rw [printTypeDirectives, printTypeDirectives, h none]
  have hmember : printMemberDirectives m t = printMemberDirectives m' t := by
    funext n
    rw [printMemberDirectives, printMemberDirectives, h (some n)]
  have hfield : printField s m t = printField s m' t := by
    funext first f
    rw [printField, printField, hmember]
  have hvalue : printEnumValue m t = printEnumValue m' t := by
    funext first v
    rw [printEnumValue, printEnumValue, hmember]
  have hinput : printInputField s m t = printInputField s m' t := by
    funext first v
    rw [printInputField, printInputField, hmember]
  unfold printType
  cases t.shape <;> simp only [printComposite, htype, hfield, hvalue, hinput]

theorem printType_shown (h : classify s config = .ok c) (h' : classify s config' = .ok c')
    (hshown : shownOf config t.name = shownOf config' t.name) :
    printType s (directiveMap s c) t = printType s (directiveMap s c') t := by
  refine printType_congr (directiveMap_lookup fun u _ hname => ?_)
  exact typeEntries_shown h h' (by rw [hname, hshown])

/-- What an SDL defines apart from types: the roots and the directives. -/
def definitionsApart (s : Schema) : List String :=
  (printDefinition s (leftOutNames s)).toList ++ (serviceDirectives s).map s.printDirective

theorem definitions_apart (s : Schema) (c : Classification) : definitions s c
    = definitionsApart s ++ (serviceTypes s).filterMap (printType s (directiveMap s c)) := by
  simp only [definitions, leftOut_eq, definitionsApart]

theorem printSdl?_shown (h : classify s config = .ok c) (h' : classify s config' = .ok c')
    (hshown : ∀ t ∈ serviceTypes s, shownOf config t.name = shownOf config' t.name) :
    printSdl? s c = printSdl? s c' := by
  have hdefinitions : definitions s c = definitions s c' := by
    rw [definitions_apart, definitions_apart,
      filterMap_eq_of_mem fun t ht => printType_shown h h' (hshown t ht)]
  rw [printSdl?, printSdl?, printSdl, printSdl, hdefinitions]

end Types

section Restating

theorem lookup_perm {α : Type} {es es' : Entries α} (h : es.Perm es') (hnames : es.names.Nodup)
    (n : String) : es.lookup n = es'.lookup n := by
  induction h with
  | nil => rfl
  | cons e _ ih =>
    obtain ⟨m, a⟩ := e
    rw [List.lookup_cons, List.lookup_cons, ih (List.nodup_cons.mp hnames).2]
  | swap e e' es =>
    obtain ⟨m, a⟩ := e
    obtain ⟨m', a'⟩ := e'
    have hne : m' ≠ m := fun heq => (List.nodup_cons.mp hnames).1 (heq ▸ List.mem_cons_self)
    simp only [List.lookup_cons]
    by_cases hn : n = m
    · subst hn
      rw [beq_self_eq_true, beq_eq_false_iff_ne.mpr (Ne.symm hne)]
    · rw [beq_eq_false_iff_ne.mpr hn]
  | trans h _ ih ih' => rw [ih hnames, ih' ((h.map _).nodup_iff.mp hnames)]

/-- Changes of a configuration that leave every type with its keys and its mark of extension: another
order, a further type without either, other reference functions. -/
inductive Restates : Config → Config → Prop where
  | reordered {config config' : Config} (order : config.Perm config')
      (names : (Entries.names config).Nodup) : Restates config config'
  | added {config : Config} {n : String} {settings : TypeSettings}
      (new : n ∉ Entries.names config) (keySets : settings.keySets = [])
      (extend : settings.extend = false) : Restates config (config ++ [(n, settings)])
  | rereferenced {config config' : Config}
      (same : config.map (fun e => (e.1, e.2.keySets, e.2.extend))
        = config'.map fun e => (e.1, e.2.keySets, e.2.extend)) : Restates config config'
  | trans {config config' config'' : Config} (first : Restates config config')
      (second : Restates config' config'') : Restates config config''

theorem Restates.shownOf_eq {config config' : Config} (h : Restates config config') (n : String) :
    shownOf config n = shownOf config' n := by
  induction h with
  | reordered order names => rw [shownOf, shownOf, lookup_perm order names]
  | @added config m settings new keySets extend =>
    rw [shownOf, shownOf, List.lookup_append]
    cases hl : config.lookup n with
    | some t => rfl
    | none =>
      rw [Option.none_or, List.lookup_cons]
      cases n == m with
      | false => rfl
      | true => simp [keySets, extend]
  | @rereferenced config config' same =>
    have hvalues : ∀ config : Config, (config.lookup n).map (fun t => (t.keySets, t.extend))
        = (config.map fun e => (e.1, e.2.keySets, e.2.extend)).lookup n := fun config =>
      (lookup_map_values (fun t : TypeSettings => (t.keySets, t.extend)) config n).symm
    rw [shownOf, shownOf, hvalues, hvalues, same]
  | trans _ _ ih ih' => rw [ih, ih']

end Restating

section Reading
variable {registry : Registry}

/-- The name that a key gives, which has to be a text. -/
def nameOfKey? : Raw → Option String
  | .text n => some n
  | .unpaired ps => some (Text.Points.joined ps)
  | _ => none

/-- An entry of raw settings is read as settings with their name. -/
structure ReadsEntry (registry : Registry) (e : Raw × Raw) (f : String × TypeSettings) : Prop where
  name : nameOfKey? e.1 = some f.1
  settings : checkSettings registry e.2 = .ok f.2

theorem nameAll_cons_iff {i : Nat} {k : Raw} {t : TypeSettings} {r : List (Raw × TypeSettings)}
    {config : Config} : nameAll i ((k, t) :: r) = .ok config
      ↔ ∃ n rest, nameOfKey? k = some n ∧ nameAll (i + 1) r = .ok rest ∧ config = (n, t) :: rest := by
  have hstep : ∀ n : String, ((do return (n, t) :: (← nameAll (i + 1) r) : Except ConfigError Config)
        = .ok config) ↔ ∃ rest, nameAll (i + 1) r = .ok rest ∧ config = (n, t) :: rest := by
    intro n
    constructor
    · intro h
      obtain ⟨rest, hrest, hsame⟩ := Except.of_bind_ok h
      exact ⟨rest, hrest, (Except.ok.inj hsame).symm⟩
    · rintro ⟨rest, hrest, rfl⟩
      rw [hrest]
      rfl
  cases k with
  | text n => simpa [nameOfKey?, nameAll] using hstep n
  | unpaired ps => simpa [nameOfKey?, nameAll] using hstep (Text.Points.joined ps)
  | _ => simp [nameOfKey?, nameAll]

theorem readAll_iff {es : List (Raw × Raw)} {i : Nat} {config : Config} :
    ((checkAll registry es) >>= nameAll i) = .ok config
      ↔ List.Forall₂ (ReadsEntry registry) es config := by
  induction es generalizing i config with
  | nil =>
    rw [List.forall₂_nil_left_iff]
    exact ⟨fun h => (Except.ok.inj h).symm, fun h => by rw [h]; rfl⟩
  | cons e es ih =>
    obtain ⟨k, v⟩ := e
    rw [List.forall₂_cons_left_iff]
    constructor
    · intro h
      obtain ⟨all, hall, hnamed⟩ := Except.of_bind_ok h
      obtain ⟨t, ht, hrest⟩ := Except.of_bind_ok hall
      obtain ⟨ts, hts, hcons⟩ := Except.of_bind_ok hrest
      obtain rfl := Except.ok.inj hcons
      obtain ⟨n, rest, hn, hnames, rfl⟩ := nameAll_cons_iff.mp hnamed
      have hread : (checkAll registry es >>= nameAll (i + 1)) = .ok rest := by
        rw [hts]
        exact hnames
      exact ⟨(n, t), rest, ⟨hn, ht⟩, ih.mp hread, rfl⟩
    · rintro ⟨⟨n, t⟩, rest, ⟨hn, ht⟩, hrest, rfl⟩
      obtain ⟨ts, hts, hnames⟩ := Except.of_bind_ok ((ih (i := i + 1)).mpr hrest)
      have hall : checkAll registry ((k, v) :: es) = .ok ((k, t) :: ts) := by
        rw [checkAll, ht, hts]
        rfl
      rw [hall]
      exact nameAll_cons_iff.mpr ⟨n, rest, hn, hnames, rfl⟩

theorem parse_ok_iff {raw : Raw} {config : Config} : parse registry raw = .ok config
    ↔ ∃ es, raw.unfolded = .record es ∧ List.Forall₂ (ReadsEntry registry) es config := by
  unfold parse
  cases raw.unfolded with
  | record es =>
    simp only [Raw.record.injEq, exists_eq_left']
    exact readAll_iff
  | _ => simp

end Reading

/-- The same entries in another order. -/
def Reordered (raw raw' : Raw) : Prop :=
  ∃ es es', raw.unfolded = .record es ∧ raw'.unfolded = .record es' ∧ es.Perm es'

/-- A configuration that can be read and fits a schema. -/
def Fits (registry : Registry) (s : Schema) (raw : Raw) : Prop :=
  ∃ config c, parse registry raw = .ok config ∧ classify s config = .ok c

section Reordering
variable {registry : Registry} {s : Schema} {raw raw' : Raw}

theorem Reordered.symm (h : Reordered raw raw') : Reordered raw' raw := by
  obtain ⟨es, es', hes, hes', horder⟩ := h
  exact ⟨es', es, hes', hes, horder.symm⟩

theorem Reordered.parse (h : Reordered raw raw') {config : Config}
    (hparse : Config.parse registry raw = .ok config) :
    ∃ config', Config.parse registry raw' = .ok config' ∧ config.Perm config' := by
  obtain ⟨es, es', hes, hes', horder⟩ := h
  obtain ⟨es₁, hes₁, hread⟩ := parse_ok_iff.mp hparse
  obtain rfl := Raw.record.inj (hes.symm.trans hes₁)
  obtain ⟨config', hread', horder'⟩ := List.perm_comp_forall₂ horder.symm hread
  exact ⟨config', parse_ok_iff.mpr ⟨es', hes', hread'⟩, horder'.symm⟩

theorem Accepts.perm {config config' : Config} (h : Accepts s config) (horder : config.Perm config') :
    Accepts s config' := fun e he => h e (horder.mem_iff.mpr he)

theorem keyedNames_perm {config config' : Config} (horder : config.Perm config') :
    (keyedNames config).Perm (keyedNames config') := (horder.filter _).map _

theorem Fits.reordered (h : Fits registry s raw) (horder : Reordered raw raw') :
    Fits registry s raw' := by
  obtain ⟨config, c, hparse, hclassify⟩ := h
  obtain ⟨config', hparse', hperm⟩ := horder.parse hparse
  obtain ⟨haccepts, -⟩ := classify_ok_iff.mp hclassify
  exact ⟨config', _, hparse', classify_ok_iff.mpr ⟨haccepts.perm hperm, rfl⟩⟩

end Reordering

section Members
variable {registry : Registry} {x y y' : Service} {raw raw' : Raw} {old old' : List LogRecord}

theorem members_reordered (hnames : (x.schema.types.map (·.name)).Nodup) (horder : Reordered raw raw')
    (h : (transform registry x raw old).1 = .ok y) (h' : (transform registry x raw' old').1 = .ok y')
    {ms : List String} (hunion : y.schema.shape? entityUnion = some (.union ms)) :
    ∃ ms', y'.schema.shape? entityUnion = some (.union ms') ∧ ms.Perm ms' := by
  obtain ⟨config, c, sdl, hparse, htransforms⟩ := transform_ok h
  obtain ⟨config', c', sdl', hparse', htransforms'⟩ := transform_ok h'
  obtain ⟨_, hread, hperm⟩ := horder.parse hparse
  obtain rfl := Except.ok.inj (hparse'.symm.trans hread)
  have hkeyed := keyedNames_perm hperm
  have hextends := htransforms.extends
  have hextends' := htransforms'.extends
  rw [htransforms.classification.2] at hextends
  rw [htransforms'.classification.2] at hextends'
  have hmembers : ∀ {es s'}, es ≠ [] → x.schema.extend (additions x.schema es) = .ok s' →
      s'.shape? entityUnion = some (.union es) := by
    intro es s' hes hextend
    obtain ⟨s₁, hadd, rfl⟩ := extend_eq hextend
    rw [Schema.shape?, type?_placeBuiltins (by decide)]
    exact union_of_entities hnames hes hadd
  by_cases hnone : keyedNames config = []
  · -- Without entities both have taken the same definitions.
    rw [hnone] at hkeyed hextends
    rw [List.nil_perm.mp hkeyed] at hextends'
    obtain hsame := Except.ok.inj (hextends.symm.trans hextends')
    exact ⟨ms, hsame ▸ hunion, List.Perm.refl ms⟩
  · have hsome : keyedNames config' ≠ [] := fun heq => hnone (List.perm_nil.mp (heq ▸ hkeyed))
    rw [hmembers hnone hextends] at hunion
    obtain rfl := TypeShape.union.inj (Option.some.inj hunion)
    exact ⟨_, hmembers hsome hextends', hkeyed⟩

end Members

/-- The SDL depends on the configuration type by type: the roots and the directives stay, a type is
declared by what it is given itself, and so no restating of the configuration shows. The order of the
configuration neither decides whether it is accepted nor what the entities are. -/
theorem printSdl_typewise (registry : Registry) (x : Service)
    (hnames : (x.schema.types.map (·.name)).Nodup) :
    (∃ apart, ∀ c, definitions x.schema c = apart
        ++ (serviceTypes x.schema).filterMap (printType x.schema (directiveMap x.schema c)))
    ∧ (∀ config config' c c', classify x.schema config = .ok c → classify x.schema config' = .ok c' →
        (∀ t : NamedType, shownOf config t.name = shownOf config' t.name →
          printType x.schema (directiveMap x.schema c) t
            = printType x.schema (directiveMap x.schema c') t)
        ∧ ((∀ t ∈ serviceTypes x.schema, shownOf config t.name = shownOf config' t.name) →
          printSdl? x.schema c = printSdl? x.schema c')
        ∧ (Restates config config' → printSdl? x.schema c = printSdl? x.schema c'))
    ∧ ∀ raw raw', Reordered raw raw' →
        (Fits registry x.schema raw ↔ Fits registry x.schema raw')
        ∧ ∀ y y' old old', (transform registry x raw old).1 = .ok y →
          (transform registry x raw' old').1 = .ok y' →
          ∀ ms, y.schema.shape? entityUnion = some (.union ms) →
            ∃ ms', y'.schema.shape? entityUnion = some (.union ms') ∧ ms.Perm ms' := by
  refine ⟨⟨definitionsApart x.schema, definitions_apart x.schema⟩, ?_, fun raw raw' horder => ?_⟩
  · intro config config' c c' h h'
    refine ⟨fun t hshown => printType_shown h h' hshown, fun hshown => printSdl?_shown h h' hshown,
      fun hrestates => printSdl?_shown h h' fun t _ => hrestates.shownOf_eq t.name⟩
  · refine ⟨⟨fun h => h.reordered horder, fun h => h.reordered horder.symm⟩, ?_⟩
    intro y y' old old' h h' ms hunion
    exact members_reordered hnames horder h h' hunion

section Restated

/-- Products, and the query root beside them, as entities. -/
def twoKeys : List (Raw × Raw) :=
  [(.text "Product", .record [(.text "keyFields", .text "id")]),
    (.text "Query", .record [(.text "keyFields", .text "product")])]

theorem printSdl_typewise_shop : ((Service.ofSchema shop).schema.types.map (·.name)).Nodup
    ∧ (∃ c c', classify shop [("Product", ⟨[["id"]], false, none⟩)] = .ok c
      ∧ classify shop [("Query", ⟨[], false, none⟩), ("Product", ⟨[["id"]], false, none⟩)] = .ok c'
      ∧ printSdl? shop c = printSdl? shop c')
    ∧ ∃ y y', (transform shopRegistry (.ofSchema shop) (.record twoKeys) []).1 = .ok y
      ∧ (transform shopRegistry (.ofSchema shop) (.record twoKeys.reverse) []).1 = .ok y'
      ∧ y.schema.shape? entityUnion = some (.union ["Product", "Query"])
      ∧ ∃ ms, y'.schema.shape? entityUnion = some (.union ms) ∧ ["Product", "Query"].Perm ms := by
  have hnames : ((Service.ofSchema shop).schema.types.map (·.name)).Nodup := by decide +kernel
  obtain ⟨-, hprint, horder⟩ := printSdl_typewise shopRegistry (.ofSchema shop) hnames
  have hrestates : Restates [("Product", ⟨[["id"]], false, none⟩)]
      [("Query", ⟨[], false, none⟩), ("Product", ⟨[["id"]], false, none⟩)] :=
    .trans (.added (n := "Query") (by decide) rfl rfl) (.reordered (.swap _ _ _) (by decide))
  refine ⟨hnames, ⟨_, _, rfl, rfl, (hprint _ _ _ _ rfl rfl).2.2 hrestates⟩, ?_⟩
  have hreordered : Reordered (.record twoKeys) (.record twoKeys.reverse) :=
    ⟨twoKeys, twoKeys.reverse, rfl, rfl, (List.reverse_perm twoKeys).symm⟩
  have hrun : (transform shopRegistry (.ofSchema shop) (.record twoKeys) []).1.toOption.bind
      (fun y => unionMembers? y.schema entityUnion) = some ["Product", "Query"] := by
    decide +kernel
  have hrun' : (transform shopRegistry (.ofSchema shop) (.record twoKeys.reverse) []).1.toOption.isSome
      = true := by
    decide +kernel
  cases hy : (transform shopRegistry (.ofSchema shop) (.record twoKeys) []).1 with
  | error e => rw [hy] at hrun; cases hrun
  | ok y =>
    cases hy' : (transform shopRegistry (.ofSchema shop) (.record twoKeys.reverse) []).1 with
    | error e => rw [hy'] at hrun'; cases hrun'
    | ok y' =>
      rw [hy] at hrun
      have hunion := shape?_of_unionMembers? hrun
      exact ⟨y, y', rfl, rfl, hunion, (horder _ _ hreordered).2 y y' [] [] hy hy' _ hunion⟩

end Restated

end Subgraph.Federation
