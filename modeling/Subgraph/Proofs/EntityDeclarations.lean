import Subgraph.Proofs.EntitySurface
import Subgraph.Proofs.ServedRoot

/-!
# Entities and their declarations

The members of the union of the entities are declared in the SDL that is served, each once and with
its keys. Only such types are members and not declared that the SDL never shows: those with a name of
the protocol, built-in ones, and a query root without fields of its own.
-/

namespace Subgraph.Federation
open Config Build

section Keys

theorem keyApplication_print (k : KeySet) :
    (keyApplication k).print = "@key(fields: " ++ Text.quote k.joined ++ ")" := by
  have hstart : "@key" ++ "(" ++ "fields: " = "@key(fields: " := by decide
  have hall : ∀ text : String, "@key" ++ ("(" ++ ("fields: " ++ text)) = "@key(fields: " ++ text :=
    fun text => by rw [← String.append_assoc, ← String.append_assoc, hstart]
  simpa [keyApplication, keyDirective, Directive.print, Argument.print, Literal.print,
    String.append_assoc] using hall _

theorem fresh_covers {d : Applied} {ds : List Applied} (hd : d ∈ ds) (seen : List String) :
    d.print ∈ seen ∨ ∃ e ∈ fresh seen ds, e.print = d.print := by
  induction ds generalizing seen with
  | nil => cases hd
  | cons a ds ih =>
    unfold fresh
    by_cases hseen : seen.contains a.print = true
    · rw [if_pos hseen]
      rcases List.mem_cons.mp hd with rfl | hd
      · exact .inl (List.contains_iff_mem.mp hseen)
      · exact ih hd seen
    · rw [if_neg hseen]
      rcases List.mem_cons.mp hd with rfl | hd
      · exact .inr ⟨d, List.mem_cons_self, rfl⟩
      · rcases ih hd (a.print :: seen) with hmem | ⟨e, he, hprint⟩
        · rcases List.mem_cons.mp hmem with heq | hmem
          · exact .inr ⟨a, List.mem_cons_self, heq.symm⟩
          · exact .inl hmem
        · exact .inr ⟨e, List.mem_cons_of_mem a he, hprint⟩

/-- What is added is there after merging, in its printed form. -/
theorem merge_covers (existing : List Applied) {d : Applied} {ds : List Applied} (hd : d ∈ ds) :
    ∃ e ∈ merge existing ds, e.print = d.print := by
  rcases fresh_covers hd (existing.map Directive.print) with hmem | ⟨e, he, hprint⟩
  · obtain ⟨e, he, hprint⟩ := List.mem_map.mp hmem
    exact ⟨e, List.mem_append_left _ he, hprint⟩
  · exact ⟨e, List.mem_append_right _ he, hprint⟩

end Keys

section Directives
variable {s : Schema} {c : Classification}

theorem typeEntries_lookup (t : NamedType) :
    ((typeEntries c t).lookup ⟨t.name, none⟩).getD [] = typeDirectives c t := by
  have hmembers : ∀ ms : List (String × List Applied),
      (((ms.map fun m => (⟨t.name, some m.1⟩, restored m.2)).filter
        fun e : Coordinate × List Applied => !e.2.isEmpty).lookup ⟨t.name, none⟩) = none := by
    intro ms
    refine List.lookup_eq_none_iff.mpr fun e he => ?_
    obtain ⟨m, -, rfl⟩ := List.mem_map.mp (List.mem_of_mem_filter he)
    simp
  unfold typeEntries
  cases hds : typeDirectives c t with
  | nil => simp [hmembers]
  | cons d ds => simp

theorem typeEntries_type {t : NamedType} {e : Coordinate × List Applied} (he : e ∈ typeEntries c t) :
    e.1.type = t.name := by
  unfold typeEntries at he
  rcases List.mem_cons.mp (List.mem_of_mem_filter he) with rfl | hmem
  · rfl
  · obtain ⟨m, -, rfl⟩ := List.mem_map.mp hmem
    rfl

theorem typeEntries_lookup_of_ne {t : NamedType} {n : String} (hne : t.name ≠ n)
    (member : Option String) : (typeEntries c t).lookup ⟨n, member⟩ = none :=
  List.lookup_eq_none_iff.mpr fun e he => bne_iff_ne.mpr fun heq => hne (by
    rw [← typeEntries_type he, ← heq])

/-- The directives at a type and at its members are those of its own entries. -/
theorem directiveMap_get (hnames : (s.types.map (·.name)).Nodup) {t : NamedType}
    (ht : t ∈ serviceTypes s) (member : Option String) :
    (directiveMap s c).get ⟨t.name, member⟩
      = ((typeEntries c t).lookup ⟨t.name, member⟩).getD [] := by
  have hdistinct : ((serviceTypes s).map (·.name)).Nodup :=
    hnames.sublist (List.filter_sublist.map _)
  unfold directiveMap DirectiveMap.get
  congr 1
  generalize serviceTypes s = types at ht hdistinct
  induction types with
  | nil => cases ht
  | cons u ts ih =>
    rw [List.map_cons, List.nodup_cons] at hdistinct
    rw [List.flatMap_cons, List.lookup_append]
    rcases List.mem_cons.mp ht with rfl | hmem
    · have hnone : (ts.flatMap (typeEntries c)).lookup ⟨t.name, member⟩ = none := by
        refine List.lookup_eq_none_iff.mpr fun e he => ?_
        obtain ⟨u, hu, he⟩ := List.mem_flatMap.mp he
        have hne : u.name ≠ t.name := fun heq => hdistinct.1 (heq ▸ List.mem_map_of_mem hu)
        exact List.lookup_eq_none_iff.mp (typeEntries_lookup_of_ne hne member) e he
      rw [hnone, Option.or_none]
    · have hne : u.name ≠ t.name := fun heq => hdistinct.1 (heq ▸ List.mem_map_of_mem hmem)
      rw [typeEntries_lookup_of_ne hne, Option.none_or, ih hmem hdistinct.2]

end Directives

section Members
variable {s s' : Schema} {es : List String}

theorem members_add (hnames : (s.types.map (·.name)).Nodup) (h : s.add (additions s es) = .ok s')
    {ms : List String} (hunion : s'.shape? entityUnion = some (.union ms)) :
    ms = es ∨ s.shape? entityUnion = some (.union ms) := by
  by_cases hes : es = []
  · subst hes
    exact .inr ((union_without_entities hnames h ms).mp hunion)
  · rw [union_of_entities hnames hes h] at hunion
    exact .inl (TypeShape.union.inj (Option.some.inj hunion)).symm

end Members

/-- A type that the SDL never shows: it has a name of the protocol, it is built in, or it is a query
root that has fields of the protocol and no others. -/
def Unshown (s : Schema) (n : String) : Prop :=
  isTypeName n = true ∨ isBuiltinName n = true ∨ LeftOutRoot s n

/-- An object type is declared once, and each of the key sets is the argument of a key directive that
stands at its declaration. -/
structure DeclaresEntity (s : Schema) (m : DirectiveMap) (n : String) (keys : List KeySet) : Prop where
  once : (declarations s).typeNames.count n = 1
  declaration : ∃ t ∈ (declarations s).types, t.name = n ∧ ∃ interfaces block,
    (t.outline s).fill (fun c => printApplied (m.get c))
      = printDescription t.description "" true ++ "type " ++ n ++ printInterfaces interfaces
        ++ printApplied (m.get ⟨n, none⟩) ++ block
  keyed : ∀ k ∈ keys, ∃ d ∈ m.get ⟨n, none⟩,
    d.print = "@key(fields: " ++ Text.quote k.joined ++ ")"

section Declared
variable {s : Schema} {n : String}

theorem typeNames_nodup (hnames : (s.types.map (·.name)).Nodup) :
    (declarations s).typeNames.Nodup := by
  have hsame : (declarations s).typeNames
      = ((serviceTypes s).filter (!isLeftOut s ·)).map (·.name) := List.map_map
  rw [hsame]
  exact hnames.sublist ((List.filter_sublist.trans List.filter_sublist).map _)

theorem Unshown.not_declared (hnames : (s.types.map (·.name)).Nodup) (h : Unshown s n) :
    n ∉ (declarations s).typeNames := by
  intro hmem
  obtain ⟨hservice, hkept⟩ := (mem_typeNames hnames).mp hmem
  obtain ⟨t, ht, rfl⟩ := List.mem_map.mp hservice
  obtain ⟨-, hdefined, hplain⟩ := mem_serviceTypes.mp ht
  rcases h with hprotocol | hbuiltin | hroot
  · rw [hplain] at hprotocol
    cases hprotocol
  · rw [NamedType.isDefined, hbuiltin] at hdefined
    cases hdefined
  · exact hkept (hroot.mem_leftOutNames hplain)

theorem outline_object {t : NamedType} {is : List String} {fs : List Field}
    (hs : t.shape = .object is fs) (f : Coordinate → String) : ∃ block, (t.outline s).fill f
      = printDescription t.description "" true ++ "type " ++ t.name ++ printInterfaces is
        ++ f ⟨t.name, none⟩ ++ block := by
  have hkeyword : "type" ++ " " = "type " := by decide
  refine ⟨(Outline.block (Outline.items
    (fun first f => t.memberOutline f.name (s.printField first f)) fs)).fill f, ?_⟩
  rw [NamedType.outline, hs]
  simp only [NamedType.headOutline, Outline.fill_append, Outline.fill_text, Outline.fill_slot,
    Outline.fill_nil, String.append_empty, ← hkeyword, String.append_assoc]

theorem declaresEntity {config : Config} (hnames : (s.types.map (·.name)).Nodup)
    (haccepts : Accepts s config) (hobject : s.isObject n = true) (hshown : ¬ Unshown s n) :
    DeclaresEntity s (directiveMap s ⟨configuredTypes s config⟩) n
      (((config.lookup n).map (·.keySets)).getD []) := by
  simp only [Unshown, not_or, Bool.not_eq_true] at hshown
  obtain ⟨hplain, hbuiltin, hroot⟩ := hshown
  have hservice := mem_serviceNames (Schema.mem_names_of_any hobject) hbuiltin hplain
  have hmem : n ∈ (declarations s).typeNames :=
    (mem_typeNames hnames).mpr ⟨hservice, fun hleft => hroot (leftOutRoot_of_mem hnames hleft)⟩
  obtain ⟨u, hu, hname⟩ := List.mem_map.mp hmem
  obtain ⟨t, ht, -, rfl⟩ := mem_declaredTypes.mp hu
  obtain rfl : t.name = n := hname
  have hown := (directiveMap_get (c := ⟨configuredTypes s config⟩) hnames ht none).trans
    (typeEntries_lookup t)
  refine ⟨List.count_eq_one_of_mem (typeNames_nodup hnames) hmem, ⟨_, hu, rfl, ?_⟩, fun k hk => ?_⟩
  · rw [Schema.isObject, Schema.shape?_of_mem hnames (mem_serviceTypes.mp ht).1] at hobject
    cases hs : t.shape with
    | object is fs =>
      have hshape : (declaredType s t).shape = .object is (declaredFields s t fs) := by
        rw [declaredType, hs]
      exact ⟨is, outline_object hshape _⟩
    | _ => rw [hs] at hobject; cases hobject
  · rw [hown, typeDirectives_eq]
    have hsettings := haccepts.settings t.name
    cases hl : config.lookup t.name with
    | none => rw [hl] at hk; cases hk
    | some settings =>
      rw [hl] at hk hsettings
      have hdirectives : (((⟨configuredTypes s config⟩ : Classification).get? t.name).map
          (·.settings.directives)) = some settings.directives := by
        have hmapped := congrArg (Option.map TypeSettings.directives) hsettings
        rwa [Option.map_map] at hmapped
      rw [hdirectives, ← keyApplication_print]
      exact merge_covers _ (List.mem_append_left _ (List.mem_map_of_mem hk))

end Declared

/-- The members of the union that has a name. -/
def unionMembers? (s : Schema) (n : String) : Option (List String) :=
  match s.shape? n with
  | some (.union ms) => some ms
  | _ => none

theorem shape?_of_unionMembers? {s : Schema} {n : String} {ms : List String}
    (h : unionMembers? s n = some ms) : s.shape? n = some (.union ms) := by
  unfold unionMembers? at h
  split at h
  · next hshape =>
    cases h
    exact hshape
  · cases h

/-- The SDL that a transformed service serves declares the members of the union of the entities, each
once and with all its keys, apart from those that it never shows. -/
theorem servedSdl_declares_entities {registry : Registry} {x y : Service} {raw : Raw}
    {config : Config} {old : List LogRecord} (hw : x.schema.WellFormed)
    (hparse : parse registry raw = .ok config) (h : (transform registry x raw old).1 = .ok y) :
    ∃ m, servedSdl? y = some ((declarations x.schema).text x.schema m)
      ∧ ∀ ms, y.schema.shape? entityUnion = some (.union ms) → ∀ n ∈ ms,
        (Unshown x.schema n → n ∉ (declarations x.schema).typeNames)
          ∧ (¬ Unshown x.schema n → DeclaresEntity x.schema m n
              (((config.lookup n).map (·.keySets)).getD [])) := by
  obtain ⟨config', c, sdl, hparse', htransforms⟩ := transform_ok h
  obtain rfl : config' = config := Except.ok.inj (hparse'.symm.trans hparse)
  obtain ⟨haccepts, rfl⟩ := classify_ok_iff.mp htransforms.fits
  refine ⟨_, (htransforms.served hw.rootsNamed).2, fun ms hunion n hn => ?_⟩
  refine ⟨fun hunshown => hunshown.not_declared hw.names,
    fun hshown => declaresEntity hw.names haccepts ?_ hshown⟩
  obtain ⟨s₁, hadd, hs₁⟩ := extend_eq htransforms.extends
  rw [← hs₁, Schema.shape?, type?_placeBuiltins (by decide)] at hunion
  rcases members_add hw.names hadd hunion with rfl | hold
  · exact entityNames_objects hn
  · obtain ⟨t, ht, -, hshape⟩ := Schema.mem_of_shape? hold
    exact (hw.refers t ht).members n (by rw [hshape]; exact hn)

section Shown

theorem servedSdl_declares_entities_shop : shop.WellFormed
    ∧ ∃ y m, (transform shopRegistry (.ofSchema shop) productKeys []).1 = .ok y
      ∧ servedSdl? y = some ((declarations shop).text shop m)
      ∧ y.schema.shape? entityUnion = some (.union ["Product"])
      ∧ DeclaresEntity shop m "Product" [["id"]] := by
  have hw : shop.WellFormed := by decide +kernel
  refine ⟨hw, ?_⟩
  have hrun : (transform shopRegistry (.ofSchema shop) productKeys []).1.toOption.bind
      (fun y => unionMembers? y.schema entityUnion) = some ["Product"] := by
    decide +kernel
  cases hy : (transform shopRegistry (.ofSchema shop) productKeys []).1 with
  | error e => rw [hy] at hrun; cases hrun
  | ok y =>
    rw [hy] at hrun
    have hunion := shape?_of_unionMembers? hrun
    have hparse : parse shopRegistry productKeys
        = .ok [("Product", ⟨[["id"]], false, none⟩)] := rfl
    obtain ⟨m, hserved, hmembers⟩ := servedSdl_declares_entities hw hparse hy
    have hshown : ¬ Unshown shop "Product" := by
      rintro (hname | hname | hroot)
      · cases hname
      · cases hname
      · exact absurd hroot.1 (by decide)
    exact ⟨y, m, rfl, hserved, hunion,
      (hmembers _ hunion "Product" List.mem_cons_self).2 hshown⟩

/-- The members of the union of the entities that the SDL does not declare. -/
def undeclaredMembers (s : Schema) (raw : Raw) : Option (List String) :=
  (transform shopRegistry (.ofSchema s) raw []).1.toOption.map fun y =>
    match y.schema.shape? entityUnion with
    | some (.union ms) => ms.filter fun n => !(declarations s).typeNames.contains n
    | _ => []

/-- A schema that has a service type, as if it had been transformed, and a query root with a field of
the protocol alone. -/
def serviceOnly : Schema :=
  schemaOf [queryOf [⟨none, serviceField, [], .named serviceType, none, []⟩],
    ⟨none, serviceType, .object [] [⟨none, "sdl", [], .named "String", none, []⟩], []⟩] []

/-- The settings for a type with one key. -/
def keyed (type field : String) : Raw :=
  .record [(.text type, .record [(.text "keyFields", .text field)])]

/-- Every member of the union of the entities is declared once. -/
def DeclaresMembers (s : Schema) (raw : Raw) : Prop :=
  ∀ y, (transform shopRegistry (.ofSchema s) raw []).1 = .ok y →
    ∀ ms, y.schema.shape? entityUnion = some (.union ms) →
      ∀ n ∈ ms, (declarations s).typeNames.count n = 1

theorem not_declaresMembers {s : Schema} {raw : Raw} {n : String}
    (h : undeclaredMembers s raw = some [n]) : ¬ DeclaresMembers s raw := by
  intro hdeclares
  unfold undeclaredMembers at h
  cases hy : (transform shopRegistry (.ofSchema s) raw []).1 with
  | error e => rw [hy] at h; cases h
  | ok y =>
    rw [hy, Except.toOption, Option.map_some, Option.some.injEq] at h
    split at h
    · next ms hunion =>
      have hn : n ∈ ms.filter fun n => !(declarations s).typeNames.contains n := by
        rw [h]
        exact List.mem_cons_self
      obtain ⟨hmem, hnot⟩ := List.mem_filter.mp hn
      have hone := hdeclares y hy ms hunion n hmem
      have hcontained := List.contains_iff_mem.mpr (List.count_pos_iff.mp (by rw [hone]; decide))
      rw [hcontained] at hnot
      cases hnot
    · cases h

/-- Types of the protocol, built-in types and a query root without fields of its own can be entities,
and then they are members of the union that the SDL does not declare. -/
theorem not_declaresMembers_unshown :
    ¬ DeclaresMembers serviceOnly (keyed serviceType "sdl")
    ∧ ¬ DeclaresMembers shop (keyed "__Type" "name")
    ∧ ¬ DeclaresMembers serviceOnly (keyed "Query" serviceField) := by
  refine ⟨not_declaresMembers (n := serviceType) ?_, not_declaresMembers (n := "__Type") ?_,
    not_declaresMembers (n := "Query") ?_⟩
  all_goals decide +kernel

end Shown

end Subgraph.Federation
