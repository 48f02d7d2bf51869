import Subgraph.Federation.Classification
import Subgraph.Proofs.WellFormed

/-!
# Configurations that fit a schema

A configuration is accepted when every type that it names is there and suits its settings. What
comes of it are the configured types in order, each with the type of its name, and the entities
among them are object types of the schema.
-/

namespace Subgraph.Federation

/-- What the settings of a type ask of it. -/
structure Suits (t : NamedType) (settings : TypeSettings) : Prop where
  reference : settings.reference.isSome = true → t.shape.isObject = true
  keys : settings.isEntity = true → t.shape.isObject = true
  extend : settings.extend = true → (t.shape.isObject || t.shape.isInterface) = true
  known : ∀ n ∈ settings.keySets.flatMap KeySet.topNames, (t.field? n).isSome = true

/-- Every configured type is there and suits its settings. -/
def Accepts (s : Schema) (config : Config) : Prop :=
  ∀ e ∈ config, ∃ t, s.type? e.1 = some t ∧ Suits t e.2

def configuredTypes (s : Schema) (config : Config) : List FederatedType :=
  config.filterMap fun e => (s.type? e.1).map fun t => ⟨e.1, t, e.2⟩

/-- The names of the types with keys, in the order of the configuration. -/
def keyedNames (config : Config) : List String := (config.filter (·.2.isEntity)).map (·.1)

theorem unknownKeyField?_eq_none {t : NamedType} {settings : TypeSettings} :
    unknownKeyField? t settings = none
      ↔ ∀ n ∈ settings.keySets.flatMap KeySet.topNames, (t.field? n).isSome = true := by
  rw [unknownKeyField?, List.find?_eq_none]
  refine forall₂_congr fun n _ => ?_
  rw [Option.isNone_iff_eq_none, Option.isSome_iff_ne_none]

theorem classifyType_ok_iff {type? : Option NamedType} {n : String} {settings : TypeSettings}
    {f : FederatedType} : classifyType type? n settings = .ok f
      ↔ ∃ t, type? = some t ∧ Suits t settings ∧ f = ⟨n, t, settings⟩ := by
  cases type? with
  | none =>
    simp only [classifyType, Option.any_none, Bool.not_false, Bool.and_true]
    constructor
    · intro h
      split at h <;> cases h
    · rintro ⟨t, h, -⟩
      cases h
  | some t =>
    have hsuits : Suits t settings ↔ (settings.reference.isSome && !t.shape.isObject) = false
        ∧ (settings.isEntity && !t.shape.isObject) = false
        ∧ (settings.extend && !(t.shape.isObject || t.shape.isInterface)) = false
        ∧ unknownKeyField? t settings = none := by
      have hguard : ∀ a b : Bool, (a && !b) = false ↔ (a = true → b = true) := by decide
      rw [hguard, hguard, hguard, unknownKeyField?_eq_none]
      exact ⟨fun h => ⟨h.reference, h.keys, h.extend, h.known⟩,
        fun ⟨hr, hk, he, hf⟩ => ⟨hr, hk, he, hf⟩⟩
    have htype : (∃ u, some t = some u ∧ Suits u settings ∧ f = ⟨n, u, settings⟩)
        ↔ Suits t settings ∧ f = ⟨n, t, settings⟩ := by
      constructor
      · rintro ⟨u, hu, h⟩
        cases hu
        exact h
      · exact fun h => ⟨t, rfl, h⟩
    rw [htype, hsuits]
    simp only [classifyType, Option.any_some]
    -- The guards are met in the order of the check.
    by_cases hr : (settings.reference.isSome && !t.shape.isObject) = true
    · simp [hr]
    by_cases hk : (settings.isEntity && !t.shape.isObject) = true
    · simp [hr, hk]
    by_cases he : (settings.extend && !(t.shape.isObject || t.shape.isInterface)) = true
    · simp only [hr, hk, he, if_true]
      simp
    simp only [hr, hk, he]
    cases unknownKeyField? t settings <;> simp [eq_comm]

theorem classifyTypes_ok_iff {s : Schema} {config : Config} {ts : List FederatedType} :
    classifyTypes s config = .ok ts ↔ Accepts s config ∧ ts = configuredTypes s config := by
  induction config generalizing ts with
  | nil => simp [classifyTypes, Accepts, configuredTypes, eq_comm]
  | cons e config ih =>
    obtain ⟨n, settings⟩ := e
    have hstep : classifyTypes s ((n, settings) :: config)
        = (classifyType (s.type? n) n settings).bind fun t =>
            (classifyTypes s config).bind fun rest => .ok (t :: rest) := rfl
    have haccepts : Accepts s ((n, settings) :: config)
        ↔ (∃ t, s.type? n = some t ∧ Suits t settings) ∧ Accepts s config := List.forall_mem_cons
    rw [hstep, haccepts]
    constructor
    · intro h
      cases hf : classifyType (s.type? n) n settings with
      | error e => rw [hf] at h; cases h
      | ok f =>
        cases hr : classifyTypes s config with
        | error e => rw [hf, hr] at h; cases h
        | ok rest =>
          rw [hf, hr] at h
          cases h
          obtain ⟨t, ht, hsuits, rfl⟩ := classifyType_ok_iff.mp hf
          obtain ⟨hrest, rfl⟩ := ih.mp hr
          refine ⟨⟨⟨t, ht, hsuits⟩, hrest⟩, ?_⟩
          simp [configuredTypes, ht]
    · rintro ⟨⟨⟨t, ht, hsuits⟩, hrest⟩, rfl⟩
      rw [classifyType_ok_iff.mpr ⟨t, ht, hsuits, rfl⟩, ih.mpr ⟨hrest, rfl⟩]
      simp [configuredTypes, ht, Except.bind]

theorem classify_ok_iff {s : Schema} {config : Config} {c : Classification} :
    classify s config = .ok c ↔ Accepts s config ∧ c = ⟨configuredTypes s config⟩ := by
  have hmap : classify s config = (classifyTypes s config).map Classification.mk := rfl
  rw [hmap]
  cases h : classifyTypes s config with
  | error e =>
    constructor
    · intro hc
      cases hc
    · rintro ⟨haccepts, -⟩
      rw [classifyTypes_ok_iff.mpr ⟨haccepts, rfl⟩] at h
      cases h
  | ok ts =>
    obtain ⟨haccepts, rfl⟩ := classifyTypes_ok_iff.mp h
    simp [Except.map, haccepts, eq_comm]

section Classes
variable {s : Schema} {config : Config}

theorem Accepts.settings (h : Accepts s config) (n : String) :
    ((⟨configuredTypes s config⟩ : Classification).get? n).map (·.settings) = config.lookup n := by
  induction config with
  | nil => rfl
  | cons e config ih =>
    obtain ⟨m, settings⟩ := e
    obtain ⟨t, ht, -⟩ := h (m, settings) List.mem_cons_self
    have hrest := ih fun e he => h e (List.mem_cons_of_mem _ he)
    have hcons : configuredTypes s ((m, settings) :: config)
        = ⟨m, t, settings⟩ :: configuredTypes s config := by simp [configuredTypes, ht]
    rw [Classification.get?, hcons, List.find?_cons, List.lookup_cons, BEq.comm]
    cases n == m with
    | true => rfl
    | false => exact hrest

theorem Accepts.get?_eq_none (h : Accepts s config) {n : String} (hn : s.type? n = none) :
    (⟨configuredTypes s config⟩ : Classification).get? n = none := by
  have hlookup : config.lookup n = none := by
    cases hl : config.lookup n with
    | none => rfl
    | some settings =>
      obtain ⟨t, ht, -⟩ := h (n, settings) (mem_of_lookup hl)
      rw [hn] at ht
      cases ht
  have hsettings := h.settings n
  rw [hlookup] at hsettings
  exact Option.map_eq_none_iff.mp hsettings

theorem Accepts.configured (h : Accepts s config) :
    (configuredTypes s config).map (fun t => (t.name, t.settings)) = config := by
  induction config with
  | nil => rfl
  | cons e config ih =>
    obtain ⟨t, ht, -⟩ := h e List.mem_cons_self
    have hrest := ih fun e' he => h e' (List.mem_cons_of_mem e he)
    rw [configuredTypes] at hrest
    simp only [configuredTypes, List.filterMap_cons, ht, Option.map_some, List.map_cons, hrest]

theorem Accepts.entityNames (h : Accepts s config) :
    (⟨configuredTypes s config⟩ : Classification).entityNames = keyedNames config := by
  induction config with
  | nil => rfl
  | cons e config ih =>
    obtain ⟨t, ht, hsuits⟩ := h e List.mem_cons_self
    have hrest := ih fun e' he => h e' (List.mem_cons_of_mem e he)
    have hname : t.name = e.1 := (Schema.mem_of_type? ht).2
    simp only [Classification.entityNames, Classification.entities, configuredTypes, keyedNames,
      FederatedType.isEntity] at hrest ⊢
    simp only [List.filterMap_cons, ht, Option.map_some, List.filter_cons]
    cases hkeys : e.2.isEntity with
    | false => simpa using hrest
    | true => simpa [hsuits.keys hkeys, hname] using hrest

theorem entityNames_objects {n : String}
    (hn : n ∈ (⟨configuredTypes s config⟩ : Classification).entityNames) :
    s.isObject n = true := by
  obtain ⟨f, hf, rfl⟩ := List.mem_map.mp hn
  obtain ⟨hf, hentity⟩ := List.mem_filter.mp hf
  obtain ⟨e, -, he⟩ := List.mem_filterMap.mp hf
  obtain ⟨t, ht, rfl⟩ := Option.map_eq_some_iff.mp he
  have hname : t.name = e.1 := (Schema.mem_of_type? ht).2
  rw [Schema.isObject, Schema.shape?, hname, ht]
  exact (Bool.and_eq_true_iff.mp hentity).2

end Classes

end Subgraph.Federation
