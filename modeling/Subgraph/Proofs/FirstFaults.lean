import Subgraph.Proofs.Classifying
import Subgraph.Proofs.Retransform

/-!
# The first fault of a configuration

The types of a configuration are checked one after another, and each of them rule by rule. So what is
reported is the first rule that is broken by the first type that breaks one, and of the key fields that
a type does not have the first. A configuration that breaks no rule is kept whole and in its order, and
its entities are the types with keys.
-/

namespace Subgraph.Federation
open Config

/-- An item is the first of a list that lacks a property. -/
def FirstWithout {α : Type} (p : α → Prop) (xs : List α) (x : α) : Prop :=
  ∃ front back, xs = front ++ x :: back ∧ (∀ y ∈ front, p y) ∧ ¬ p x

section First
variable {α : Type} {p : α → Prop} {x y : α} {xs : List α}

theorem FirstWithout.lacks (h : FirstWithout p xs x) : ¬ p x := by
  obtain ⟨front, back, -, -, hx⟩ := h
  exact hx

theorem not_firstWithout_nil : ¬ FirstWithout p [] x := by
  rintro ⟨front, back, h, -⟩
  cases front <;> cases h

theorem firstWithout_cons : FirstWithout p (y :: xs) x ↔ ¬ p y ∧ x = y ∨ p y ∧ FirstWithout p xs x := by
  constructor
  · rintro ⟨front, back, h, hfront, hx⟩
    cases front with
    | nil =>
      obtain ⟨rfl, -⟩ := List.cons.inj h
      exact .inl ⟨hx, rfl⟩
    | cons z front =>
      obtain ⟨rfl, rfl⟩ := List.cons.inj h
      obtain ⟨hy, hfront⟩ := List.forall_mem_cons.mp hfront
      exact .inr ⟨hy, front, back, rfl, hfront, hx⟩
  · rintro (⟨hy, rfl⟩ | ⟨hy, front, back, rfl, hfront, hx⟩)
    · exact ⟨[], xs, rfl, by simp, hy⟩
    · exact ⟨y :: front, back, rfl, List.forall_mem_cons.mpr ⟨hy, hfront⟩, hx⟩

theorem forall_or_firstWithout (p : α → Prop) (xs : List α) :
    (∀ x ∈ xs, p x) ∨ ∃ x, FirstWithout p xs x := by
  induction xs with
  | nil => exact .inl (by simp)
  | cons y xs ih =>
    by_cases hy : p y
    · rcases ih with hall | ⟨x, hx⟩
      · exact .inl (List.forall_mem_cons.mpr ⟨hy, hall⟩)
      · exact .inr ⟨x, firstWithout_cons.mpr (.inr ⟨hy, hx⟩)⟩
    · exact .inr ⟨y, firstWithout_cons.mpr (.inl ⟨hy, rfl⟩)⟩

theorem find?_iff_firstWithout {q : α → Bool} :
    xs.find? q = some x ↔ FirstWithout (fun y => q y = false) xs x := by
  rw [List.find?_eq_some_iff_append]
  constructor
  · rintro ⟨hx, front, back, h, hfront⟩
    exact ⟨front, back, h, fun y hy => by simpa using hfront y hy, by simp [hx]⟩
  · rintro ⟨front, back, h, hfront, hx⟩
    exact ⟨by simpa using hx, front, back, h, fun y hy => by simp [hfront y hy]⟩

end First

/-- The rules for the settings of a type. -/
inductive Rule where
  | reference
  | existence
  | keys
  | extension
  | keyFields
  deriving DecidableEq, Repr

/-- The rules in the order in which they are checked. -/
def Rule.all : List Rule := [.reference, .existence, .keys, .extension, .keyFields]

/-- A type is there and has a field. -/
def HasField (type? : Option NamedType) (n : String) : Prop :=
  ∃ t, type? = some t ∧ (t.field? n).isSome = true

/-- What a rule asks of the type that is configured, which may not be there. -/
def Rule.Holds (type? : Option NamedType) (settings : TypeSettings) : Rule → Prop
  | .reference => settings.reference.isSome = true → ∃ t, type? = some t ∧ t.shape.isObject = true
  | .existence => ∃ t, type? = some t
  | .keys => settings.keySets ≠ [] → ∃ t, type? = some t ∧ t.shape.isObject = true
  | .extension => settings.extend = true →
    ∃ t, type? = some t ∧ (t.shape.isObject = true ∨ t.shape.isInterface = true)
  | .keyFields => ∀ k ∈ settings.keySets, ∀ n ∈ k.topNames, HasField type? n

/-- The error that reports a broken rule. -/
inductive Reports (n : String) (type? : Option NamedType) (settings : TypeSettings) :
    Rule → ClassificationError → Prop where
  | reference : Reports n type? settings .reference (.referenceOffObject n)
  | existence : Reports n type? settings .existence (.notDefined n)
  | keys : Reports n type? settings .keys (.keysOffObject n)
  | extension : Reports n type? settings .extension (.extendOffObject n)
  | keyFields {f : String}
      (first : FirstWithout (HasField type?) (settings.keySets.flatMap KeySet.topNames) f) :
      Reports n type? settings .keyFields (.unknownKeyField f n)

/-- The settings of a type break no rule. -/
def Legal (s : Schema) (e : String × TypeSettings) : Prop := ∀ r : Rule, r.Holds (s.type? e.1) e.2

/-- An error reports the first rule that is broken by the first type that breaks one. -/
def ReportsFirst (s : Schema) (config : Config) (e : ClassificationError) : Prop :=
  ∃ n settings r, FirstWithout (Legal s) config (n, settings)
    ∧ FirstWithout (Rule.Holds (s.type? n) settings) Rule.all r
    ∧ Reports n (s.type? n) settings r e

section Types
variable {type? : Option NamedType} {t : NamedType} {n : String} {settings : TypeSettings}
  {e : ClassificationError}

theorem hasField_some : HasField (some t) n ↔ (t.field? n).isSome = true := by simp [HasField]

theorem unknownKeyField?_eq_some {f : String} : unknownKeyField? t settings = some f
    ↔ FirstWithout (HasField (some t)) (settings.keySets.flatMap KeySet.topNames) f := by
  have hfield : (fun n => (t.field? n).isNone = false) = HasField (some t) := by
    funext n
    rw [hasField_some, ← Option.not_isSome, Bool.not_eq_false']
  rw [unknownKeyField?, find?_iff_firstWithout, hfield]

section Holding

theorem holds_reference : Rule.Holds (some t) settings .reference
    ↔ (settings.reference.isSome && !t.shape.isObject) = false := by
  cases h : t.shape.isObject <;> simp [Rule.Holds, h]

theorem holds_existence : Rule.Holds (some t) settings .existence := ⟨t, rfl⟩

theorem holds_keys : Rule.Holds (some t) settings .keys
    ↔ (settings.isEntity && !t.shape.isObject) = false := by
  cases h : t.shape.isObject <;> simp [Rule.Holds, TypeSettings.isEntity, h]

theorem holds_extension : Rule.Holds (some t) settings .extension
    ↔ (settings.extend && !(t.shape.isObject || t.shape.isInterface)) = false := by
  cases h : t.shape.isObject <;> cases h' : t.shape.isInterface <;> simp [Rule.Holds, h, h']

theorem holds_keyFields : Rule.Holds (some t) settings .keyFields
    ↔ unknownKeyField? t settings = none := by
  rw [unknownKeyField?_eq_none]
  simp only [Rule.Holds, hasField_some, List.mem_flatMap]
  exact ⟨fun h n ⟨k, hk, hn⟩ => h k hk n hn, fun h k hk n hn => h n ⟨k, hk, hn⟩⟩

end Holding

theorem holds_all_iff : (∀ r : Rule, r.Holds type? settings) ↔ ∃ t, type? = some t ∧ Suits t settings := by
  have hguard : ∀ a b : Bool, (a && !b) = false ↔ (a = true → b = true) := by decide
  constructor
  · intro h
    obtain ⟨t, rfl⟩ := h .existence
    exact ⟨t, rfl, (hguard _ _).mp (holds_reference.mp (h _)),
      (hguard _ _).mp (holds_keys.mp (h _)), (hguard _ _).mp (holds_extension.mp (h _)),
      unknownKeyField?_eq_none.mp (holds_keyFields.mp (h _))⟩
  · rintro ⟨t, rfl, h⟩ r
    cases r with
    | reference => exact holds_reference.mpr ((hguard _ _).mpr h.reference)
    | existence => exact holds_existence
    | keys => exact holds_keys.mpr ((hguard _ _).mpr h.keys)
    | extension => exact holds_extension.mpr ((hguard _ _).mpr h.extend)
    | keyFields => exact holds_keyFields.mpr (unknownKeyField?_eq_none.mpr h.known)

theorem classifyType_of_holds (n : String) (h : ∀ r : Rule, r.Holds type? settings) :
    ∃ f, classifyType type? n settings = .ok f := by
  obtain ⟨t, ht, hsuits⟩ := holds_all_iff.mp h
  exact ⟨_, classifyType_ok_iff.mpr ⟨t, ht, hsuits, rfl⟩⟩

theorem classifyType_of_reports {r : Rule}
    (hfirst : FirstWithout (Rule.Holds type? settings) Rule.all r)
    (hreports : Reports n type? settings r e) : classifyType type? n settings = .error e := by
  simp only [Rule.all, firstWithout_cons, not_firstWithout_nil] at hfirst
  cases type? with
  | none =>
    cases hreports with
    | keyFields first => simp [Rule.Holds] at hfirst
    | _ => simp_all [Rule.Holds, classifyType]
  | some t =>
    have hcheck : classifyType (some t) n settings
        = if (settings.reference.isSome && !t.shape.isObject) = true then .error (.referenceOffObject n)
          else if (settings.isEntity && !t.shape.isObject) = true then .error (.keysOffObject n)
          else if (settings.extend && !(t.shape.isObject || t.shape.isInterface)) = true then
            .error (.extendOffObject n)
          else (unknownKeyField? t settings).elim (.ok ⟨n, t, settings⟩)
            fun f => .error (.unknownKeyField f n) := by
      rw [classifyType, Option.any_some]
      cases unknownKeyField? t settings <;> rfl
    rw [hcheck]
    simp only [holds_reference, holds_existence, holds_keys, holds_extension, holds_keyFields] at hfirst
    generalize (settings.reference.isSome && !t.shape.isObject) = offReference at hfirst ⊢
    generalize (settings.isEntity && !t.shape.isObject) = offKeys at hfirst ⊢
    generalize (settings.extend && !(t.shape.isObject || t.shape.isInterface)) = offExtension
      at hfirst ⊢
    cases hreports with
    | keyFields first =>
      rw [unknownKeyField?_eq_some.mpr first] at hfirst ⊢
      simp_all
    | _ => simp_all

theorem exists_reports {r : Rule} (h : ¬ r.Holds type? settings) :
    ∃ e, Reports n type? settings r e := by
  cases r with
  | reference => exact ⟨_, .reference⟩
  | existence => exact ⟨_, .existence⟩
  | keys => exact ⟨_, .keys⟩
  | extension => exact ⟨_, .extension⟩
  | keyFields =>
    rcases forall_or_firstWithout (HasField type?) (settings.keySets.flatMap KeySet.topNames)
      with hall | ⟨f, hf⟩
    · exact absurd (fun k hk n hn => hall n (List.mem_flatMap.mpr ⟨k, hk, hn⟩)) h
    · exact ⟨_, .keyFields hf⟩

theorem classifyType_error_iff : classifyType type? n settings = .error e
    ↔ ∃ r, FirstWithout (Rule.Holds type? settings) Rule.all r ∧ Reports n type? settings r e := by
  constructor
  · intro h
    rcases forall_or_firstWithout (Rule.Holds type? settings) Rule.all with hall | ⟨r, hr⟩
    · have hrules : ∀ r : Rule, r.Holds type? settings := fun r => hall r (by cases r <;> decide)
      obtain ⟨f, hf⟩ := classifyType_of_holds n hrules
      rw [hf] at h
      cases h
    · obtain ⟨e', he'⟩ := exists_reports hr.lacks
      rw [classifyType_of_reports hr he'] at h
      exact ⟨r, hr, Except.error.inj h ▸ he'⟩
  · rintro ⟨r, hr, he⟩
    exact classifyType_of_reports hr he

end Types

section Configurations
variable {s : Schema} {config : Config} {e : ClassificationError}

theorem accepts_iff_legal : Accepts s config ↔ ∀ e ∈ config, Legal s e :=
  forall₂_congr fun _ _ => holds_all_iff.symm

theorem reportsFirst_cons {n : String} {settings : TypeSettings} :
    ReportsFirst s ((n, settings) :: config) e ↔ classifyType (s.type? n) n settings = .error e
      ∨ Legal s (n, settings) ∧ ReportsFirst s config e := by
  rw [classifyType_error_iff]
  constructor
  · rintro ⟨m, settings', r, hfirst, hrule, hreports⟩
    rcases firstWithout_cons.mp hfirst with ⟨-, heq⟩ | ⟨hlegal, hfirst⟩
    · obtain ⟨rfl, rfl⟩ := Prod.mk.inj heq
      exact .inl ⟨r, hrule, hreports⟩
    · exact .inr ⟨hlegal, m, settings', r, hfirst, hrule, hreports⟩
  · rintro (⟨r, hrule, hreports⟩ | ⟨hlegal, m, settings', r, hfirst, hrule, hreports⟩)
    · have hillegal : ¬ Legal s (n, settings) := fun h => hrule.lacks (h r)
      exact ⟨n, settings, r, firstWithout_cons.mpr (.inl ⟨hillegal, rfl⟩), hrule, hreports⟩
    · exact ⟨m, settings', r, firstWithout_cons.mpr (.inr ⟨hlegal, hfirst⟩), hrule, hreports⟩

theorem classifyTypes_error_iff : classifyTypes s config = .error e ↔ ReportsFirst s config e := by
  induction config with
  | nil =>
    constructor
    · intro h
      cases h
    · rintro ⟨n, settings, r, hfirst, -⟩
      exact absurd hfirst not_firstWithout_nil
  | cons entry config ih =>
    obtain ⟨n, settings⟩ := entry
    have hstep : classifyTypes s ((n, settings) :: config)
        = (classifyType (s.type? n) n settings).bind fun t =>
            (classifyTypes s config).bind fun rest => .ok (t :: rest) := rfl
    rw [reportsFirst_cons, hstep, ← ih]
    cases hcheck : classifyType (s.type? n) n settings with
    | error e' =>
      have hillegal : ¬ Legal s (n, settings) := by
        intro h
        obtain ⟨f, hf⟩ := classifyType_of_holds n h
        rw [hf] at hcheck
        cases hcheck
      simp [Except.bind, hillegal]
    | ok f =>
      obtain ⟨t, ht, hsuits, -⟩ := classifyType_ok_iff.mp hcheck
      have hlegal : Legal s (n, settings) := holds_all_iff.mpr ⟨t, ht, hsuits⟩
      cases classifyTypes s config <;> simp [Except.bind, hlegal]

theorem classify_error_iff : classify s config = .error e ↔ ReportsFirst s config e := by
  have hmap : classify s config = (classifyTypes s config).map Classification.mk := rfl
  rw [hmap, ← classifyTypes_error_iff]
  cases classifyTypes s config <;> simp [Except.map]

end Configurations

/-- What a classification says of a configuration: it has the configured types in their order, each with
the type of its name, and its entities are the ones with keys, all of them objects. -/
structure Classifies (s : Schema) (config : Config) (c : Classification) : Prop where
  configured : c.types.map (fun f => (f.name, f.settings)) = config
  types : ∀ f ∈ c.types, s.type? f.name = some f.type
  entities : c.entities = c.types.filter (·.isEntity)
  names : c.entityNames = keyedNames config
  objects : ∀ f ∈ c.entities, f.type ∈ s.types ∧ f.type.shape.isObject = true
  distinct : (Entries.names config).Nodup → c.entityNames.Nodup

theorem Accepts.classifies {s : Schema} {config : Config} (h : Accepts s config) :
    Classifies s config ⟨configuredTypes s config⟩ where
  configured := h.configured
  types := by
    intro f hf
    obtain ⟨e, -, hfound⟩ := List.mem_filterMap.mp hf
    obtain ⟨t, ht, rfl⟩ := Option.map_eq_some_iff.mp hfound
    exact ht
  entities := by
    refine List.filter_congr fun f hf => ?_
    obtain ⟨e, he, hfound⟩ := List.mem_filterMap.mp hf
    obtain ⟨t, ht, rfl⟩ := Option.map_eq_some_iff.mp hfound
    obtain ⟨u, hu, hsuits⟩ := h e he
    obtain rfl := Option.some.inj (ht.symm.trans hu)
    cases hentity : e.2.isEntity with
    | false => simp [FederatedType.isEntity, hentity]
    | true => simp [FederatedType.isEntity, hentity, hsuits.keys hentity]
  names := h.entityNames
  objects := by
    intro f hf
    obtain ⟨hf, hobject⟩ := List.mem_filter.mp hf
    obtain ⟨e, -, hfound⟩ := List.mem_filterMap.mp hf
    obtain ⟨t, ht, rfl⟩ := Option.map_eq_some_iff.mp hfound
    exact ⟨(Schema.mem_of_type? ht).1, (Bool.and_eq_true_iff.mp hobject).2⟩
  distinct := by
    intro hnames
    rw [h.entityNames]
    exact hnames.sublist (List.filter_sublist.map _)

/-- A configuration is accepted exactly if none of its types breaks a rule. What is reported otherwise is
the first rule that is broken by the first type that breaks one. An accepted configuration is kept in its
order, and its entities are the types with keys. -/
theorem classify_reports_first (s : Schema) (config : Config) :
    ((∃ c, classify s config = .ok c) ↔ ∀ e ∈ config, Legal s e)
    ∧ (∀ e, classify s config = .error e ↔ ReportsFirst s config e)
    ∧ ∀ c, classify s config = .ok c → Classifies s config c := by
  refine ⟨?_, fun e => classify_error_iff, fun c hc => ?_⟩
  · rw [← accepts_iff_legal]
    exact ⟨fun ⟨c, hc⟩ => (classify_ok_iff.mp hc).1, fun h => ⟨_, classify_ok_iff.mpr ⟨h, rfl⟩⟩⟩
  · obtain ⟨haccepts, rfl⟩ := classify_ok_iff.mp hc
    exact haccepts.classifies

section Shop

/-- Products with unknown key fields, after a query root that is fine and before a type that is missing. -/
def faultyShop : Config :=
  [("Query", ⟨[], true, none⟩),
    ("Product", ⟨[["id"], ["sku \x7b id \x7d", "name"]], true, none⟩),
    ("Cart", ⟨[["id"]], true, none⟩)]

/-- Of two unknown key fields and a missing type the first field is reported. -/
theorem classify_reports_first_shop :
    classify shop faultyShop = .error (.unknownKeyField "sku" "Product")
    ∧ ReportsFirst shop faultyShop (.unknownKeyField "sku" "Product")
    ∧ ¬ ∀ e ∈ faultyShop, Legal shop e := by
  obtain ⟨haccepted, hreported, -⟩ := classify_reports_first shop faultyShop
  have hfault : classify shop faultyShop = .error (.unknownKeyField "sku" "Product") := rfl
  refine ⟨hfault, (hreported _).mp hfault, fun hlegal => ?_⟩
  obtain ⟨c, hc⟩ := haccepted.mpr hlegal
  rw [hfault] at hc
  cases hc

end Shop

end Subgraph.Federation
