import Subgraph.Proofs.Conservative
import Subgraph.Proofs.Gathering
import Subgraph.Proofs.ReferenceCalls

/-!
# Representations that name no object type

Only types that are not configured are looked up in the schema. So what names such a type, and no object
type, is refused. A configured type is resolved by its settings, of whatever kind it is; off the object
types these hold neither keys nor a reference function, and the representation stands for itself.
-/

namespace Subgraph.Federation
open Config

/-- A representation is settled before any waiting, and keeps its position. -/
structure SettledAt (x : Resolution) (i : Nat) (v : Value) : Prop where
  slot : x.slots[i]? = some (.done v)
  value : ∀ vs, x.values = .ok vs → vs[i]? = some v

/-- Why a name is refused that no object type of a schema has. -/
def refusal (s : Schema) (type : String) : EntityError :=
  if type = "" then .noTypename
  else if (s.type? type).isNone then .notDefined type
  else .notObject type

section Slots
variable {s s' : Schema} {config : Config} {c : Classification} {r : Request} {n i : Nat}
  {rep : Value} {reps : List Value} {es : Entries Value} {type : String}

theorem SettledAt.of_slot {x : Resolution} {v : Value} (h : x.slots[i]? = some (.done v)) :
    SettledAt x i v := by
  refine ⟨h, fun vs hvs => ?_⟩
  rw [Resolution.values, gatherValues_entities] at hvs
  split at hvs
  · obtain rfl := Except.ok.inj hvs
    rw [List.getElem?_map, h]
    rfl
  · cases hvs

theorem settledAt_of_resolveOne {v : Value} (hrep : reps[i]? = some rep)
    (h : ∀ n, (resolveOne s' c r n rep).slot = .done v) : SettledAt (resolve s' c r n reps) i v := by
  obtain ⟨k, hk⟩ := @resolveAll_getElem? s' c r n _ _ _ hrep
  apply SettledAt.of_slot
  show ((resolveAll s' c r n reps).map (·.slot))[i]? = _
  rw [List.getElem?_map, hk, Option.map_some, h]

theorem lookup_off_objects (hget : c.get? type = none) (hoff : s'.isObject type = false) :
    lookup s' c type
      = .error (if (s'.type? type).isNone then .notDefined type else .notObject type) := by
  rw [lookup, hget]
  cases ht : s'.type? type with
  | none => rfl
  | some t =>
    rw [Schema.isObject, Schema.shape?, ht] at hoff
    have hshape : t.shape.isObject = false := hoff
    simp [hshape]

theorem referenceFor_off_objects (hes : Entries.get? es typenameKey = some (.text type))
    (hoff : s'.isObject type = false) (hget : type = "" ∨ c.get? type = none) :
    referenceFor s' c (.record es) = .error (refusal s' type) := by
  by_cases htype : type = ""
  · simp [referenceFor, typename, hes, refusal, htype, bind, Except.bind]
  · have hname : typename (.record es) = .ok type := typename_ok_iff.mpr ⟨es, rfl, hes, htype⟩
    have hlookup := lookup_off_objects (hget.resolve_left htype) hoff
    rw [referenceFor, hname, refusal, if_neg htype]
    simp only [bind, Except.bind, hlookup]

theorem referenceFor_configured {t : FederatedType} (htype : type ≠ "")
    (hes : Entries.get? es typenameKey = some (.text type)) (hget : c.get? type = some t) :
    referenceFor s' c (.record es) = (checkKeys type t.settings.keySets (.record es)).map
      fun _ => (type, t.settings.reference) := by
  have hname : typename (.record es) = .ok type := typename_ok_iff.mpr ⟨es, rfl, hes, htype⟩
  have htname : t.name = type := by
    have hfound := List.find?_some hget
    exact eq_of_beq hfound
  have hlookup : lookup s' c type = .ok (some t) := by rw [lookup, hget]
  rw [referenceFor, hname]
  simp only [bind, Except.bind, hlookup, htname]
  cases checkKeys type t.settings.keySets (.record es) <;> rfl

theorem get?_none_of_lookup (hc : classify s config = .ok c) (h : config.lookup type = none) :
    c.get? type = none := by
  obtain ⟨haccepts, rfl⟩ := classify_ok_iff.mp hc
  have hsettings := haccepts.settings type
  rw [h] at hsettings
  exact Option.map_eq_none_iff.mp hsettings

theorem get?_some_of_lookup {settings : TypeSettings} (hc : classify s config = .ok c)
    (h : config.lookup type = some settings) : ∃ t, c.get? type = some t ∧ t.settings = settings := by
  obtain ⟨haccepts, rfl⟩ := classify_ok_iff.mp hc
  have hsettings := haccepts.settings type
  rw [h] at hsettings
  exact Option.map_eq_some_iff.mp hsettings

theorem settings_off_objects {settings : TypeSettings} (hc : classify s config = .ok c)
    (h : config.lookup type = some settings) (hoff : s.isObject type = false) :
    settings.keySets = [] ∧ settings.reference = none := by
  obtain ⟨haccepts, -⟩ := classify_ok_iff.mp hc
  obtain ⟨t, ht, hsuits⟩ := haccepts _ (mem_of_lookup h)
  have hobject : t.shape.isObject = false := by
    rw [Schema.isObject, Schema.shape?, ht] at hoff
    exact hoff
  constructor
  · by_contra hkeys
    have hentity := hsuits.keys (by simpa [TypeSettings.isEntity] using hkeys)
    rw [hobject] at hentity
    cases hentity
  · by_contra hreference
    have hfunction := hsuits.reference (Option.isSome_iff_ne_none.mpr hreference)
    rw [hobject] at hfunction
    cases hfunction

end Slots

/-- A representation that names no object type of the schema it is resolved in is refused, unless the type
is configured. A configured type is resolved by its settings: it is refused where it has keys and the
representation holds none of them, then its reference function is called, and without one the representation
is the entity itself. Off the object types of the schema that was configured it always is. -/
theorem slots_off_objects {s s' : Schema} {config : Config} {c : Classification}
    {es : Entries Value} {type : String} (hc : classify s config = .ok c)
    (hes : Entries.get? es typenameKey = some (.text type)) (hoff : s'.isObject type = false)
    (r : Request) (before : Nat) {reps : List Value} {i : Nat} (hrep : reps[i]? = some (.record es)) :
    (type = "" ∨ config.lookup type = none →
      SettledAt (resolve s' c r before reps) i (.failure (refusal s' type).failure))
    ∧ ∀ settings, type ≠ "" → config.lookup type = some settings →
      (settings.keySets ≠ [] → (∀ k ∈ settings.keySets, ¬ HoldsKey es k) →
        SettledAt (resolve s' c r before reps) i
          (.failure (EntityError.keysMissing type settings.keySets).failure))
      ∧ (settings.keySets = [] ∨ (∃ k ∈ settings.keySets, HoldsKey es k) →
        (settings.reference = none →
          SettledAt (resolve s' c r before reps) i (tag type (.record es)))
        ∧ ∀ f, settings.reference = some f → ∃ k, (resolve s' c r before reps).slots[i]?
          = some (answered type ⟨f, .record es, r⟩ k).slot)
      ∧ (s.isObject type = false → settings.keySets = [] ∧ settings.reference = none) := by
  refine ⟨fun hfree => ?_, fun settings htype hsettings => ⟨fun hkeys hnone => ?_, fun hholds => ?_,
    settings_off_objects hc hsettings⟩⟩
  · have hrefused := referenceFor_off_objects hes hoff (hfree.imp_right (get?_none_of_lookup hc))
    apply settledAt_of_resolveOne hrep
    intro n
    rw [resolveOne, hrefused]
    rfl
  · obtain ⟨t, hget, rfl⟩ := get?_some_of_lookup hc hsettings
    apply settledAt_of_resolveOne hrep
    intro n
    rw [resolveOne, referenceFor_configured htype hes hget, checkKeys_error_iff.mpr ⟨hkeys, hnone⟩]
    rfl
  · obtain ⟨t, hget, rfl⟩ := get?_some_of_lookup hc hsettings
    have hreference := @referenceFor_configured s' _ _ _ _ htype hes hget
    rw [checkKeys_ok_iff.mpr hholds] at hreference
    refine ⟨fun hnone => ?_, fun f hf => ?_⟩
    · apply settledAt_of_resolveOne hrep
      intro n
      rw [resolveOne, hreference, hnone]
      rfl
    · obtain ⟨k, hk⟩ := @resolveAll_getElem? s' c r before _ _ _ hrep
      refine ⟨k, ?_⟩
      show ((resolveAll s' c r before reps).map (·.slot))[i]? = _
      rw [List.getElem?_map, hk, Option.map_some, resolveOne, hreference, hf]
      rfl

section Extended

/-- An interface is extended, and products have a key. -/
def nodeSettings : List (Raw × Raw) :=
  [(.text "Node", .record [(.text "extend", .bool true)]),
    (.text "Product", .record [(.text "keyFields", .text "id")])]

def nodeConfig : Config := [("Node", ⟨[], true, none⟩), ("Product", ⟨[["id"]], false, none⟩)]

def naming (type : String) : Entries Value := [(typenameKey, .text type), ("id", .text "1")]

/-- A scalar is refused; an interface that is configured is not. -/
theorem slots_off_objects_nodes : ∃ c, classify nodes nodeConfig = .ok c
    ∧ nodes.isObject "ID" = false ∧ nodes.isObject "Node" = false
    ∧ SettledAt (resolve nodes c default 0 [.record (naming "ID"), .record (naming "Node")]) 0
      (.failure ⟨"EntityResolutionError", "Type \"ID\" is not an object type."⟩)
    ∧ SettledAt (resolve nodes c default 0 [.record (naming "ID"), .record (naming "Node")]) 1
      (.record (naming "Node")) := by
  have hclassified : ∃ c, classify nodes nodeConfig = .ok c := ⟨_, rfl⟩
  obtain ⟨c, hc⟩ := hclassified
  have hscalar : nodes.isObject "ID" = false := by decide +kernel
  have hinterface : nodes.isObject "Node" = false := by decide +kernel
  obtain ⟨hrefused, -⟩ := @slots_off_objects _ _ _ _ (naming "ID") "ID" hc rfl hscalar default 0
    [.record (naming "ID"), .record (naming "Node")] 0 rfl
  obtain ⟨-, hconfigured⟩ := @slots_off_objects _ _ _ _ (naming "Node") "Node" hc rfl hinterface default 0
    [.record (naming "ID"), .record (naming "Node")] 1 rfl
  obtain ⟨-, hitself, -⟩ := hconfigured _ (by decide) rfl
  exact ⟨c, hc, hscalar, hinterface, hrefused (.inr rfl), (hitself (.inl rfl)).1 rfl⟩

/-- Whatever names no object type of the transformed service is refused. -/
def RefusesOffObjects (x : Service) (raw : Raw) : Prop :=
  ∀ y config c, (transform shopRegistry x raw []).1 = .ok y → parse shopRegistry raw = .ok config →
    classify x.schema config = .ok c → ∀ r before reps i es type,
      reps[i]? = some (.record es) → Entries.get? es typenameKey = some (.text type) →
      y.schema.isObject type = false →
        ∃ e : EntityError, SettledAt (resolve y.schema c r before reps) i (.failure e.failure)

/-- A representation of an interface that is configured is tagged. -/
theorem not_refusesOffObjects : ¬ RefusesOffObjects (.ofSchema nodes) (.record nodeSettings) := by
  intro hrefuses
  have hrun : (transform shopRegistry (.ofSchema nodes) (.record nodeSettings) []).1.toOption.any
      (fun y => !y.schema.isObject "Node") = true := by
    decide +kernel
  cases hy : (transform shopRegistry (.ofSchema nodes) (.record nodeSettings) []).1 with
  | error e => rw [hy] at hrun; cases hrun
  | ok y =>
    rw [hy, Except.toOption, Option.any_some, Bool.not_eq_true'] at hrun
    have hclassified : ∃ c, classify nodes nodeConfig = .ok c := ⟨_, rfl⟩
    obtain ⟨c, hc⟩ := hclassified
    obtain ⟨e, he⟩ := hrefuses y nodeConfig c hy rfl hc default 0 [.record (naming "Node")] 0 _ "Node"
      rfl rfl hrun
    obtain rfl := Except.ok.inj hc
    cases he.slot

end Extended

end Subgraph.Federation
