import Subgraph.Proofs.MalformedSettings

/-!
# Settings written back

Settings that were read can be written back in a plain form: their key sets as a list of lists, a truth
value, and a reference function or nothing. Under either spelling of the names, reading the plain form gives
the same settings again, whatever form they were read from. So a subgraph does not depend on the form in
which its settings are given.
-/

namespace Subgraph.Federation
open Config

/-- The two spellings of the names of fields. -/
inductive Spelling where
  | camel
  | snake
  deriving DecidableEq, Repr

namespace Spelling

def keySets : Spelling → String
  | .camel => "keyFields"
  | .snake => "key_fields"

def reference : Spelling → String
  | .camel => "resolveReference"
  | .snake => "resolve_reference"

end Spelling

/-- Key sets as a list of lists. -/
def plainKeySets (ks : List KeySet) : Raw := .list (ks.map fun k => .list (k.map .text))

def plainReference : Option Reference → Raw
  | none => .null
  | some f => .function f

def plainEntries (s : Spelling) (t : TypeSettings) : List (Raw × Raw) :=
  [(.text s.keySets, plainKeySets t.keySets), (.text "extend", .bool t.extend),
    (.text s.reference, plainReference t.reference)]

/-- Settings by type name, those of each type in a spelling of its own. -/
def plainConfig (spelling : String → Spelling) (config : Config) : Raw :=
  .record (config.map fun e => (.text e.1, .record (plainEntries (spelling e.1) e.2)))

section Plain
variable {registry : Registry} {place : List Step} {ks : List KeySet} {t : TypeSettings} {config : Config}

theorem forall₂_texts (k : KeySet) : List.Forall₂ IsText (k.map .text) k := by
  rw [List.forall₂_map_left_iff, List.forall₂_same]
  exact fun s _ => .text s

theorem isPlain_plainKeySets (ks : List KeySet) : IsPlain (plainKeySets ks) := by
  refine .list fun x hx => ?_
  obtain ⟨k, -, rfl⟩ := List.mem_map.mp hx
  refine .list fun y hy => ?_
  obtain ⟨s, -, rfl⟩ := List.mem_map.mp hy
  exact .text (.text s)

theorem keyShape_plainKeySets (h : ∀ k ∈ ks, k ≠ []) : KeyShape (plainKeySets ks) ks := by
  cases ks with
  | nil => exact .empty
  | cons k ks =>
    refine .several ⟨k.map .text, by simp⟩ ?_
    rw [List.forall₂_map_left_iff, List.forall₂_same]
    exact fun k hk => .list (by simpa using h k hk) (forall₂_texts k)

theorem checkReference_plain (f : Option Reference) :
    checkReference registry place (plainReference f) = .ok (.ok f) := by
  cases f <;> rfl

theorem checkEntries_plain (s : Spelling) (h : ∀ k ∈ t.keySets, k ≠ []) :
    checkEntries registry (plainEntries s t) = .ok t := by
  have hkeys : namedField? (plainEntries s t) keySetNames = some (s.keySets, plainKeySets t.keySets) := by
    cases s <;> rfl
  have hextend : namedField? (plainEntries s t) extendNames = some ("extend", .bool t.extend) := by
    cases s <;> rfl
  have hreference : namedField? (plainEntries s t) referenceNames
      = some (s.reference, plainReference t.reference) := by
    cases s <;> rfl
  have hknown : unknownFaults (plainEntries s t) = [] := by
    cases s <;> rfl
  rw [checkEntries_ok_iff, checkField_of_named hkeys, checkField_of_named hextend,
    checkField_of_named hreference]
  exact ⟨(checkKeySets_ok_iff (isPlain_plainKeySets _)).mpr (.inl (keyShape_plainKeySets h)), rfl,
    checkReference_plain _, hknown⟩

theorem parse_plain (spelling : String → Spelling) (h : ∀ e ∈ config, ∀ k ∈ e.2.keySets, k ≠ []) :
    parse registry (plainConfig spelling config) = .ok config := by
  refine parse_ok_iff.mpr ⟨_, rfl, ?_⟩
  rw [List.forall₂_map_left_iff, List.forall₂_same]
  exact fun e he => ⟨rfl, checkEntries_plain (spelling e.1) (h e he)⟩

end Plain

theorem names_of_read {registry : Registry} {es : List (Raw × Raw)} {config : Config}
    (h : List.Forall₂ (ReadsEntry registry) es config) :
    es.map (fun e => nameOfKey? e.1) = (Entries.names config).map some := by
  induction h with
  | nil => rfl
  | cons hentry _ ih =>
    rw [List.map_cons, hentry.name, ih]
    rfl

theorem transform_congr {registry registry' : Registry} {x : Service} {raw raw' : Raw} {config : Config}
    (h : parse registry raw = .ok config) (h' : parse registry' raw' = .ok config) :
    transform registry' x raw' = transform registry x raw := by
  unfold transform
  rw [h, h']

/-- What is read of settings is a normal form of them: it has the same types in the same order, its key
sets have something in them, and written back in plain form, in either spelling, it is read as the same
again. So each service becomes the same subgraph by the plain form, with the same records in the log. -/
theorem parse_normal {registry : Registry} {raw : Raw} {config : Config}
    (hparse : parse registry raw = .ok config) (hready : ReadyChecked raw) :
    (∃ es, raw.unfolded = .record es ∧ es.map (fun e => nameOfKey? e.1) = (Entries.names config).map some)
    ∧ (∀ e ∈ config, ∀ k ∈ e.2.keySets, k ≠ [])
    ∧ ∀ (registry' : Registry) (spelling : String → Spelling),
      parse registry' (plainConfig spelling config) = .ok config
      ∧ ∀ x, transform registry' x (plainConfig spelling config) = transform registry x raw := by
  obtain ⟨es, hraw, hread⟩ := parse_ok_iff.mp hparse
  have hsome := parse_nonempty hparse hready
  refine ⟨⟨es, hraw, names_of_read hread⟩, hsome, fun registry' spelling => ?_⟩
  have hplain : parse registry' (plainConfig spelling config) = .ok config := parse_plain spelling hsome
  exact ⟨hplain, fun x => transform_congr hparse hplain⟩

section Users

/-- Answers with the representation. -/
def echoed : Reference := ⟨"echo", fun _ => false, fun _ v _ => .now (.ok v)⟩

def echoRegistry : Registry := ⟨"refs", [echoed], []⟩

/-- Key sets by a text and a list, a truth value by a number, a reference by its path; settings that are
ready, and a type without settings. -/
def mixedForms : Raw :=
  .record [
    (.text "User", .record [(.text "key_fields", .list [.text "id", .list [.text "sku", .text "region"]]),
      (.text "resolveReference", .text "refs.echo"), (.text "extend", .int 1)]),
    (.text "Product", .settings ⟨[["id"]], false, none⟩),
    (.text "Query", .null)]

def mixedConfig : Config :=
  [("User", ⟨[["id"], ["sku", "region"]], true, some echoed⟩), ("Product", ⟨[["id"]], false, none⟩),
    ("Query", ⟨[], false, none⟩)]

theorem readyChecked_mixedForms : ReadyChecked mixedForms := by
  intro es hes e he t ht
  obtain rfl := Raw.record.inj hes
  simp only [List.mem_cons, List.not_mem_nil, or_false] at he
  rcases he with rfl | rfl | rfl
  · cases ht
  · obtain rfl := Raw.settings.inj ht
    exact ⟨echoRegistry, [(.text "keyFields", .text "id")], rfl⟩
  · cases ht

def mixedSpelling (n : String) : Spelling := if n = "User" then .camel else .snake

/-- Written back with the function in the place of its path, the settings are read where no module has it. -/
theorem parse_normal_mixedForms : parse echoRegistry mixedForms = .ok mixedConfig
    ∧ ReadyChecked mixedForms
    ∧ parse shopRegistry (plainConfig mixedSpelling mixedConfig) = .ok mixedConfig
    ∧ transform shopRegistry (.ofSchema users) (plainConfig mixedSpelling mixedConfig)
      = transform echoRegistry (.ofSchema users) mixedForms := by
  have hparse : parse echoRegistry mixedForms = .ok mixedConfig := rfl
  obtain ⟨-, -, hplain⟩ := parse_normal hparse readyChecked_mixedForms
  obtain ⟨hread, htransform⟩ := hplain shopRegistry mixedSpelling
  exact ⟨hparse, readyChecked_mixedForms, hread, htransform _⟩

end Users

end Subgraph.Federation
