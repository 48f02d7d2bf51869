import Subgraph.Proofs.KeySelections
import Subgraph.Proofs.ReferenceCalls
import Subgraph.Proofs.TypewiseSdl

/-!
# What the keys of entities identify

Every key set of an accepted configuration has a text, and what its texts name outside of braces are
fields of the type. But a text may name nothing: it may be blank, or have braces around all its names.
Such a key is held by every representation. So a representation that holds nothing but the name of its
type is refused exactly where every key set of the type names a field.
-/

namespace Subgraph.Federation
open Config Text

/-- A name stands in a key set with as many closing as opening braces before it. -/
def KeySet.Selects (k : KeySet) (n : String) : Prop :=
  ∃ front back, k.tokens = front ++ .name n :: back ∧ front.count .opening = front.count .closing

/-- A representation holds the name of its type and nothing else. -/
def IsBare (es : Entries Value) : Prop :=
  ∀ n, (Entries.get? es n).isSome = true ↔ n = typenameKey

section Selects
variable {k : KeySet} {n : String}

theorem splits_cons {t u : KeyToken} {ts : List KeyToken} {p : List KeyToken → Prop} :
    (∃ front back, t :: ts = front ++ u :: back ∧ p front)
      ↔ t = u ∧ p [] ∨ ∃ front back, ts = front ++ u :: back ∧ p (t :: front) := by
  constructor
  · rintro ⟨front, back, h, hp⟩
    cases front with
    | nil => exact .inl ⟨(List.cons.inj h).1, hp⟩
    | cons t' front =>
      obtain ⟨rfl, rfl⟩ := List.cons.inj h
      exact .inr ⟨front, back, rfl, hp⟩
  · rintro (⟨rfl, hp⟩ | ⟨front, back, rfl, hp⟩)
    · exact ⟨[], ts, rfl, hp⟩
    · exact ⟨t :: front, back, rfl, hp⟩

theorem KeyToken.mem_atTop_iff {depth : Int} {ts : List KeyToken} : n ∈ atTop depth ts
    ↔ ∃ front back, ts = front ++ .name n :: back
      ∧ depth + front.count .opening = front.count .closing := by
  induction ts generalizing depth with
  | nil => simp [atTop]
  | cons t ts ih =>
    rw [splits_cons]
    have hone : ∀ a b : ℕ, depth + 1 + a = b ↔ depth + (a + 1 : ℕ) = b := by omega
    have hback : ∀ a b : ℕ, depth - 1 + a = b ↔ depth + a = (b + 1 : ℕ) := by omega
    cases t with
    | opening => simp [atTop, ih, hone]
    | closing => simp [atTop, ih, hback]
    | name m =>
      by_cases hdepth : depth = 0
      · simp [atTop, ih, hdepth, eq_comm]
      · simp [atTop, ih, hdepth]

theorem mem_topNames_iff : n ∈ k.topNames ↔ k.Selects n := by
  rw [KeySet.topNames, List.mem_eraseDups, KeyToken.mem_atTop_iff, KeySet.Selects]
  refine exists_congr fun front => exists_congr fun back => and_congr_right fun _ => ?_
  omega

theorem Writes.selects_iff {sel : KeySelection} (h : Writes sel k) : (∃ n, k.Selects n) ↔ sel ≠ .nil := by
  have hnames : (∃ n, k.Selects n) ↔ ∃ n, n ∈ sel.names := by
    refine exists_congr fun n => ?_
    rw [← mem_topNames_iff, h.topNames_eq, List.mem_eraseDups]
  rw [hnames]
  cases sel <;> simp [KeySelection.names]

end Selects

section Checked
variable {registry : Registry} {place : List Step} {v : Raw} {entries : List (Raw × Raw)}
  {t : TypeSettings}

theorem severalSets_nonempty {given : Raw} {vs : List Raw} {sets : List (List Raw)}
    (h : severalSets place given vs = .ok (.ok sets)) : ∀ items ∈ sets, items ≠ [] := by
  induction vs generalizing sets with
  | nil =>
    obtain rfl := Except.ok.inj (Except.ok.inj h)
    simp
  | cons v vs ih =>
    unfold severalSets at h
    split at h
    · cases h
    · cases h
    · next items hsome _ =>
      obtain ⟨r, hrest, hr⟩ := Except.of_map_ok h
      obtain ⟨rest, rfl, rfl⟩ := Except.of_map_ok hr
      exact List.forall_mem_cons.mpr ⟨hsome, ih hrest⟩

theorem sequence_nonempty {xs : List Raw} {sets : List (List Raw)}
    (h : keySets.sequence place v xs = .ok (.ok sets)) : ∀ items ∈ sets, items ≠ [] := by
  unfold keySets.sequence at h
  split at h
  · exact severalSets_nonempty h
  · obtain rfl := Except.ok.inj (Except.ok.inj h)
    cases xs <;> simp

theorem keySets_nonempty {sets : List (List Raw)} (h : keySets place v = .ok (.ok sets)) :
    ∀ items ∈ sets, items ≠ [] := by
  unfold keySets at h
  split at h
  · obtain rfl := Except.ok.inj (Except.ok.inj h)
    simp
  · obtain rfl := Except.ok.inj (Except.ok.inj h)
    simp
  · obtain rfl := Except.ok.inj (Except.ok.inj h)
    simp
  · split at h
    · obtain rfl := Except.ok.inj (Except.ok.inj h)
      simp
    · cases Except.ok.inj h
  · exact sequence_nonempty h
  · exact sequence_nonempty h
  · cases Except.ok.inj h

theorem asText?_of_itemFaults {items : List Raw} (h : itemFaults place items = []) :
    ∀ x ∈ items, (asText? x).isSome = true := by
  intro x hx
  obtain ⟨i, hi⟩ := List.getElem?_of_mem hx
  have hnone := List.filterMap_eq_nil_iff.mp h (x, i) (List.mem_zipIdx_iff_getElem?.mpr hi)
  by_contra htext
  simp [htext] at hnone

theorem textSets_ok {sets : List (List Raw)} {ks : List KeySet} (h : textSets place sets = .ok ks) :
    ks = sets.map (·.filterMap asText?) ∧ ∀ items ∈ sets, ∀ x ∈ items, (asText? x).isSome = true := by
  unfold textSets at h
  simp only at h
  split at h
  · next hfaults =>
    refine ⟨(Except.ok.inj h).symm, fun items hitems => ?_⟩
    obtain ⟨i, hi⟩ := List.getElem?_of_mem hitems
    rw [List.isEmpty_iff, List.flatMap_eq_nil_iff] at hfaults
    exact asText?_of_itemFaults (hfaults (items, i) (List.mem_zipIdx_iff_getElem?.mpr hi))
  · cases h

theorem checkKeySets_nonempty {ks : List KeySet} (h : checkKeySets place v = .ok (.ok ks)) :
    ∀ k ∈ ks, k ≠ [] := by
  obtain ⟨r, hsets, hr⟩ := Except.of_map_ok h
  obtain ⟨sets, rfl, hread⟩ := Except.of_bind_ok hr
  obtain ⟨rfl, htexts⟩ := textSets_ok hread
  intro k hk
  obtain ⟨items, hitems, rfl⟩ := List.mem_map.mp hk
  obtain ⟨x, hx⟩ := List.exists_mem_of_ne_nil items (keySets_nonempty hsets items hitems)
  obtain ⟨text, htext⟩ := Option.isSome_iff_exists.mp (htexts items hitems x hx)
  exact List.ne_nil_of_mem (List.mem_filterMap.mpr ⟨x, hx, htext⟩)

theorem checkEntries_keySets (h : checkEntries registry entries = .ok t) :
    checkField entries keySetNames [] checkKeySets = .ok (.ok t.keySets) := by
  obtain ⟨ks, hks, h⟩ := Except.of_bind_ok h
  obtain ⟨ex, -, h⟩ := Except.of_bind_ok h
  obtain ⟨rf, -, h⟩ := Except.of_bind_ok h
  rw [hks]
  simp only at h
  split at h
  · obtain rfl := Except.ok.inj h
    rfl
  · cases h

theorem checkEntries_nonempty (h : checkEntries registry entries = .ok t) :
    ∀ k ∈ t.keySets, k ≠ [] := by
  have hfield := checkEntries_keySets h
  unfold checkField at hfield
  split at hfield
  · rw [← Except.ok.inj (Except.ok.inj hfield)]
    simp
  · exact checkKeySets_nonempty hfield

/-- Settings that were made by a check of their entries. -/
def WasChecked (t : TypeSettings) : Prop := ∃ registry entries, checkEntries registry entries = .ok t

/-- Settings that are given ready were checked when they were made. -/
def ReadyChecked (raw : Raw) : Prop :=
  ∀ es, raw.unfolded = .record es → ∀ e ∈ es, ∀ t, e.2.unfolded = .settings t → WasChecked t

theorem checkSettings_nonempty (h : checkSettings registry v = .ok t)
    (hready : ∀ t, v.unfolded = .settings t → WasChecked t) : ∀ k ∈ t.keySets, k ≠ [] := by
  unfold checkSettings at h
  split at h
  · next ready hv =>
    obtain rfl := Except.ok.inj h
    obtain ⟨registry, entries, hmade⟩ := hready ready hv
    exact checkEntries_nonempty hmade
  · exact checkEntries_nonempty h
  · split at h
    · exact checkEntries_nonempty h
    · cases h

theorem parse_nonempty {raw : Raw} {config : Config} (h : parse registry raw = .ok config)
    (hready : ReadyChecked raw) : ∀ e ∈ config, ∀ k ∈ e.2.keySets, k ≠ [] := by
  obtain ⟨es, hes, hread⟩ := parse_ok_iff.mp h
  have hentries := hready es hes
  clear h hes
  induction hread with
  | nil => simp
  | cons hentry _ ih =>
    obtain ⟨hhead, hrest⟩ := List.forall_mem_cons.mp hentries
    exact List.forall_mem_cons.mpr ⟨checkSettings_nonempty hentry.settings hhead, ih hrest⟩

end Checked

section Bare
variable {es : Entries Value} {k : KeySet}

theorem IsBare.holdsKey_iff (hes : IsBare es) : HoldsKey es k ↔ ∀ n, k.Selects n → n = typenameKey :=
  forall_congr' fun n => by rw [mem_topNames_iff, hes n]

end Bare

/-- The keys of an entity are texts, and what they name outside of braces are fields of its type. A key
set that writes a selection names something, but for the selection of nothing. What holds the name of its
type and nothing else is refused if every key set names something else, and else it is accepted. -/
theorem keys_identify {registry : Registry} {raw : Raw} {config : Config} {s : Schema}
    {c : Classification} {f : FederatedType} (hparse : parse registry raw = .ok config)
    (hready : ReadyChecked raw) (hc : classify s config = .ok c) (hf : f ∈ c.entities) :
    (∀ k ∈ f.settings.keySets, k ≠ [] ∧ (∀ n, n ∈ k.topNames ↔ k.Selects n)
      ∧ (∀ n, k.Selects n → (f.type.field? n).isSome = true)
      ∧ ∀ sel, Writes sel k → ((∃ n, k.Selects n) ↔ sel ≠ .nil))
    ∧ ∀ es, IsBare es →
      (checkKeys f.name f.settings.keySets (.record es)
          = .error (.keysMissing f.name f.settings.keySets)
        ↔ ∀ k ∈ f.settings.keySets, ∃ n, k.Selects n ∧ n ≠ typenameKey)
      ∧ (checkKeys f.name f.settings.keySets (.record es) = .ok ()
        ↔ ∃ k ∈ f.settings.keySets, ∀ n, k.Selects n → n = typenameKey) := by
  obtain ⟨haccepts, rfl⟩ := classify_ok_iff.mp hc
  obtain ⟨hf, hentity⟩ := List.mem_filter.mp hf
  obtain ⟨e, he, hfound⟩ := List.mem_filterMap.mp hf
  obtain ⟨t, ht, rfl⟩ := Option.map_eq_some_iff.mp hfound
  obtain ⟨u, hu, hsuits⟩ := haccepts e he
  obtain rfl := Option.some.inj (ht.symm.trans hu)
  have hkeys : e.2.keySets ≠ [] := by
    have hkeyed := (Bool.and_eq_true_iff.mp hentity).1
    simpa [FederatedType.isEntity, TypeSettings.isEntity] using hkeyed
  refine ⟨fun k hk => ⟨parse_nonempty hparse hready e he k hk, fun n => mem_topNames_iff, ?_,
    fun sel hsel => hsel.selects_iff⟩, fun es hes => ⟨?_, ?_⟩⟩
  · intro n hn
    exact hsuits.known n (List.mem_flatMap.mpr ⟨k, hk, mem_topNames_iff.mpr hn⟩)
  · rw [checkKeys_error_iff, and_iff_right hkeys]
    refine forall₂_congr fun k _ => ?_
    rw [hes.holdsKey_iff]
    simp
  · rw [checkKeys_ok_iff, or_iff_right hkeys]
    exact exists_congr fun k => and_congr_right fun _ => hes.holdsKey_iff

section Users

def rawUsers (key : String) : Raw :=
  .record [(.text "User", .record [(.text "keyFields", .text key)])]

def usersKeyed (key : String) : Config := [("User", ⟨[[key]], false, none⟩)]

def unnamedUser : Entries Value := [(typenameKey, .text "User")]

theorem unnamedUser_bare : IsBare unnamedUser := by
  intro n
  rw [unnamedUser, Entries.get?_cons]
  by_cases hn : n = typenameKey <;> simp [hn]

theorem readyChecked_rawUsers (key : String) : ReadyChecked (rawUsers key) := by
  intro es hes e he t ht
  obtain rfl := Raw.record.inj hes
  obtain rfl := List.mem_singleton.mp he
  cases ht

def keyedUser (key : String) : FederatedType :=
  ⟨"User", ⟨none, "User", .object [] [⟨none, "id", [], .named "ID", none, []⟩], []⟩,
    ⟨[[key]], false, none⟩⟩

/-- A user without an id is refused where the id is the key, and accepted where the key is blank. -/
theorem keys_identify_users :
    (parse shopRegistry (rawUsers "id") = .ok (usersKeyed "id")
      ∧ classify users (usersKeyed "id") = .ok ⟨[keyedUser "id"]⟩
      ∧ checkKeys "User" [["id"]] (.record unnamedUser) = .error (.keysMissing "User" [["id"]]))
    ∧ parse shopRegistry (rawUsers " ") = .ok (usersKeyed " ")
      ∧ classify users (usersKeyed " ") = .ok ⟨[keyedUser " "]⟩
      ∧ checkKeys "User" [[" "]] (.record unnamedUser) = .ok () := by
  have hparse : parse shopRegistry (rawUsers "id") = .ok (usersKeyed "id") := rfl
  have hblank : parse shopRegistry (rawUsers " ") = .ok (usersKeyed " ") := rfl
  have hc : classify users (usersKeyed "id") = .ok ⟨[keyedUser "id"]⟩ := rfl
  have hc' : classify users (usersKeyed " ") = .ok ⟨[keyedUser " "]⟩ := rfl
  refine ⟨⟨hparse, hc, ?_⟩, hblank, hc', ?_⟩
  · obtain ⟨-, hbare⟩ := keys_identify hparse (readyChecked_rawUsers "id") hc List.mem_cons_self
    apply (hbare unnamedUser unnamedUser_bare).1.mpr
    intro k hk
    obtain rfl := List.mem_singleton.mp hk
    exact ⟨"id", ⟨[], [], rfl, rfl⟩, by decide⟩
  · obtain ⟨-, hbare⟩ := keys_identify hblank (readyChecked_rawUsers " ") hc' List.mem_cons_self
    apply (hbare unnamedUser unnamedUser_bare).2.mpr
    refine ⟨[" "], List.mem_cons_self, ?_⟩
    rintro n ⟨front, back, hn, -⟩
    cases front <;> cases hn

end Users

end Subgraph.Federation
