import Mathlib.Data.List.Forall2
import Subgraph.Federation.Resolution
import Subgraph.Proofs.Classifying

/-!
# Calls of reference functions

A representation has a reference function called for it if it names a configured type that has one, and
holds a key of that type if the type has keys. It is called once, with this representation and the request,
whatever becomes of the other representations.
-/

namespace Subgraph.Federation

/-- A representation holds all fields at the top of a key. -/
def HoldsKey (es : Entries Value) (k : KeySet) : Prop := ∀ n ∈ k.topNames, (Entries.get? es n).isSome = true

/-- A representation asks for the reference function of its type. -/
def AsksFor (config : Config) (rep : Value) (f : Reference) : Prop :=
  ∃ es type settings, rep = .record es ∧ Entries.get? es typenameKey = some (.text type) ∧ type ≠ ""
    ∧ config.lookup type = some settings ∧ settings.reference = some f
    ∧ (settings.keySets = [] ∨ ∃ k ∈ settings.keySets, HoldsKey es k)

/-- The call that is made for a representation, if there is one. -/
def Makes (config : Config) (r : Request) (rep : Value) (call? : Option ReferenceCall) : Prop :=
  ∀ call, call? = some call
    ↔ call.representation = rep ∧ call.request = r ∧ AsksFor config rep call.function

section Calls
variable {s s' : Schema} {config : Config} {c : Classification} {r : Request} {rep : Value} {f : Reference}

theorem typename_ok_iff {type : String} : typename rep = .ok type
    ↔ ∃ es, rep = .record es ∧ Entries.get? es typenameKey = some (.text type) ∧ type ≠ "" := by
  cases rep with
  | record es =>
    simp only [typename, Value.record.injEq, exists_eq_left']
    cases hes : Entries.get? es typenameKey with
    | none => simp
    | some v =>
      cases v with
      | text t =>
        simp only [Option.some.injEq, Value.text.injEq]
        by_cases ht : t = ""
        · rw [if_pos ht]
          constructor
          · intro h
            cases h
          · rintro ⟨rfl, hne⟩
            exact absurd ht hne
        · rw [if_neg ht]
          constructor
          · intro h
            cases h
            exact ⟨rfl, ht⟩
          · rintro ⟨rfl, -⟩
            rfl
      | _ => simp
  | _ => simp [typename]

theorem checkKeys_ok_iff {type : String} {keySets : List KeySet} {es : Entries Value} :
    checkKeys type keySets (.record es) = .ok () ↔ keySets = [] ∨ ∃ k ∈ keySets, HoldsKey es k := by
  have hholds : ∀ k : KeySet, holdsKey (.record es) k = true ↔ HoldsKey es k := fun k => List.all_eq_true
  rw [checkKeys]
  split
  · next h =>
    simp only [Bool.or_eq_true, List.isEmpty_iff, List.any_eq_true, hholds] at h
    exact iff_of_true rfl h
  · next h =>
    simp only [Bool.or_eq_true, List.isEmpty_iff, List.any_eq_true, hholds] at h
    exact iff_of_false (fun hok => by cases hok) h

theorem checkKeys_error_iff {type : String} {keySets : List KeySet} {es : Entries Value} :
    checkKeys type keySets (.record es) = .error (.keysMissing type keySets)
      ↔ keySets ≠ [] ∧ ∀ k ∈ keySets, ¬ HoldsKey es k := by
  have hnot : (keySets ≠ [] ∧ ∀ k ∈ keySets, ¬ HoldsKey es k)
      ↔ ¬ checkKeys type keySets (.record es) = .ok () := by
    rw [checkKeys_ok_iff, not_or]
    simp only [not_exists, not_and, ne_eq]
  rw [hnot, checkKeys]
  split <;> simp

theorem referenceFor_iff (hc : classify s config = .ok c) :
    (∃ type, referenceFor s' c rep = .ok (type, some f)) ↔ AsksFor config rep f := by
  obtain ⟨haccepts, rfl⟩ := classify_ok_iff.mp hc
  unfold referenceFor AsksFor
  constructor
  · rintro ⟨type', h⟩
    obtain ⟨type, htype, h⟩ := Except.of_bind_ok h
    obtain ⟨t?, ht, h⟩ := Except.of_bind_ok h
    obtain ⟨es, rfl, hes, hne⟩ := typename_ok_iff.mp htype
    cases t? with
    | none => cases h
    | some t =>
      obtain ⟨_, hkeys, h⟩ := Except.of_bind_ok h
      -- The schema alone gives a type, but no settings.
      have hget : (⟨configuredTypes s config⟩ : Classification).get? type = some t := by
        unfold lookup at ht
        cases hg : (⟨configuredTypes s config⟩ : Classification).get? type with
        | some u =>
          rw [hg] at ht
          cases ht
          rfl
        | none =>
          rw [hg] at ht
          cases hs : s'.type? type with
          | none => rw [hs] at ht; cases ht
          | some u =>
            rw [hs] at ht
            simp only at ht
            split at ht <;> cases ht
      have hsettings := haccepts.settings type
      rw [hget, Option.map_some] at hsettings
      exact ⟨es, type, t.settings, rfl, hes, hne, hsettings.symm, (Prod.mk.inj (Except.ok.inj h)).2,
        checkKeys_ok_iff.mp hkeys⟩
  · rintro ⟨es, type, settings, rfl, hes, hne, hconfig, hreference, hkeys⟩
    have hsettings := haccepts.settings type
    rw [hconfig] at hsettings
    obtain ⟨t, hget, rfl⟩ := Option.map_eq_some_iff.mp hsettings
    have hlookup : lookup s' ⟨configuredTypes s config⟩ type = .ok (some t) := by rw [lookup, hget]
    refine ⟨type, ?_⟩
    rw [typename_ok_iff.mpr ⟨es, rfl, hes, hne⟩]
    simp only [bind, Except.bind, hlookup, checkKeys_ok_iff.mpr hkeys, hreference]
    rfl

theorem call_answered (type : String) (call : ReferenceCall) (n : Nat) :
    (answered type call n).call = some call := by
  unfold answered
  split <;> rfl

theorem makes_resolveOne (hc : classify s config = .ok c) (n : Nat) (rep : Value) :
    Makes config r rep (resolveOne s' c r n rep).call := by
  intro call
  have hasks : (∃ type, referenceFor s' c rep = .ok (type, some call.function))
      ↔ AsksFor config rep call.function := referenceFor_iff hc
  rw [← hasks]
  unfold resolveOne
  cases hf : referenceFor s' c rep with
  | error e =>
    refine iff_of_false (fun h => by cases h) ?_
    rintro ⟨-, -, type, h⟩
    cases h
  | ok p =>
    obtain ⟨type, f?⟩ := p
    cases f? with
    | none =>
      refine iff_of_false (fun h => by cases h) ?_
      rintro ⟨-, -, type, h⟩
      cases h
    | some f =>
      simp only [call_answered, Option.some.injEq]
      constructor
      · rintro rfl
        exact ⟨rfl, rfl, type, rfl⟩
      · rintro ⟨rfl, rfl, type', h⟩
        cases h
        rfl

end Calls

section Users

/-- Answers later, and fails. -/
def lost : Reference :=
  ⟨"lost", fun _ => false, fun _ _ _ => .later 2 [] [] (.failed ⟨"LookupError", "no user"⟩)⟩

def users : Schema :=
  { Schema.empty with types := [⟨none, "User", .object [] [⟨none, "id", [], .named "ID", none, []⟩], []⟩] }

def usersBy (f : Reference) : Config := [("User", ⟨[["id"]], false, some f⟩)]

def user : Value := .record [(typenameKey, .text "User"), ("id", .int 1)]

end Users

end Subgraph.Federation
