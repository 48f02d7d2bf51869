import Subgraph.Federation.Transform
import Subgraph.Proofs.Rooting

/-!
# What a transformation goes through

A transformation that succeeds has read the configuration, has found that it fits the schema, has
written the SDL and has added the protocol definitions. Log records decide nothing.
-/

namespace Subgraph

namespace Logged
variable {ε α β : Type}

/-- A result is given whatever records there are before. -/
def Yields (m : Logged ε α) (a : α) : Prop := ∀ old, (m old).1 = .ok a

theorem Yields.pure (a : α) : Yields (Pure.pure a : Logged ε α) a := fun _ => rfl

theorem run_bind (m : Logged ε α) (f : α → Logged ε β) (old : List LogRecord) :
    (m >>= f) old = match m old with
      | (.ok a, records) => f a records
      | (.error e, records) => (.error e, records) := by
  show (match m old with
    | (r, records) => ExceptT.bindCont f r records) = _
  cases m old with
  | mk r records => cases r <;> rfl

theorem Yields.bind {m : Logged ε α} {f : α → Logged ε β} {a : α} {b : β} (h : Yields m a)
    (h' : Yields (f a) b) : Yields (m >>= f) b := by
  intro old
  have hm := h old
  rw [run_bind]
  cases hr : m old with
  | mk r records =>
    rw [hr] at hm
    cases hm
    exact h' records

theorem of_bind_ok {m : Logged ε α} {f : α → Logged ε β} {old : List LogRecord} {b : β}
    (h : ((m >>= f) old).1 = .ok b) :
    ∃ a records, (m old).1 = .ok a ∧ (f a records).1 = .ok b := by
  rw [run_bind] at h
  cases hm : m old with
  | mk r records =>
    rw [hm] at h
    cases r with
    | error e => cases h
    | ok a => exact ⟨a, records, rfl, h⟩

theorem of_ofExcept_ok {ε' : Type} {wrap : ε' → ε} {r : Except ε' α} {old : List LogRecord} {a : α}
    (h : ((Logged.ofExcept wrap r : Logged ε α) old).1 = .ok a) : r = .ok a := by
  cases r with
  | error e => cases h
  | ok b =>
    cases h
    rfl

theorem Yields.say (records : List LogRecord) : Yields (Logged.say records : Logged ε Unit) () :=
  fun _ => rfl

theorem Yields.ofExcept {ε' : Type} {wrap : ε' → ε} {r : Except ε' α} {a : α} (h : r = .ok a) :
    Yields (Logged.ofExcept wrap r) a := by
  rw [h]
  exact fun _ => rfl

end Logged

namespace Federation
open Config

variable {registry : Registry} {x y : Service} {raw : Raw} {config : Config} {old : List LogRecord}

theorem printSdl?_ok_iff {s : Schema} {c : Classification} {sdl : String} :
    printSdl? s c = .ok sdl ↔ unwritable? s = none ∧ sdl = printSdl s c := by
  rw [printSdl?]
  cases unwritable? s with
  | none => exact ⟨fun h => ⟨rfl, (Except.ok.inj h).symm⟩, fun h => by rw [h.2]⟩
  | some e => exact ⟨nofun, nofun⟩

/-- Everything that a configuration has come to in a transformed service. -/
structure Transforms (x : Service) (config : Config) (c : Classification) (sdl : String)
    (y : Service) : Prop where
  fits : classify x.schema config = .ok c
  writes : printSdl? x.schema c = .ok sdl
  augments : augment x c sdl = .ok y

theorem transformBy_ok (h : (transformBy x config old).1 = .ok y) :
    ∃ c sdl, Transforms x config c sdl y := by
  obtain ⟨c, _, hclassified, h⟩ := Logged.of_bind_ok h
  obtain ⟨c', _, hclassify, hrest⟩ := Logged.of_bind_ok hclassified
  obtain ⟨_, _, -, hsame⟩ := Logged.of_bind_ok hrest
  obtain rfl : c' = c := Except.ok.inj hsame
  obtain ⟨sdl, _, hprint, h⟩ := Logged.of_bind_ok h
  obtain ⟨_, _, -, h⟩ := Logged.of_bind_ok h
  obtain ⟨_, _, -, h⟩ := Logged.of_bind_ok h
  obtain ⟨_, _, -, h⟩ := Logged.of_bind_ok h
  obtain ⟨y', _, haugment, h⟩ := Logged.of_bind_ok h
  obtain ⟨_, _, -, h⟩ := Logged.of_bind_ok h
  obtain rfl : y' = y := Except.ok.inj h
  exact ⟨c', sdl, Logged.of_ofExcept_ok hclassify, Logged.of_ofExcept_ok hprint,
    Logged.of_ofExcept_ok haugment⟩

theorem transform_ok (h : (transform registry x raw old).1 = .ok y) :
    ∃ config c sdl, parse registry raw = .ok config ∧ Transforms x config c sdl y := by
  obtain ⟨config, _, hparse, h⟩ := Logged.of_bind_ok h
  obtain ⟨_, _, -, h⟩ := Logged.of_bind_ok h
  obtain ⟨c, sdl, htransforms⟩ := transformBy_ok h
  exact ⟨config, c, sdl, Logged.of_ofExcept_ok hparse, htransforms⟩

theorem mem_protocolResolvers {q sdl : String} {c : Classification}
    {r : (String × String) × Resolver} (hr : r ∈ protocolResolvers q c sdl) :
    r.1.1 = q ∧ ∃ f ∈ protocolFieldTypes c.entityNames, f.name = r.1.2 := by
  rw [protocolFieldTypes_eq]
  unfold protocolResolvers at hr
  rcases List.mem_cons.mp hr with rfl | hr
  · exact ⟨rfl, _, List.mem_cons_self, rfl⟩
  · split at hr
    · cases hr
    · next hempty =>
      rw [List.mem_singleton.mp hr, if_neg hempty]
      exact ⟨rfl, _, List.mem_cons_of_mem _ (List.mem_singleton_self _), rfl⟩

/-- Augmenting extends the schema, whose query root then has the field for the service. -/
theorem augment_ok {c : Classification} {sdl : String} (h : augment x c sdl = .ok y) :
    x.schema.extend (additions x.schema c.entityNames) = .ok y.schema
      ∧ requireServiceField y.schema (y.schema.query.getD defaultQuery) = .ok ()
      ∧ y.resolvers = protocolResolvers (y.schema.query.getD defaultQuery) c sdl
        ++ x.resolvers.filter (fun r =>
          !(definedNames (additions x.schema c.entityNames)).contains r.1.1
            && !((protocolResolvers (y.schema.query.getD defaultQuery) c sdl).any (·.1 == r.1)))
      ∧ y.typeChecks = x.typeChecks.filter (fun t =>
          !(definedNames (additions x.schema c.entityNames)).contains t.1)
      ∧ y.taggedTypes =
        if c.entityNames.isEmpty then x.taggedTypes else entityUnion :: x.taggedTypes := by
  obtain ⟨s, hs, h⟩ := Except.of_bind_ok h
  obtain ⟨_, hfield, hy⟩ := Except.of_bind_ok h
  cases hy
  exact ⟨hs, hfield, rfl, rfl, rfl⟩

section Transforms
variable {c : Classification} {sdl : String} (h : Transforms x config c sdl y)
include h

theorem Transforms.sdl_eq : sdl = printSdl x.schema c := (printSdl?_ok_iff.mp h.writes).2

theorem Transforms.yields : Logged.Yields (transformBy x config) y := by
  have hclassified : Logged.Yields (classified x.schema config) c :=
    .bind (.ofExcept h.fits) (.bind (.say _) (.pure _))
  exact .bind hclassified <| .bind (.ofExcept h.writes) <| .bind (.say _) <| .bind (.say _) <|
    .bind (.say _) <| .bind (.ofExcept h.augments) <| .bind (.say _) (.pure _)

theorem Transforms.extends : x.schema.extend (additions x.schema c.entityNames) = .ok y.schema :=
  (augment_ok h.augments).1

theorem Transforms.query : y.schema.query = some (rootName x.schema) := (rootName_extend h.extends).1

theorem Transforms.servable : requireServiceField y.schema (rootName x.schema) = .ok () := by
  have hfield := (augment_ok h.augments).2.1
  rwa [h.query, Option.getD_some] at hfield

/-- The resolvers of the protocol come first, then those that stay. -/
theorem Transforms.resolvers :
    y.resolvers = protocolResolvers (rootName x.schema) c sdl ++ x.resolvers.filter fun r =>
      !(definedNames (additions x.schema c.entityNames)).contains r.1.1
        && !((protocolResolvers (rootName x.schema) c sdl).any (·.1 == r.1)) := by
  have hresolvers := (augment_ok h.augments).2.2.1
  rwa [h.query, Option.getD_some] at hresolvers

theorem Transforms.typeChecks : y.typeChecks = x.typeChecks.filter fun t =>
    !(definedNames (additions x.schema c.entityNames)).contains t.1 :=
  (augment_ok h.augments).2.2.2.1

theorem Transforms.taggedTypes : y.taggedTypes =
    if c.entityNames.isEmpty then x.taggedTypes else entityUnion :: x.taggedTypes :=
  (augment_ok h.augments).2.2.2.2

end Transforms

end Federation
end Subgraph
