import Subgraph.Proofs.DirectiveLists
import Subgraph.Proofs.ReadSchemas

/-!
# Keys that are declared twice

A key that is configured is not added to the declaration of a type where a directive of the source is
written like it. Directives that are written alike are equal, so a key that the source writes as a quoted
string, with whatever escapes, is never declared twice. But a block string is written in its own way: a key
that the source writes as one is declared again where it is configured, and no other key is.
-/

namespace Subgraph

theorem Directive.print_injective {d e : Directive Unit} (hd : d.IsWritable) (he : e.IsWritable)
    (h : d.print = e.print) : d = e := by
  have hend : Parser.Follows Parser.BehindDirectives [] := by
    refine ⟨Token.apart_nil, ?_, ?_⟩
    · intro e h
      cases h
    · constructor <;> intro h <;> cases h
  have hreads : ∀ a : Directive Unit, a.IsWritable →
      Parser.Takes (Parser.directives true) ((Federation.printApplied [a]).toList ++ []) [a] [] :=
    fun a ha => Parser.takes_directives (by simpa using ha) hend
  have htext : Federation.printApplied [d] = Federation.printApplied [e] := by
    rw [Federation.printApplied_singleton, Federation.printApplied_singleton, h]
  have hd' := (hreads d hd).run 0
  rw [htext, (hreads e he).run 0] at hd'
  simpa using hd'.symm

namespace Federation
open Build

/-- A key directive whose only argument is a string, written in one of two ways. -/
def keyOf (v : String) (block : Bool) : Applied := textDirective keyDirective "fields" v block

/-- The string of a key directive that has no other argument. -/
def keyText? (d : Applied) : Option String :=
  match d.arguments with
  | [⟨_, "fields", .string _ v _⟩] => if d.name = keyDirective then some v else none
  | _ => none

/-- The keys that directives declare. -/
def keyTexts (ds : List Applied) : List String := ds.filterMap keyText?

section Texts

theorem keyText?_keyOf (v : String) (block : Bool) : keyText? (keyOf v block) = some v := rfl

theorem keyText?_eq_some {d : Applied} {v : String} :
    keyText? d = some v ↔ ∃ block, d = keyOf v block := by
  constructor
  · intro h
    obtain ⟨_, name, arguments⟩ := d
    unfold keyText? at h
    split at h
    · next u block harguments =>
      split at h
      · next hname =>
        obtain rfl := Option.some.inj h
        simp only at harguments hname
        exact ⟨block, by rw [harguments, hname]; rfl⟩
      · cases h
    · cases h
  · rintro ⟨block, rfl⟩
    exact keyText?_keyOf v block

theorem mem_keyTexts {ds : List Applied} {v : String} :
    v ∈ keyTexts ds ↔ ∃ block, keyOf v block ∈ ds := by
  simp only [keyTexts, List.mem_filterMap, keyText?_eq_some]
  exact ⟨fun ⟨d, hd, block, heq⟩ => ⟨block, heq ▸ hd⟩, fun ⟨block, hd⟩ => ⟨_, hd, block, rfl⟩⟩

theorem keyTexts_append (a b : List Applied) : keyTexts (a ++ b) = keyTexts a ++ keyTexts b :=
  List.filterMap_append

theorem keyTexts_attributes (shape : TypeShape) : keyTexts shape.attributes = [] := by
  unfold TypeShape.attributes
  split <;> rfl

theorem keyTexts_restored (ds : List Applied) : keyTexts (restored ds) = keyTexts ds := by
  rw [keyTexts, restored, List.filterMap_filter]
  refine List.filterMap_congr fun d _ => ?_
  cases hd : keyText? d with
  | none => split <;> rfl
  | some v =>
    obtain ⟨block, rfl⟩ := keyText?_eq_some.mp hd
    rw [if_pos (by rfl)]

theorem not_both_of_nodup {ds : List Applied} (h : (keyTexts ds).Nodup) {v : String}
    (hquoted : keyOf v false ∈ ds) : keyOf v true ∉ ds := by
  intro hblock
  have hpairs := List.pairwise_filterMap.mp h
  have hsymm : Std.Symm fun d e : Applied =>
      ∀ v, keyText? d = some v → ∀ w, keyText? e = some w → v ≠ w :=
    ⟨fun d e hde v hv w hw heq => hde w hw v hv heq.symm⟩
  have hne : keyOf v false ≠ keyOf v true := by
    intro heq
    cases heq
  exact hpairs.forall hquoted hblock hne v rfl v rfl rfl

end Texts

section Additions
variable {seen : List String} {ds : List Applied}

theorem fresh_distinct (seen : List String) (ds : List Applied) :
    (∀ d ∈ fresh seen ds, d.print ∉ seen) ∧ ((fresh seen ds).map Directive.print).Nodup := by
  induction ds generalizing seen with
  | nil => exact ⟨by simp [fresh], List.nodup_nil⟩
  | cons d ds ih =>
    unfold fresh
    split
    · exact ih seen
    · next hnew =>
      obtain ⟨hseen, hnodup⟩ := ih (d.print :: seen)
      refine ⟨List.forall_mem_cons.mpr ⟨fun h => hnew (List.contains_iff_mem.mpr h), fun e he h =>
        hseen e he (List.mem_cons_of_mem _ h)⟩, ?_⟩
      rw [List.map_cons, List.nodup_cons]
      refine ⟨fun hmem => ?_, hnodup⟩
      obtain ⟨e, he, heq⟩ := List.mem_map.mp hmem
      exact hseen e he (heq ▸ List.mem_cons_self)

theorem keyOf_mem_shownDirectives {shown : List KeySet × Bool} {v : String} {block : Bool} :
    keyOf v block ∈ shownDirectives shown ↔ block = false ∧ ∃ k ∈ shown.1, k.joined = v := by
  constructor
  · intro h
    rcases List.mem_append.mp h with h | h
    · obtain ⟨k, hk, heq⟩ := List.mem_map.mp h
      have htext : keyOf k.joined false = keyOf v block := heq
      cases htext
      exact ⟨rfl, k, hk, rfl⟩
    · have hname : keyDirective ≠ extendsDirective := by decide
      split at h
      · exact absurd (congrArg Directive.name (List.mem_singleton.mp h)) hname
      · cases h
  · rintro ⟨rfl, k, hk, rfl⟩
    exact List.mem_append_left _ (List.mem_map_of_mem hk)

theorem writable_shownDirectives (shown : List KeySet × Bool) :
    ∀ a ∈ shownDirectives shown, a.IsWritable :=
  writable_settings ⟨shown.1, shown.2, none⟩

theorem mem_keyTexts_fresh {shown : List KeySet × Bool} {v : String} :
    v ∈ keyTexts (fresh seen (shownDirectives shown))
      ↔ (∃ k ∈ shown.1, k.joined = v) ∧ (keyOf v false).print ∉ seen := by
  rw [mem_keyTexts]
  constructor
  · rintro ⟨block, hmem⟩
    obtain ⟨rfl, hk⟩ := keyOf_mem_shownDirectives.mp (mem_of_mem_fresh hmem)
    exact ⟨hk, (fresh_distinct seen _).1 _ hmem⟩
  · rintro ⟨hk, hnew⟩
    have hmem := keyOf_mem_shownDirectives.mpr ⟨rfl, hk⟩
    obtain hseen | ⟨e, he, hprint⟩ := fresh_covers hmem seen
    · exact absurd hseen hnew
    · have hwritable := writable_shownDirectives shown
      obtain rfl := Directive.print_injective (hwritable e (mem_of_mem_fresh he)) (hwritable _ hmem) hprint
      exact ⟨false, he⟩

theorem keyTexts_fresh_nodup (seen : List String) (shown : List KeySet × Bool) :
    (keyTexts (fresh seen (shownDirectives shown))).Nodup := by
  have hprints := List.pairwise_map.mp (fresh_distinct seen (shownDirectives shown)).2
  refine List.pairwise_filterMap.mpr (hprints.imp_of_mem ?_)
  intro d e hd he hne v hv w hw heq
  obtain ⟨block, rfl⟩ := keyText?_eq_some.mp hv
  obtain ⟨block', rfl⟩ := keyText?_eq_some.mp hw
  obtain ⟨rfl, -⟩ := keyOf_mem_shownDirectives.mp (mem_of_mem_fresh hd)
  obtain ⟨rfl, -⟩ := keyOf_mem_shownDirectives.mp (mem_of_mem_fresh he)
  exact hne (by rw [heq])

/-- In a merged list a key is there more than once exactly if it is configured and the source writes it as
a block string. -/
theorem one_lt_count_merge {source : List Applied} (hwritable : ∀ a ∈ source, a.IsWritable)
    (honce : (keyTexts source).Nodup) (shown : List KeySet × Bool) (v : String) :
    1 < (keyTexts (merge source (shownDirectives shown))).count v
      ↔ (∃ k ∈ shown.1, k.joined = v) ∧ keyOf v true ∈ source := by
  have hcount : 1 < (keyTexts (merge source (shownDirectives shown))).count v
      ↔ v ∈ keyTexts source
        ∧ v ∈ keyTexts (fresh (source.map Directive.print) (shownDirectives shown)) := by
    have hsource := List.nodup_iff_count_le_one.mp honce v
    have hfresh := List.nodup_iff_count_le_one.mp
      (keyTexts_fresh_nodup (source.map Directive.print) shown) v
    rw [merge, keyTexts_append, List.count_append, ← List.count_pos_iff, ← List.count_pos_iff]
    omega
  rw [hcount, mem_keyTexts, mem_keyTexts_fresh]
  constructor
  · rintro ⟨⟨block, hmem⟩, hk, hnew⟩
    cases block with
    | false => exact absurd (List.mem_map_of_mem hmem) hnew
    | true => exact ⟨hk, hmem⟩
  · rintro ⟨hk, hblock⟩
    refine ⟨⟨true, hblock⟩, hk, fun hseen => ?_⟩
    obtain ⟨a, ha, hprint⟩ := List.mem_map.mp hseen
    have hquoted := writable_shownDirectives shown _ (keyOf_mem_shownDirectives.mpr ⟨rfl, hk⟩)
    obtain rfl := Directive.print_injective (hwritable a ha) hquoted hprint
    exact not_both_of_nodup honce ha hblock

end Additions

/-- A type is declared with its directives, and of the keys among them one is declared more than once exactly
if it is configured and the source writes it as a block string, unless the source has it twice itself. -/
structure DeclaresKeys (s : Schema) (config : Config) (m : DirectiveMap) (t : NamedType) (decl : String) :
    Prop where
  text : decl = declarationText s m t
  repeated : (keyTexts t.applied).Nodup → ∀ v, 1 < (keyTexts (shownAtType m t)).count v
    ↔ (∃ k ∈ (shownOf config t.name).1, k.joined = v) ∧ keyOf v true ∈ t.applied

/-- Whatever the configuration, no key is declared twice that is written as a quoted string, if the source
does not declare it twice itself: a key is repeated only where the source writes it as a block string. -/
theorem keys_declared_once {s : Schema} {config : Config} {c : Classification}
    (hnames : (s.types.map (·.name)).Nodup)
    (hwritable : ∀ t ∈ serviceTypes s, ∀ a ∈ t.applied, a.IsWritable) (hc : classify s config = .ok c) :
    ∀ t ∈ serviceTypes s, ∀ decl, printType s (directiveMap s c) t = some decl →
      decl ∈ definitions s c ∧ DeclaresKeys s config (directiveMap s c) t decl := by
  intro t ht decl hdecl
  refine ⟨List.mem_append_right _ (List.mem_filterMap.mpr ⟨t, ht, hdecl⟩), printType_eq s _ t hdecl,
    fun honce v => ?_⟩
  have hown : shownAtType (directiveMap s c) t = t.shape.attributes
      ++ merge (restored t.applied) (shownDirectives (shownOf config t.name)) := by
    rw [shownAtType, directiveMap_type hnames ht, typeDirectives_shown hc]
  have hkept : keyOf v true ∈ restored t.applied ↔ keyOf v true ∈ t.applied := by
    have hname : keyDirective ∉ printedNames := by decide
    rw [mem_restored, and_iff_left (show (keyOf v true).name ∉ printedNames from hname)]
  rw [hown, keyTexts_append, keyTexts_attributes, List.nil_append, ← hkept]
  exact one_lt_count_merge (writable_restored (hwritable t ht))
    ((keyTexts_restored t.applied).symm ▸ honce) _ v

section Users

/-- Users and accounts with the same key, which is a block string of the one and has an escape in the other. -/
def keyedText : String :=
  "directive @key(fields: String!) repeatable on OBJECT\n"
    ++ "type Query \x7b user: User account: Account \x7d\n"
    ++ "type User @key(fields: \"\"\"id\"\"\") \x7b id: ID! \x7d\n"
    ++ "type Account @key(fields: \"\\u0069d\") \x7b id: ID! \x7d\n"

def keyedConfig : Config := [("User", ⟨[["id"]], false, none⟩), ("Account", ⟨[["id"]], false, none⟩)]

/-- The declaration of a type, the keys that its source declares, and those of the declaration. -/
def declaredKeys (s : Schema) (c : Classification) (n : String) :
    Option (String × List String × List String) :=
  ((serviceTypes s).find? (·.name == n)).bind fun t =>
    (printType s (directiveMap s c) t).map fun decl =>
      (decl, keyTexts t.applied, keyTexts (shownAtType (directiveMap s c) t))

theorem of_declaredKeys {s : Schema} {c : Classification} {n decl : String} {source shown : List String}
    (h : declaredKeys s c n = some (decl, source, shown)) : ∃ t ∈ serviceTypes s,
      printType s (directiveMap s c) t = some decl ∧ keyTexts t.applied = source
        ∧ keyTexts (shownAtType (directiveMap s c) t) = shown ∧ t.name = n := by
  obtain ⟨t, ht, hprint⟩ := Option.bind_eq_some_iff.mp h
  obtain ⟨decl', hdecl, heq⟩ := Option.map_eq_some_iff.mp hprint
  cases heq
  have hname := List.find?_some ht
  exact ⟨t, List.mem_of_find?_eq_some ht, hdecl, rfl, rfl, eq_of_beq hname⟩

/-- The key of the block string is declared again, and the one with an escape is not. -/
theorem keys_declared_once_users : ∃ s c user account, Schema.read keyedText false = .ok s
    ∧ classify s keyedConfig = .ok c ∧ user ∈ serviceTypes s ∧ account ∈ serviceTypes s
    ∧ printType s (directiveMap s c) user
      = some "type User @key(fields: \"\"\"id\"\"\") @key(fields: \"id\") \x7b\n  id: ID!\n\x7d"
    ∧ keyOf "id" true ∈ user.applied
    ∧ printType s (directiveMap s c) account
      = some "type Account @key(fields: \"id\") \x7b\n  id: ID!\n\x7d"
    ∧ keyOf "id" true ∉ account.applied := by
  have hrun : (Schema.read keyedText false).toOption.bind (fun s =>
      (classify s keyedConfig).toOption.map fun c => (declaredKeys s c "User", declaredKeys s c "Account"))
      = some
        (some ("type User @key(fields: \"\"\"id\"\"\") @key(fields: \"id\") \x7b\n  id: ID!\n\x7d",
          ["id"], ["id", "id"]),
        some ("type Account @key(fields: \"id\") \x7b\n  id: ID!\n\x7d", ["id"], ["id"])) := by
    decide +kernel
  obtain ⟨s, hs, hrun⟩ := Option.bind_eq_some_iff.mp hrun
  obtain ⟨c, hc, hrun⟩ := Option.map_eq_some_iff.mp hrun
  obtain ⟨huser, haccount⟩ := Prod.mk.inj hrun
  have hread := Except.of_toOption hs
  have hclassify := Except.of_toOption hc
  have hreadable := readable_of_read hread
  have honce := keys_declared_once hreadable.names
    (fun t ht => (hreadable.legible.types t ht).directives) hclassify
  obtain ⟨user, hmem, hprint, hsource, hshown, -⟩ := of_declaredKeys huser
  obtain ⟨account, hmem', hprint', hsource', hshown', hname'⟩ := of_declaredKeys haccount
  obtain ⟨-, -, hrepeated⟩ := honce user hmem _ hprint
  obtain ⟨-, -, hrepeated'⟩ := honce account hmem' _ hprint'
  refine ⟨s, c, user, account, hread, hclassify, hmem, hmem', hprint, ?_, hprint', fun hblock => ?_⟩
  · have htwice := (hrepeated (by rw [hsource]; decide) "id").mp (by rw [hshown]; decide)
    exact htwice.2
  · have hkey : (∃ k ∈ (shownOf keyedConfig account.name).1, k.joined = "id") := by
      rw [hname']
      exact ⟨["id"], List.mem_cons_self, rfl⟩
    have htwice := (hrepeated' (by rw [hsource']; decide) "id").mpr ⟨hkey, hblock⟩
    rw [hshown'] at htwice
    exact absurd htwice (by decide)

end Users

end Federation
end Subgraph
