import Subgraph.Proofs.WellFormed
import Subgraph.Schema.Resolve

/-!
# When the types of a draft resolve

A draft resolves if all its references are good. A default may have no value where it stands, but to read
it takes input types only, and these have fields of input types; so whichever types were taken before,
no step fails.
-/

namespace Subgraph.Build

namespace Resolving
variable {α β : Type}

/-- The step gives a result with a property, whichever types were taken before. -/
def Yields (m : Resolving α) (P : α → Prop) : Prop :=
  ∀ taken, ∃ a taken', m taken = .ok (a, taken') ∧ P a

/-- The step does not fail. -/
abbrev Succeeds (m : Resolving α) : Prop := Yields m fun _ => True

theorem yields_pure {P : α → Prop} {a : α} (h : P a) : Yields (pure a : Resolving α) P :=
  fun taken => ⟨a, taken, rfl, h⟩

theorem Yields.bind {m : Resolving α} {f : α → Resolving β} {P : α → Prop} {Q : β → Prop}
    (hm : Yields m P) (hf : ∀ a, P a → Yields (f a) Q) : Yields (m >>= f) Q := by
  intro taken
  obtain ⟨a, taken', ha, hp⟩ := hm taken
  obtain ⟨b, taken'', hb, hq⟩ := hf a hp taken'
  refine ⟨b, taken'', ?_, hq⟩
  show (m taken >>= fun r => f r.1 r.2) = _
  rw [ha]
  exact hb

theorem Yields.within {m : Resolving α} {P : α → Prop} (hm : Yields m P)
    (wrap : BuildError → BuildError) : Yields (Resolving.within wrap m) P := by
  intro taken
  obtain ⟨a, taken', ha, hp⟩ := hm taken
  refine ⟨a, taken', ?_, hp⟩
  rw [Resolving.within, ha]
  rfl

theorem succeeds_pure (a : α) : Succeeds (pure a : Resolving α) := yields_pure trivial

theorem succeeds_lift {r : Except BuildError α} {a : α} (hr : r = .ok a) :
    Succeeds (liftM r : Resolving α) := by
  intro taken
  refine ⟨a, taken, ?_, trivial⟩
  rw [hr]
  rfl

theorem succeeds_forM {xs : List α} {f : α → Resolving Unit}
    (h : ∀ x ∈ xs, Succeeds (f x)) : Succeeds (xs.forM f) := by
  induction xs with
  | nil => exact succeeds_pure _
  | cons x xs ih =>
    have hx := h x List.mem_cons_self
    have hxs := ih fun y hy => h y (List.mem_cons_of_mem x hy)
    show Succeeds (f x >>= fun _ => xs.forM f)
    exact hx.bind fun _ _ => hxs

theorem yields_mapM {xs : List α} {f : α → Resolving β} {P : β → Prop}
    (h : ∀ x ∈ xs, Yields (f x) P) : Yields (xs.mapM f) fun ys => ∀ y ∈ ys, P y := by
  induction xs with
  | nil =>
    rw [List.mapM_nil]
    exact yields_pure fun y hy => by cases hy
  | cons x xs ih =>
    have hx := h x List.mem_cons_self
    have hxs := ih fun y hy => h y (List.mem_cons_of_mem x hy)
    rw [List.mapM_cons]
    refine hx.bind fun b hb => hxs.bind fun bs hbs => yields_pure fun y hy => ?_
    rcases List.mem_cons.mp hy with rfl | hy
    · exact hb
    · exact hbs y hy

end Resolving

namespace Draft
open Resolving
variable {d : Draft}

theorem yields_known {t : TypeRef} {p : TypeShape → Bool}
    (h : (d.settled.shape? t.base).any p = true) : Yields (d.known t) fun s => p s = true := by
  unfold known
  cases hs : d.settled.shape? t.base with
  | none =>
    rw [hs] at h
    cases h
  | some s =>
    rw [hs] at h
    exact yields_pure h

/-- All references of the types of a draft are good, and so are those of the input types that its literals
are read at. -/
structure Ready (d : Draft) : Prop where
  refers : ∀ t ∈ d.types, t.shape.Refers d.settled
  inputs : ∀ n o fs, d.settled.shape? n = some (.input o fs) → ∀ f ∈ fs,
    (d.settled.shape? f.type.base).any TypeShape.isInput = true

theorem ready_ofTypes {types : List NamedType}
    (h : ∀ t ∈ types, t.shape.Refers (Draft.ofTypes types).settled) : (Draft.ofTypes types).Ready where
  refers := h
  inputs := by
    intro n o fs hs f hf
    obtain ⟨u, hu, -, hshape⟩ := Schema.mem_of_shape? hs
    rcases List.mem_append.mp hu with hu | hu
    · obtain ⟨t, ht, rfl⟩ := List.mem_map.mp hu
      have hinputs : f ∈ t.shape.inputs := by
        cases hts : t.shape with
        | input o' fs' =>
          simp only [settle, hts, TypeShape.input.injEq] at hshape
          obtain ⟨-, rfl⟩ := hshape
          exact mem_of_mem_lastByName hf
        | _ => simp [settle, hts] at hshape
      exact ((h t ht).inputs f hinputs).type
    · have hall : ∀ t ∈ Builtin.scalars ++ Builtin.introspection,
          (t.shape.hasFields && t.shape.isInput) = false := by
        decide +kernel
      have hbuiltin := hall u (List.mem_of_mem_filter hu)
      rw [hshape] at hbuiltin
      cases hbuiltin

section Reading
variable {enter : String → Resolving Unit}

theorem succeeds_throughType {isNull : Bool} {items : Option (TypeRef → Resolving Bool)}
    {atName : String → Resolving Bool} {t : TypeRef}
    (hitems : ∀ f ∈ items, ∀ u : TypeRef, u.base = t.base → Succeeds (f u))
    (hname : Succeeds (atName t.base)) : Succeeds (throughType isNull items atName t) := by
  induction t with
  | named n =>
    unfold throughType
    split
    · exact succeeds_pure _
    · exact hname
  | nonNull t ih =>
    unfold throughType
    split
    · exact succeeds_pure _
    · exact ih hitems hname
  | list t ih =>
    unfold throughType
    split
    · exact succeeds_pure _
    · split
      · next f => exact hitems f rfl t rfl
      · exact ih hitems hname

theorem succeeds_readItems {items : List (TypeRef → Resolving Bool)} {t : TypeRef}
    (hitems : ∀ f ∈ items, Succeeds (f t)) : Succeeds (readItems items t) := by
  induction items with
  | nil => exact succeeds_pure _
  | cons f items ih =>
    refine (hitems f List.mem_cons_self).bind fun present _ => ?_
    split
    · exact ih fun g hg => hitems g (List.mem_cons_of_mem f hg)
    · exact succeeds_pure _

theorem succeeds_readFields {given : List (String × (TypeRef → Resolving Bool))} {fs : List InputValue}
    (hgiven : ∀ e ∈ given, ∀ f ∈ fs, Succeeds (e.2 f.type)) : Succeeds (d.readFields given fs) := by
  induction fs with
  | nil => exact succeeds_pure _
  | cons f fs ih =>
    have hmore := ih fun e he k hk => hgiven e he k (List.mem_cons_of_mem f hk)
    have hrest : ∀ present : Bool, Succeeds (if present then d.readFields given fs else pure false) := by
      intro present
      split
      · exact hmore
      · exact succeeds_pure _
    unfold readFields
    split
    · next field hfield =>
      have hmem : (f.name, field) ∈ given := List.mem_reverse.mp (mem_of_lookup hfield)
      exact (hgiven _ hmem f List.mem_cons_self).bind fun present _ => hrest present
    · exact (succeeds_pure _).bind fun present _ => hrest present

theorem succeeds_readNamed (h : d.Ready) (henter : ∀ n, Succeeds (enter n)) {l : Constant}
    {given : Option (List (String × (TypeRef → Resolving Bool)))} {n : String}
    (hn : (d.settled.shape? n).any TypeShape.isInput = true)
    (hgiven : ∀ es ∈ given, ∀ e ∈ es, ∀ u : TypeRef, (d.settled.shape? u.base).any TypeShape.isInput = true →
      Succeeds (e.2 u)) : Succeeds (d.readNamed enter l given n) := by
  unfold readNamed
  cases hs : d.settled.shape? n with
  | none =>
    rw [hs] at hn
    cases hn
  | some shape =>
    rw [hs, Option.any_some] at hn
    cases shape with
    | input o fs =>
      cases given with
      | none => exact succeeds_pure _
      | some es =>
        refine (henter n).bind fun _ _ => (succeeds_readFields fun e he f hf =>
          hgiven es rfl e he f.type (h.inputs n o fs hs f hf)).bind fun present _ => ?_
        split <;> exact succeeds_pure _
    | scalar url => exact succeeds_pure _
    | enum vs => exact succeeds_pure _
    | object is fs => cases hn
    | interface is fs => cases hn
    | union ms => cases hn

mutual

theorem succeeds_read (h : d.Ready) (henter : ∀ n, Succeeds (enter n)) : ∀ (l : Constant) (t : TypeRef),
    (d.settled.shape? t.base).any TypeShape.isInput = true → Succeeds (d.read enter l t)
  | .null _, t, _ => succeeds_throughType nofun (succeeds_pure _)
  | .list m xs, t, ht => by
    refine succeeds_throughType (fun f hf u hu => ?_) (succeeds_readNamed h henter ht nofun)
    rw [← Option.some.inj hf]
    exact succeeds_readItems fun g hg => succeeds_itemReadings h henter xs g hg u (by rwa [hu])
  | .object m fs, t, ht => by
    refine succeeds_throughType nofun (succeeds_readNamed h henter ht fun es hes => ?_)
    rw [← Option.some.inj hes]
    exact succeeds_fieldReadings h henter fs
  | .variable m n, t, ht => succeeds_throughType nofun (succeeds_readNamed h henter ht nofun)
  | .int m n, t, ht => succeeds_throughType nofun (succeeds_readNamed h henter ht nofun)
  | .float m n, t, ht => succeeds_throughType nofun (succeeds_readNamed h henter ht nofun)
  | .string m n b, t, ht => succeeds_throughType nofun (succeeds_readNamed h henter ht nofun)
  | .bool m b, t, ht => succeeds_throughType nofun (succeeds_readNamed h henter ht nofun)
  | .enum m n, t, ht => succeeds_throughType nofun (succeeds_readNamed h henter ht nofun)

theorem succeeds_itemReadings (h : d.Ready) (henter : ∀ n, Succeeds (enter n)) :
    ∀ (xs : List Constant), ∀ f ∈ d.itemReadings enter xs, ∀ u : TypeRef,
    (d.settled.shape? u.base).any TypeShape.isInput = true → Succeeds (f u)
  | [], f, hf, _, _ => absurd hf List.not_mem_nil
  | x :: xs, f, hf, u, hu => by
    rcases List.mem_cons.mp hf with rfl | hf
    · exact succeeds_read h henter x u hu
    · exact succeeds_itemReadings h henter xs f hf u hu

theorem succeeds_fieldReadings (h : d.Ready) (henter : ∀ n, Succeeds (enter n)) :
    ∀ (fs : List (Unit × String × Constant)), ∀ e ∈ d.fieldReadings enter fs, ∀ u : TypeRef,
    (d.settled.shape? u.base).any TypeShape.isInput = true → Succeeds (e.2 u)
  | [], e, he, _, _ => absurd he List.not_mem_nil
  | (_, n, v) :: fs, e, he, u, hu => by
    rcases List.mem_cons.mp he with rfl | he
    · exact succeeds_read h henter v u hu
    · exact succeeds_fieldReadings h henter fs e he u hu

end

theorem succeeds_resolveInput (h : d.Ready) (henter : ∀ n, Succeeds (enter n)) {v : InputValue}
    (hv : v.Fits d.settled) (wrong : BuildError) :
    Succeeds (d.resolveInput enter wrong v) := by
  have hdeprecation := hv.deprecation
  refine (yields_known hv.type).bind fun s hs => ?_
  have hrest : Succeeds (do
      Build.sound (Build.deprecation v.applied)
      if !s.isInput then throw wrong : Resolving Unit) := by
    refine (succeeds_lift hdeprecation).bind fun _ _ => ?_
    rw [hs]
    exact succeeds_pure _
  cases hd : v.default? with
  | none => exact (succeeds_pure ()).bind fun _ _ => hrest
  | some dv =>
    cases dv with
    | written l =>
      exact ((succeeds_read h henter l v.type hv.type).bind fun _ _ => succeeds_pure ()).bind
        fun _ _ => hrest
    | value w => exact (succeeds_pure ()).bind fun _ _ => hrest

end Reading

theorem succeeds_takeFields (h : d.Ready) (fuel : Nat) (name : String) :
    Succeeds (d.takeFields fuel name) := by
  induction fuel generalizing name with
  | zero => exact succeeds_pure _
  | succ fuel ih =>
    have hget : Succeeds (get : Resolving (List String)) :=
      fun taken => ⟨taken, taken, rfl, trivial⟩
    refine hget.bind fun taken _ => ?_
    split
    · exact succeeds_pure _
    · have hmodify : Succeeds (modify (name :: ·) : Resolving Unit) :=
        fun taken => ⟨(), name :: taken, rfl, trivial⟩
      refine hmodify.bind fun _ _ => ?_
      cases hs : d.definedShape? name with
      | none => exact succeeds_pure _
      | some shape =>
        obtain ⟨t, ht, hshape⟩ := Option.map_eq_some_iff.mp hs
        have hmem : t ∈ d.types := List.mem_of_find?_eq_some ht
        cases shape with
        | input o fs =>
          refine Yields.within (succeeds_forM fun v hv => ?_) _
          have hinputs : v ∈ t.shape.inputs := by
            rw [hshape]
            exact hv
          exact succeeds_resolveInput h ih ((h.refers t hmem).inputs v hinputs) _
        | _ => exact succeeds_pure _

theorem succeeds_resolveNames {names : List String} {ok : TypeShape → Bool}
    (h : ∀ n ∈ names, (d.settled.shape? n).any ok = true) (wrong : BuildError)
    (wrap : BuildError → BuildError) : Succeeds (d.resolveNames names ok wrong wrap) := by
  have hshapes : Yields (names.mapM fun n => Resolving.within wrap (d.known (.named n)))
      fun shapes => ∀ s ∈ shapes, ok s = true :=
    yields_mapM fun n hn => (yields_known (t := .named n) (h n hn)).within wrap
  refine hshapes.bind fun shapes hs => ?_
  have hall : shapes.all ok = true := List.all_eq_true.mpr hs
  rw [hall]
  exact succeeds_pure _

theorem succeeds_resolveField (h : d.Ready) {t : NamedType} (ht : t ∈ d.types) {f : Field}
    (hf : f ∈ t.shape.fields) : Succeeds (d.resolveField f) := by
  obtain ⟨htype, hdeprecation⟩ := (h.refers t ht).fields f hf
  refine (yields_known htype).bind fun s hs => ?_
  refine (succeeds_forM fun v hv => succeeds_resolveInput h (succeeds_takeFields h _)
    ((h.refers t ht).inputs v (TypeShape.mem_inputs hf hv)) _).bind fun _ _ => ?_
  refine (succeeds_lift hdeprecation).bind fun _ _ => ?_
  rw [hs]
  exact succeeds_pure _

theorem succeeds_resolveType (h : d.Ready) {t : NamedType} (ht : t ∈ d.types) :
    Succeeds (d.resolveType t) := by
  have hrefers := h.refers t ht
  have hmembers : ∀ is fs, t.shape.interfaces = is → t.shape.fields = fs →
      Succeeds (d.resolveMembers t.name is fs) := by
    rintro is fs rfl rfl
    refine (succeeds_resolveNames hrefers.interfaces _ _).bind fun _ _ => ?_
    exact Yields.within (succeeds_forM fun f hf => succeeds_resolveField h ht hf) _
  unfold resolveType
  cases hs : t.shape with
  | object is fs => exact hmembers is fs (by rw [hs]; rfl) (by rw [hs]; rfl)
  | interface is fs => exact hmembers is fs (by rw [hs]; rfl) (by rw [hs]; rfl)
  | union ms =>
    refine succeeds_resolveNames (fun n hn => ?_) _ _
    have hmember := hrefers.members n (by rw [hs]; exact hn)
    exact hmember
  | input o fs => exact succeeds_takeFields h _ _
  | scalar url => exact succeeds_pure _
  | enum vs => exact succeeds_pure _

theorem resolve_ok (h : d.Ready) {arguments : List InputValue}
    (hargs : ∀ v ∈ arguments, v.Fits d.settled) : d.resolve arguments = .ok () := by
  have harguments : Succeeds (arguments.forM d.resolveArgument) :=
    succeeds_forM fun v hv => succeeds_resolveInput h (succeeds_takeFields h _) (hargs v hv) _
  have htypes : Succeeds (d.types.forM d.resolveType) :=
    succeeds_forM fun t ht => succeeds_resolveType h ht
  obtain ⟨_, taken, hrun, _⟩ := (harguments.bind fun _ _ => htypes) []
  rw [resolve]
  show ((arguments.forM d.resolveArgument >>= fun _ => d.types.forM d.resolveType) []).map (·.1) = _
  rw [hrun]
  rfl

end Draft
end Subgraph.Build
