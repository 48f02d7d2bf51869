import Subgraph.Proofs.WellFormed
import Subgraph.Schema.Resolve

/-!
# What the types of a draft are that resolved

Where a draft resolves, all its references are good. The fields of an input type are checked when they are
taken, which can be in the middle of another type; so what a step ensures is said together with the input
types that were taken on the way, whose fields have all been checked by the time that the step is done.
-/

namespace Subgraph.Build.Draft
variable {d : Draft} {α β : Type}

/-- The fields of an input type fit their places. -/
def Checked (d : Draft) (name : String) : Prop :=
  ∀ o fs, d.definedShape? name = some (.input o fs) → ∀ v ∈ fs, v.Fits d.settled

/-- A step that gave a result has taken no input type back, has checked those that it took, and has a
property from then on. -/
structure Reached (d : Draft) (Q : α → List String → Prop) (taken : List String) (a : α)
    (taken' : List String) : Prop where
  kept : taken ⊆ taken'
  checked : ∀ n ∈ taken', n ∈ taken ∨ d.Checked n
  holds : ∀ later, taken' ⊆ later → Q a later

def Ensures (d : Draft) (m : Resolving α) (Q : α → List String → Prop) : Prop :=
  ∀ taken a taken', m taken = .ok (a, taken') → d.Reached Q taken a taken'

section Steps
variable {P : α → List String → Prop} {Q : β → List String → Prop}

theorem Ensures.mono {m : Resolving α} {P' : α → List String → Prop} (hm : d.Ensures m P)
    (h : ∀ a taken, P a taken → P' a taken) : d.Ensures m P' := by
  intro taken a taken' hrun
  obtain ⟨hkept, hchecked, hholds⟩ := hm taken a taken' hrun
  exact ⟨hkept, hchecked, fun later hlater => h a later (hholds later hlater)⟩

theorem ensures_pure {a : α} (h : ∀ taken, P a taken) : d.Ensures (pure a : Resolving α) P := by
  intro taken b taken' hrun
  obtain ⟨rfl, rfl⟩ := Prod.mk.inj (Except.ok.inj hrun)
  exact ⟨List.Subset.refl _, fun _ => .inl, fun later _ => h later⟩

theorem ensures_throw (e : BuildError) : d.Ensures (throw e : Resolving α) P := by
  intro taken a taken' hrun
  cases hrun

theorem Ensures.bind {m : Resolving α} {f : α → Resolving β} (hm : d.Ensures m P)
    (hf : ∀ a, d.Ensures (f a) fun b taken => P a taken → Q b taken) : d.Ensures (m >>= f) Q := by
  intro taken b taken'' hrun
  obtain ⟨⟨a, taken'⟩, ha, hb⟩ := Except.of_bind_ok (x := m taken) (f := fun r => f r.1 r.2) hrun
  obtain ⟨hkept, hchecked, hholds⟩ := hm taken a taken' ha
  obtain ⟨hkept', hchecked', hholds'⟩ := hf a taken' b taken'' hb
  refine ⟨List.Subset.trans hkept hkept', fun n hn => ?_, fun later hlater => ?_⟩
  · rcases hchecked' n hn with hn | hn
    · exact hchecked n hn
    · exact .inr hn
  · exact hholds' later hlater (hholds later (List.Subset.trans hkept' hlater))

theorem Ensures.within {m : Resolving α} (hm : d.Ensures m P) (wrap : BuildError → BuildError) :
    d.Ensures (Resolving.within wrap m) P := by
  intro taken a taken' hrun
  exact hm taken a taken' (Except.of_mapError_ok hrun)

theorem ensures_lift (r : Except BuildError α) :
    d.Ensures (liftM r : Resolving α) fun a _ => r = .ok a := by
  intro taken a taken' hrun
  cases r with
  | error e => cases hrun
  | ok b =>
    obtain ⟨rfl, rfl⟩ := Prod.mk.inj (Except.ok.inj hrun)
    exact ⟨List.Subset.refl _, fun _ => .inl, fun _ _ => rfl⟩

theorem ensures_unless (b : Bool) (e : BuildError) :
    d.Ensures (do if !b then throw e : Resolving Unit) fun _ _ => b = true := by
  cases b with
  | true => exact ensures_pure fun _ => rfl
  | false => exact ensures_throw e

theorem ensures_forM {xs : List α} {f : α → Resolving Unit} {R : α → List String → Prop}
    (h : ∀ x ∈ xs, d.Ensures (f x) fun _ taken => R x taken) :
    d.Ensures (xs.forM f) fun _ taken => ∀ x ∈ xs, R x taken := by
  induction xs with
  | nil => exact ensures_pure fun _ x hx => absurd hx List.not_mem_nil
  | cons x xs ih =>
    have hx := h x List.mem_cons_self
    have hxs := ih fun y hy => h y (List.mem_cons_of_mem x hy)
    show d.Ensures (f x >>= fun _ => xs.forM f) _
    exact hx.bind fun _ => hxs.mono fun _ taken hrest hfirst y hy =>
      (List.mem_cons.mp hy).elim (fun heq => heq ▸ hfirst) (hrest y)

theorem ensures_mapM {xs : List α} {f : α → Resolving β} {R : α → β → Prop}
    (h : ∀ x ∈ xs, d.Ensures (f x) fun y _ => R x y) :
    d.Ensures (xs.mapM f) fun ys _ => ∀ x ∈ xs, ∃ y ∈ ys, R x y := by
  induction xs with
  | nil =>
    rw [List.mapM_nil]
    exact ensures_pure fun _ x hx => absurd hx List.not_mem_nil
  | cons x xs ih =>
    have hx := h x List.mem_cons_self
    have hxs := ih fun y hy => h y (List.mem_cons_of_mem x hy)
    rw [List.mapM_cons]
    refine hx.bind fun y => hxs.bind fun ys => ensures_pure fun _ hrest hfirst z hz => ?_
    rcases List.mem_cons.mp hz with rfl | hz
    · exact ⟨y, List.mem_cons_self, hfirst⟩
    · obtain ⟨w, hw, hzw⟩ := hrest z hz
      exact ⟨w, List.mem_cons_of_mem y hw, hzw⟩

theorem ensures_known (t : TypeRef) :
    d.Ensures (d.known t) fun s _ => d.settled.shape? t.base = some s := by
  unfold known
  split
  · next s hs => exact ensures_pure fun _ => hs
  · exact ensures_throw _

end Steps

/-- Reading checks the fields of the input types that it takes, and ensures nothing else. -/
abbrev Goes (d : Draft) (m : Resolving α) : Prop := d.Ensures m fun _ _ => True

section Reading
variable {enter : String → Resolving Unit}

theorem Ensures.goes {m : Resolving α} {P : α → List String → Prop} (h : d.Ensures m P) : d.Goes m :=
  h.mono fun _ _ _ => trivial

theorem goes_pure (a : α) : d.Goes (pure a : Resolving α) := ensures_pure fun _ => trivial

theorem Ensures.followed {m : Resolving α} {f : α → Resolving β} (hm : d.Goes m) (hf : ∀ a, d.Goes (f a)) :
    d.Goes (m >>= f) :=
  hm.bind fun a => (hf a).mono fun _ _ _ _ => trivial

theorem goes_throughType {isNull : Bool} {items : Option (TypeRef → Resolving Bool)}
    {atName : String → Resolving Bool} {t : TypeRef} (hitems : ∀ f ∈ items, ∀ u : TypeRef, d.Goes (f u))
    (hname : ∀ n, d.Goes (atName n)) : d.Goes (throughType isNull items atName t) := by
  induction t with
  | named n =>
    unfold throughType
    split
    · exact goes_pure _
    · exact hname n
  | nonNull t ih =>
    unfold throughType
    split
    · exact goes_pure _
    · exact ih
  | list t ih =>
    unfold throughType
    split
    · exact goes_pure _
    · split
      · next f => exact hitems f rfl t
      · exact ih

theorem goes_readItems {items : List (TypeRef → Resolving Bool)} {t : TypeRef}
    (hitems : ∀ f ∈ items, d.Goes (f t)) : d.Goes (readItems items t) := by
  induction items with
  | nil => exact goes_pure _
  | cons f items ih =>
    refine (hitems f List.mem_cons_self).followed fun present => ?_
    split
    · exact ih fun g hg => hitems g (List.mem_cons_of_mem f hg)
    · exact goes_pure _

theorem goes_readFields {given : List (String × (TypeRef → Resolving Bool))} {fs : List InputValue}
    (hgiven : ∀ e ∈ given, ∀ u, d.Goes (e.2 u)) : d.Goes (d.readFields given fs) := by
  induction fs with
  | nil => exact goes_pure _
  | cons f fs ih =>
    have hrest : ∀ present : Bool, d.Goes (if present then d.readFields given fs else pure false) := by
      intro present
      split
      · exact ih
      · exact goes_pure _
    unfold readFields
    split
    · next field hfield =>
      have hmem : (f.name, field) ∈ given := List.mem_reverse.mp (mem_of_lookup hfield)
      exact (hgiven _ hmem f.type).followed hrest
    · exact (goes_pure _).followed hrest

theorem goes_readNamed (henter : ∀ n, d.Goes (enter n)) {l : Constant}
    {given : Option (List (String × (TypeRef → Resolving Bool)))} (n : String)
    (hgiven : ∀ es ∈ given, ∀ e ∈ es, ∀ u, d.Goes (e.2 u)) : d.Goes (d.readNamed enter l given n) := by
  unfold readNamed
  split
  · split
    · next es =>
      refine (henter n).followed fun _ => (goes_readFields (hgiven es rfl)).followed fun present => ?_
      split <;> exact goes_pure _
    · exact goes_pure _
  · split
    · exact goes_pure _
    · exact ensures_throw _
  · exact ensures_throw _

mutual

theorem goes_read (henter : ∀ n, d.Goes (enter n)) : ∀ (l : Constant) (t : TypeRef), d.Goes (d.read enter l t)
  | .null _, t => goes_throughType nofun fun _ => goes_pure _
  | .list m xs, t => by
    refine goes_throughType (fun f hf u => ?_) fun n => goes_readNamed henter n nofun
    rw [← Option.some.inj hf]
    exact goes_readItems fun g hg => goes_itemReadings henter xs g hg u
  | .object m fs, t => by
    refine goes_throughType nofun fun n => goes_readNamed henter n fun es hes => ?_
    rw [← Option.some.inj hes]
    exact goes_fieldReadings henter fs
  | .variable m n, t => goes_throughType nofun fun n => goes_readNamed henter n nofun
  | .int m n, t => goes_throughType nofun fun n => goes_readNamed henter n nofun
  | .float m n, t => goes_throughType nofun fun n => goes_readNamed henter n nofun
  | .string m n b, t => goes_throughType nofun fun n => goes_readNamed henter n nofun
  | .bool m b, t => goes_throughType nofun fun n => goes_readNamed henter n nofun
  | .enum m n, t => goes_throughType nofun fun n => goes_readNamed henter n nofun

theorem goes_itemReadings (henter : ∀ n, d.Goes (enter n)) :
    ∀ (xs : List Constant), ∀ f ∈ d.itemReadings enter xs, ∀ u, d.Goes (f u)
  | [], f, hf, _ => absurd hf List.not_mem_nil
  | x :: xs, f, hf, u => by
    rcases List.mem_cons.mp hf with rfl | hf
    · exact goes_read henter x u
    · exact goes_itemReadings henter xs f hf u

theorem goes_fieldReadings (henter : ∀ n, d.Goes (enter n)) :
    ∀ (fs : List (Unit × String × Constant)), ∀ e ∈ d.fieldReadings enter fs, ∀ u, d.Goes (e.2 u)
  | [], e, he, _ => absurd he List.not_mem_nil
  | (_, n, v) :: fs, e, he, u => by
    rcases List.mem_cons.mp he with rfl | he
    · exact goes_read henter v u
    · exact goes_fieldReadings henter fs e he u

end

theorem ensures_resolveInput (henter : ∀ n, d.Goes (enter n)) (wrong : BuildError) (v : InputValue) :
    d.Ensures (d.resolveInput enter wrong v) fun _ _ => v.Fits d.settled := by
  refine (ensures_known v.type).bind fun s => ?_
  have hrest : d.Ensures (do
      Build.sound (Build.deprecation v.applied)
      if !s.isInput then throw wrong : Resolving Unit)
      fun _ _ => d.settled.shape? v.type.base = some s → v.Fits d.settled := by
    refine (ensures_lift _).bind fun _ => (ensures_unless s.isInput wrong).mono ?_
    intro _ _ hinput hdeprecation hs
    exact ⟨by rw [hs]; exact hinput, hdeprecation⟩
  cases hd : v.default? with
  | none => exact hrest
  | some x =>
    cases x with
    | written l =>
      have hread : d.Goes (discard (d.read enter l v.type)) :=
        (goes_read henter l v.type).followed fun _ => goes_pure ()
      exact hread.bind fun _ => hrest.mono fun _ _ h _ => h
    | value w => exact hrest

end Reading

theorem ensures_takeFields (fuel : Nat) (name : String) :
    d.Ensures (d.takeFields fuel name) fun _ taken => 0 < fuel → name ∈ taken := by
  induction fuel generalizing name with
  | zero => exact ensures_pure fun _ h => absurd h (Nat.lt_irrefl 0)
  | succ fuel ih =>
    -- A name that is new is marked before its fields are looked at.
    obtain ⟨rest, hbody, hrest⟩ : ∃ rest : Resolving Unit,
        (d.takeFields (fuel + 1) name = do
          if (← get).contains name then return ()
          modify (name :: ·)
          rest)
        ∧ d.Ensures rest fun _ _ => d.Checked name := by
      refine ⟨_, rfl, ?_⟩
      cases hs : d.definedShape? name with
      | none =>
        refine ensures_pure fun _ o fs h => ?_
        rw [hs] at h
        cases h
      | some shape =>
        cases shape with
        | input o fs =>
          refine Ensures.within ?_ _
          refine (ensures_forM fun v hv => ensures_resolveInput (fun n => (ih n).goes) _ v).mono ?_
          intro _ _ hfits o' fs' h
          rw [hs] at h
          obtain ⟨-, rfl⟩ := TypeShape.input.inj (Option.some.inj h)
          exact hfits
        | _ =>
          refine ensures_pure fun _ o fs h => ?_
          rw [hs] at h
          cases h
    intro taken a taken' hrun
    have hrun : (if taken.contains name then pure () else modify (name :: ·) >>= fun _ => rest :
        Resolving Unit)
        taken = .ok (a, taken') := by
      rw [hbody] at hrun
      exact hrun
    split at hrun
    · next hmem =>
      -- The name was met before, and whoever met it checks its fields.
      obtain ⟨rfl, rfl⟩ := Prod.mk.inj (Except.ok.inj hrun)
      exact ⟨List.Subset.refl _, fun _ => .inl, fun later h _ => h (List.contains_iff_mem.mp hmem)⟩
    · obtain ⟨hkept, hchecked, hholds⟩ := hrest _ _ _ hrun
      refine ⟨fun n hn => hkept (List.mem_cons_of_mem name hn), fun n hn => ?_,
        fun later h _ => h (hkept List.mem_cons_self)⟩
      rcases hchecked n hn with hn | hn
      · rcases List.mem_cons.mp hn with rfl | hn
        · exact .inr (hholds taken' (List.Subset.refl _))
        · exact .inl hn
      · exact .inr hn

theorem ensures_enter (name : String) : d.Ensures (d.enter name) fun _ taken => name ∈ taken :=
  (ensures_takeFields _ name).mono fun _ _ h => h (Nat.succ_pos _)

theorem ensures_resolveArgument (v : InputValue) :
    d.Ensures (d.resolveArgument v) fun _ _ => v.Fits d.settled :=
  ensures_resolveInput (fun n => (ensures_enter n).goes) _ v

theorem ensures_resolveField (f : Field) : d.Ensures (d.resolveField f) fun _ _ =>
    ((d.settled.shape? f.type.base).any TypeShape.isOutput = true ∧ HasReadableDeprecation f.applied)
      ∧ ∀ v ∈ f.arguments, v.Fits d.settled := by
  refine (ensures_known f.type).bind fun s =>
    (ensures_forM fun v _ => ensures_resolveArgument v).bind fun _ =>
    (ensures_lift _).bind fun _ => (ensures_unless s.isOutput .fieldNotOutput).mono ?_
  intro _ _ houtput hdeprecation hfits hs
  exact ⟨⟨by rw [hs]; exact houtput, hdeprecation⟩, hfits⟩

theorem ensures_resolveNames (names : List String) (ok : TypeShape → Bool) (wrong : BuildError)
    (wrap : BuildError → BuildError) : d.Ensures (d.resolveNames names ok wrong wrap)
      fun _ _ => ∀ n ∈ names, (d.settled.shape? n).any ok = true := by
  refine (ensures_mapM fun n _ => (ensures_known (.named n)).within wrap).bind fun shapes =>
    (ensures_unless (shapes.all ok) wrong).mono ?_
  intro _ _ hall hshapes n hn
  obtain ⟨s, hs, hshape⟩ := hshapes n hn
  have hknown : d.settled.shape? n = some s := hshape
  rw [hknown]
  exact List.all_eq_true.mp hall s hs

theorem ensures_resolveMembers (shape : TypeShape) (name : String) (hmembers : shape.members = [])
    (hinputs : shape.inputs = shape.fields.flatMap (·.arguments)) :
    d.Ensures (d.resolveMembers name shape.interfaces shape.fields) fun _ _ => shape.Refers d.settled := by
  refine (ensures_resolveNames _ _ _ _).bind fun _ => (Ensures.within
    (ensures_forM fun f _ => ensures_resolveField f) _).mono ?_
  intro _ _ hfields hinterfaces
  refine ⟨hinterfaces, fun n hn => ?_, fun f hf => (hfields f hf).1, fun v hv => ?_⟩
  · rw [hmembers] at hn
    cases hn
  · rw [hinputs] at hv
    obtain ⟨f, hf, hv⟩ := List.mem_flatMap.mp hv
    exact (hfields f hf).2 v hv

theorem ensures_resolveType (t : NamedType) : d.Ensures (d.resolveType t) fun _ taken =>
    (∃ o fs, t.shape = .input o fs) ∧ t.name ∈ taken ∨ t.shape.Refers d.settled := by
  unfold resolveType
  cases hs : t.shape with
  | object is fs =>
    exact (ensures_resolveMembers (.object is fs) t.name rfl rfl).mono fun _ _ => .inr
  | interface is fs =>
    exact (ensures_resolveMembers (.interface is fs) t.name rfl rfl).mono fun _ _ => .inr
  | union ms =>
    refine (ensures_resolveNames ms TypeShape.isObject _ _).mono fun _ _ hall => .inr ?_
    exact ⟨nofun, hall, nofun, nofun⟩
  | input o fs => exact (ensures_enter t.name).mono fun _ _ htaken => .inl ⟨⟨o, fs, rfl⟩, htaken⟩
  | scalar url => exact ensures_pure fun _ => .inr ⟨nofun, nofun, nofun, nofun⟩
  | enum vs => exact ensures_pure fun _ => .inr ⟨nofun, nofun, nofun, nofun⟩

/-- All references of the types of a draft that resolved are good, and so are the arguments. -/
theorem refers_of_resolve {arguments : List InputValue} (hnodup : (d.types.map (·.name)).Nodup)
    (h : d.resolve arguments = .ok ()) :
    (∀ t ∈ d.types, t.shape.Refers d.settled) ∧ ∀ v ∈ arguments, v.Fits d.settled := by
  have hall : d.Ensures (arguments.forM d.resolveArgument >>= fun _ => d.types.forM d.resolveType)
      fun _ taken => (∀ v ∈ arguments, v.Fits d.settled)
        ∧ ∀ t ∈ d.types, (∃ o fs, t.shape = .input o fs) ∧ t.name ∈ taken ∨ t.shape.Refers d.settled :=
    (ensures_forM fun v _ => ensures_resolveArgument v).bind fun _ =>
      (ensures_forM fun t _ => ensures_resolveType t).mono fun _ _ htypes hfits => ⟨hfits, htypes⟩
  obtain ⟨taken, hrun⟩ :
      ∃ taken, (arguments.forM d.resolveArgument >>= fun _ => d.types.forM d.resolveType) []
      = .ok ((), taken) := by
    unfold resolve at h
    change ((arguments.forM d.resolveArgument >>= fun _ => d.types.forM d.resolveType) []).map (·.1) = _ at h
    cases hrun : (arguments.forM d.resolveArgument >>= fun _ => d.types.forM d.resolveType) [] with
    | error e =>
      rw [hrun] at h
      cases h
    | ok r => exact ⟨r.2, rfl⟩
  obtain ⟨-, hchecked, hholds⟩ := hall _ _ _ hrun
  obtain ⟨hfits, htypes⟩ := hholds taken (List.Subset.refl _)
  refine ⟨fun t ht => ?_, hfits⟩
  rcases htypes t ht with ⟨⟨o, fs, hs⟩, htaken⟩ | hrefers
  · have hshape : d.definedShape? t.name = some (.input o fs) := by
      rw [definedShape?, find?_of_mem hnodup ht, Option.map_some, hs]
    have hfields := (hchecked _ htaken).resolve_left List.not_mem_nil o fs hshape
    rw [hs]
    exact ⟨nofun, nofun, nofun, hfields⟩
  · exact hrefers

end Subgraph.Build.Draft
