import Subgraph.Proofs.StableLiterals

/-!
# Values that keep their text

A value of an input type is written as a literal that is stable for every schema with the same inputs, as
far as these are read: field by field the same types, with a default only where there was one. Two values
are left out, whose text means another value: the negative zero of a scalar that is not the one of floats,
and an identifier of digits with a line feed behind them.
-/

namespace Subgraph

/-- Zero with a minus sign. -/
def Double.isNegativeZero : Double → Bool
  | .finite true 0 _ => true
  | _ => false

namespace Value

mutual
/-- Whether no part of a value loses its sign or its line feed where it is written. -/
def isSteady (s : Schema) : Value → TypeRef → Bool
  | .list xs, t =>
    match t.nullable with
    | .list item => (steadyItems s xs).all (· item)
    | _ => true
  | .record es, t =>
    match s.shape? t.nullable.base with
    | some (.input _ fs) =>
      let parts := steadyEntries s es
      fs.all fun f => (parts.lookup f.name).all (· f.type)
    | _ => true
  | .float d, t => t.base == "Float" || !d.isNegativeZero
  | .text x, t => !(t.base == "ID" && isWholeNumber x && x.toList.getLast? == some '\n')
  | _, _ => true
def steadyItems (s : Schema) : List Value → List (TypeRef → Bool)
  | [] => []
  | x :: xs => isSteady s x :: steadyItems s xs
def steadyEntries (s : Schema) : List (String × Value) → List (String × (TypeRef → Bool))
  | [] => []
  | (n, v) :: r => (n, isSteady s v) :: steadyEntries s r
end

theorem steadyItems_eq_map (s : Schema) (xs : List Value) : steadyItems s xs = xs.map (isSteady s) := by
  induction xs with
  | nil => rfl
  | cons x xs ih => rw [steadyItems, ih, List.map_cons]

theorem steadyEntries_eq_map (s : Schema) (es : List (String × Value)) :
    steadyEntries s es = es.map fun e => (e.1, isSteady s e.2) := by
  induction es with
  | nil => rfl
  | cons e es ih => rw [steadyEntries, ih, List.map_cons]

end Value

/-- Shapes of one input type in two schemas: both accept the same scalars, values or fields, and a field
has a default in the second one only if it has one in the first. -/
inductive TypeShape.Echoes (s : Schema) : TypeShape → TypeShape → Prop where
  | scalar (url url' : Option String) : Echoes s (.scalar url) (.scalar url')
  | enum {vs vs' : List EnumValue} (names : vs'.map (·.name) = vs.map (·.name)) :
      Echoes s (.enum vs) (.enum vs')
  | input {o : Bool} {fs : List InputValue} {r : InputValue → InputValue} (name : ∀ f, (r f).name = f.name)
      (type : ∀ f, (r f).type = f.type) (absent : ∀ f ∈ fs, f.default s = none → (r f).default? = none) :
      Echoes s (.input o fs) (.input o (fs.map r))

/-- The input types of a schema are those of another one, as far as they are there. -/
structure Schema.Echoes (s s' : Schema) : Prop where
  shape : ∀ n sh sh', s.shape? n = some sh → sh.isInput = true → s'.shape? n = some sh' → sh.Echoes s sh'
  inside : ∀ n o fs, s'.shape? n = some (.input o fs) → ∀ f ∈ fs, (s'.shape? f.type.base).isSome = true

/-- The names and types of the inputs of a schema can be written. -/
structure Schema.HasLegibleInputs (s : Schema) : Prop where
  values : ∀ n vs, s.shape? n = some (.enum vs) →
    ∀ v ∈ vs, Token.isName v.name = true ∧ v.name ∉ Parser.reservedWords
  fields : ∀ n o fs, s.shape? n = some (.input o fs) →
    ∀ f ∈ fs, Token.isName f.name = true ∧ f.type.IsWritable
  distinct : ∀ n o fs, s.shape? n = some (.input o fs) → (fs.map (·.name)).Nodup

namespace Value
open Literal

/-- What a value other than null of a scalar or an enum is. -/
inductive LeafOf (n : String) : TypeShape → Value → Prop where
  | enum {vs : List EnumValue} {m : String} (known : m ∈ vs.map (·.name)) : LeafOf n (.enum vs) (.text m)
  | int {url : Option String} {k : Int} (name : n = "Int") (fits : fitsInt k = true) :
      LeafOf n (.scalar url) (.int k)
  | float {url : Option String} {d : Double} (name : n = "Float") (canonical : d.IsCanonical) :
      LeafOf n (.scalar url) (.float d)
  | text {url : Option String} {x : String} (name : n = "String") : LeafOf n (.scalar url) (.text x)
  | bool {url : Option String} {b : Bool} (name : n = "Boolean") : LeafOf n (.scalar url) (.bool b)
  | id {url : Option String} {x : String} (name : n = "ID") : LeafOf n (.scalar url) (.text x)
  | custom {url : Option String} {l : Constant} (name : n ∉ builtinScalarNames)
      (there : l.plainValue [] ≠ .missing) : LeafOf n (.scalar url) (l.plainValue [])

theorem leafOf_value {n : String} {shape : TypeShape} {l : Constant} {v : Value}
    (h : leafValue? [] n shape l = some v) : LeafOf n shape v := by
  unfold leafValue? at h
  split at h
  · next vs =>
    split at h
    · split at h
      · next hknown =>
        rw [← Option.some.inj h]
        exact .enum (by simpa [List.any_eq_true, List.mem_map] using hknown)
      · cases h
    · cases h
  · split at h
    · split at h
      · next hfits =>
        rw [← Option.some.inj h]
        exact .int rfl hfits
      · cases h
    · rw [← Option.some.inj h]
      exact .float rfl (Double.canonical_doubleOfText _)
    · rw [← Option.some.inj h]
      exact .float rfl (Double.canonical_doubleOfText _)
    · rw [← Option.some.inj h]
      exact .text rfl
    · rw [← Option.some.inj h]
      exact .bool rfl
    · rw [← Option.some.inj h]
      exact .id rfl
    · rw [← Option.some.inj h]
      exact .id rfl
    · split at h
      · cases h
      next hname =>
      split at h
      · cases h
      · next hmissing =>
        rw [← Option.some.inj h]
        exact .custom (by simpa using hname) hmissing
  · cases h

theorem leafValue?_custom {n : String} (hn : n ∉ builtinScalarNames) (url : Option String) {l : Constant}
    (hl : l.plainValue [] ≠ .missing) : leafValue? [] n (.scalar url) l = some (l.plainValue []) := by
  have hcontains : builtinScalarNames.contains n = false := by simpa using hn
  unfold leafValue?
  dsimp only
  split
  all_goals try exact absurd (by decide) hn
  rw [hcontains, if_neg Bool.false_ne_true]
  split
  · next h => exact absurd h hl
  · rfl

theorem plainValue_data (l : Constant) : (∀ k as, l.plainValue [] ≠ .object k as)
    ∧ ∀ f, l.plainValue [] ≠ .failure f := by
  cases l with
  | int _ s =>
    rw [plainValue, plainInt]
    split <;> simp
  | _ => simp [plainValue]

theorem natAbs_lt_of_plain : ∀ {l : Constant} {k : Int}, l.plainValue [] = .int k →
    k.natAbs < 10 ^ Numeral.mostDigits
  | .int _ s, k, h => by
    rw [plainValue, plainInt] at h
    split at h
    · next n hn =>
      obtain rfl := Value.int.inj h
      exact natAbs_lt_of_numeral hn
    · cases h

theorem canonical_of_plain : ∀ {l : Constant} {d : Double}, l.plainValue [] = .float d → d.IsCanonical
  | .int _ s, d, h => by
    rw [plainValue, plainInt] at h
    split at h
    · cases h
    · rw [← Value.float.inj h]
      trivial
  | .float _ s, d, h => by
    rw [← Value.float.inj h]
    exact Double.canonical_doubleOfText s

section Floats
variable {d : Double}

theorem writable_floatDigits (hd : d.IsCanonical) (hfinite : d.isFinite = true) :
    (Literal.float () (floatDigits d)).reread.IsWritable := by
  obtain ⟨negative, m, e⟩ := d
  · rw [reread]
    split
    · next hwhole =>
      obtain ⟨whole, htext, hdigits, -⟩ := Double.wholeDigits_floatDigits hd negative hwhole
      exact Double.isIntText_numberText hdigits negative htext
    · next hwhole => exact Double.isFloatText_floatDigits hd negative (Bool.eq_false_iff.mpr hwhole)
  · cases hfinite
  · cases hfinite

theorem doubleOfText_digits (hd : d.IsCanonical) (hfinite : d.isFinite = true) :
    doubleOfText (floatDigits d) = d := by
  obtain ⟨negative, m, e⟩ := d
  · exact Double.doubleOfText_floatDigits hd negative
  · cases hfinite
  · cases hfinite

theorem plainInt_digits (hd : d.IsCanonical) (hfinite : d.isFinite = true) (hsign : d.isNegativeZero = false)
    (hwhole : isWholeText (floatDigits d) = true) :
    ∃ k : Int, plainInt (floatDigits d) = .int k ∧ toString k = floatDigits d := by
  obtain ⟨negative, m, e⟩ := d
  · refine plainInt_floatDigits hd hwhole ?_
    rintro ⟨rfl, rfl⟩
    cases hsign
  · cases hfinite
  · cases hfinite

end Floats

/-- Digits without the minus sign in front of them. -/
def unsigned : List Char → List Char
  | '-' :: r => r
  | cs => cs

theorem sign_unsigned (cs : List Char) : ∃ negative, cs = Double.signText negative ++ unsigned cs := by
  unfold unsigned
  split
  · exact ⟨true, rfl⟩
  · exact ⟨false, rfl⟩

theorem isIntText_of_wholeNumber {x : String} (h : isWholeNumber x = true)
    (hlast : (x.toList.getLast? == some '\n') = false) : Token.IsIntText x := by
  have hdigits : Token.WholeDigits (unsigned x.toList) := by
    simp only [isWholeNumber, if_neg (beq_eq_false_iff_ne.mp hlast)] at h
    split at h
    · next hds => exact .inl hds
    · next c r _ hds =>
      obtain ⟨hzero, hall⟩ := Bool.and_eq_true_iff.mp h
      have hds : unsigned x.toList = c :: r := hds
      rw [hds]
      refine .inr ⟨⟨List.cons_ne_nil c r, hall⟩, ?_⟩
      simpa using hzero
    · cases h
  obtain ⟨negative, htext⟩ := sign_unsigned x.toList
  exact Double.isIntText_numberText hdigits negative htext

section Leaves
variable {s s' : Schema} {n : String} {v : Value}

/-- The text of a value means another value that is written alike. -/
def Echoed (s s' : Schema) (v : Value) (t : TypeRef) : Prop :=
  ∃ l, v.literal? s t = some l ∧ l.reread.IsStable s' t ∧ l.reread.IsWritable

theorem isFinite_of_writable {d : Double} {t : TypeRef} (h : (Value.float d).unwritable? s t = none) :
    d.isFinite = true := by
  rw [unwritable?] at h
  split at h
  · next hfinite => exact hfinite
  · cases h

theorem echoed_enum {vs vs' : List EnumValue} {m : String} (hs : s.shape? n = some (.enum vs))
    (hs' : s'.shape? n = some (.enum vs')) (hinputs : s.HasLegibleInputs) (hm : m ∈ vs.map (·.name))
    (names : vs'.map (·.name) = vs.map (·.name)) : Echoed s s' (.text m) (.named n) := by
  obtain ⟨w, hw, rfl⟩ := List.mem_map.mp hm
  have hknown : (vs'.any fun v => v.name == w.name) = true := by
    rw [← names] at hm
    simpa [List.any_eq_true, List.mem_map] using hm
  refine ⟨.enum () w.name, by simp [literal?, TypeRef.base, hs, leafLiteral?], ?_,
    hinputs.values n vs hs w hw⟩
  refine stable_leaf hs' (by simp [reread]) (by simp [reread]) rfl (v := .text w.name) ?_ rfl ?_
  · simp [reread, leafValue?, hknown]
  · simp [literal?, TypeRef.base, hs', leafLiteral?, reread]

section Scalars
variable {url url' : Option String} (hs : s.shape? n = some (.scalar url))
  (hs' : s'.shape? n = some (.scalar url'))
include hs hs'

theorem echoed_int {k : Int}
    (hread : leafValue? [] n (.scalar url') (.int () (toString k)) = some (.int k)) :
    Echoed s s' (.int k) (.named n) := by
  refine ⟨.int () (toString k), by simp [literal?, TypeRef.base, hs, leafLiteral?], ?_, isIntText_toString k⟩
  refine stable_leaf hs' (by simp [reread]) (by simp [reread]) rfl hread rfl ?_
  simp [literal?, TypeRef.base, hs', leafLiteral?, reread]

theorem echoed_bool {b : Bool} (hread : leafValue? [] n (.scalar url') (.bool () b) = some (.bool b)) :
    Echoed s s' (.bool b) (.named n) := by
  refine ⟨.bool () b, by simp [literal?, TypeRef.base, hs, leafLiteral?], ?_, trivial⟩
  refine stable_leaf hs' (by simp [reread]) (by simp [reread]) rfl hread rfl ?_
  simp [literal?, TypeRef.base, hs', leafLiteral?, reread]

theorem echoed_text {x : String} (hx : (n == "ID" && isWholeNumber x) = false)
    (hread : leafValue? [] n (.scalar url') (.string () x false) = some (.text x)) :
    Echoed s s' (.text x) (.named n) := by
  refine ⟨.string () x false, by simp [literal?, TypeRef.base, hs, leafLiteral?, hx], ?_, by simp [reread, Literal.IsWritable]⟩
  refine stable_leaf hs' (by simp [reread]) (by simp [reread]) rfl hread rfl ?_
  simp [literal?, TypeRef.base, hs', leafLiteral?, reread, hx]

/-- A finite number is written with its digits, and read as a number with these digits, if need be as an
integer. -/
theorem echoed_float {d : Double} (hd : d.IsCanonical) (hfinite : d.isFinite = true)
    (hread : isWholeText (floatDigits d) = false →
      leafValue? [] n (.scalar url') (.float () (floatDigits d)) = some (.float d))
    (hwhole : isWholeText (floatDigits d) = true →
      ∃ w : Value, leafValue? [] n (.scalar url') (.int () (floatDigits d)) = some w
        ∧ (w = .float d ∨ ∃ k : Int, w = .int k ∧ toString k = floatDigits d)) :
    Echoed s s' (.float d) (.named n) := by
  have hwritten : (Value.float d).literal? s (.named n) = some (.float () (floatDigits d)) := by
    simp [literal?, TypeRef.base, hs, leafLiteral?, hfinite]
  refine ⟨_, hwritten, ?_, writable_floatDigits hd hfinite⟩
  have hagain : (Value.float d).literal? s' (.named n) = some (.float () (floatDigits d)) := by
    simp [literal?, TypeRef.base, hs', leafLiteral?, hfinite]
  have hnone : (Value.float d).unwritable? s' (.named n) = none := by simp [unwritable?, hfinite]
  cases hdigits : isWholeText (floatDigits d) with
  | false =>
    have hreread : (Literal.float () (floatDigits d)).reread = .float () (floatDigits d) := by
      simp [reread, hdigits]
    rw [hreread]
    exact stable_leaf hs' (by simp) (by simp) rfl (hread hdigits) hnone
      (by rw [hagain, Option.map_some, hreread])
  | true =>
    have hreread : (Literal.float () (floatDigits d)).reread = .int () (floatDigits d) := by
      simp [reread, hdigits]
    rw [hreread]
    obtain ⟨w, hvalue, rfl | ⟨k, rfl, hk⟩⟩ := hwhole hdigits
    · exact stable_leaf hs' (by simp) (by simp) rfl hvalue hnone
        (by rw [hagain, Option.map_some, hreread])
    · refine stable_leaf hs' (by simp) (by simp) rfl hvalue rfl ?_
      simp [literal?, TypeRef.base, hs', leafLiteral?, reread, hk]

theorem echoed_id {x : String} (name : n = "ID")
    (hsteady : (Value.text x).isSteady s (.named n) = true) : Echoed s s' (.text x) (.named n) := by
  subst name
  cases hx : isWholeNumber x with
  | false => exact echoed_text hs hs' (by rw [hx, Bool.and_false]) (by simp [leafValue?])
  | true =>
    have hlast : (x.toList.getLast? == some '\n') = false := by
      simpa [isSteady, TypeRef.base, hx] using hsteady
    refine ⟨.int () x, by simp [literal?, TypeRef.base, hs, leafLiteral?, hx], ?_,
      isIntText_of_wholeNumber hx hlast⟩
    refine stable_leaf hs' (by simp [reread]) (by simp [reread]) rfl (v := .text x)
      (by simp [reread, leafValue?]) rfl ?_
    simp [literal?, TypeRef.base, hs', leafLiteral?, reread, hx]

theorem echoed_custom {l : Constant} (name : n ∉ builtinScalarNames) (hnull : l.plainValue [] ≠ .null)
    (there : l.plainValue [] ≠ .missing) (hwritable : (l.plainValue []).unwritable? s (.named n) = none)
    (hsteady : (l.plainValue []).isSteady s (.named n) = true) :
    Echoed s s' (l.plainValue []) (.named n) := by
  have hid : (n == "ID") = false := beq_eq_false_iff_ne.mpr fun heq => name (heq ▸ by decide)
  cases hl : l.plainValue [] with
  | null => exact absurd hl hnull
  | bool b => exact echoed_bool hs hs' (leafValue?_custom name _ (by simp [plainValue]))
  | text x =>
    exact echoed_text hs hs' (by rw [hid, Bool.false_and])
      (leafValue?_custom name _ (by simp [plainValue]))
  | int k =>
    have hk := plainInt_toString (natAbs_lt_of_plain hl)
    refine echoed_int hs hs' ?_
    rw [leafValue?_custom name _ (by rw [plainValue, hk]; simp), plainValue, hk]
  | float d =>
    rw [hl] at hwritable hsteady
    have hfinite := isFinite_of_writable hwritable
    have hcanonical := canonical_of_plain hl
    have hsign : d.isNegativeZero = false := by
      have hfloat : (n == "Float") = false :=
        beq_eq_false_iff_ne.mpr fun heq => name (heq ▸ by decide)
      simpa [isSteady, TypeRef.base, hfloat] using hsteady
    refine echoed_float hs hs' hcanonical hfinite (fun _ => ?_) fun hwhole => ?_
    · rw [leafValue?_custom name _ (l := .float () _) (by simp [plainValue]), plainValue,
        doubleOfText_digits hcanonical hfinite]
    · obtain ⟨k, hk, htext⟩ := plainInt_digits hcanonical hfinite hsign hwhole
      refine ⟨.int k, ?_, .inr ⟨k, rfl, htext⟩⟩
      rw [leafValue?_custom name _ (by rw [plainValue, hk]; simp), plainValue, hk]
  | list xs => rw [hl] at hwritable; cases hwritable
  | record es =>
    rw [hl] at hwritable
    simp [unwritable?, TypeRef.nullable, TypeRef.base, hs] at hwritable
  | missing => exact absurd hl there
  | object k as => exact absurd hl ((plainValue_data l).1 k as)
  | failure f => exact absurd hl ((plainValue_data l).2 f)

end Scalars

theorem echoed_leaf {shape shape' : TypeShape} (hs : s.shape? n = some shape)
    (hs' : s'.shape? n = some shape')
    (hinputs : s.HasLegibleInputs) (hecho : shape.Echoes s shape') (hleaf : LeafOf n shape v)
    (hnull : v ≠ .null)
    (hwritable : v.unwritable? s (.named n) = none) (hsteady : v.isSteady s (.named n) = true) :
    Echoed s s' v (.named n) := by
  cases hleaf with
  | enum known =>
    cases hecho with
    | enum names => exact echoed_enum hs hs' hinputs known names
  | int name fits =>
    cases hecho
    subst name
    exact echoed_int hs hs' (by simp only [leafValue?, intOfText_toString, fits, if_true])
  | float name canonical =>
    cases hecho
    subst name
    have hfinite := isFinite_of_writable hwritable
    have hdigits := doubleOfText_digits canonical hfinite
    exact echoed_float hs hs' canonical hfinite (fun _ => by simp [leafValue?, hdigits])
      fun _ => ⟨_, by simp [leafValue?, hdigits], .inl rfl⟩
  | text name =>
    cases hecho
    subst name
    exact echoed_text hs hs' rfl (by simp [leafValue?])
  | bool name =>
    cases hecho
    subst name
    exact echoed_bool hs hs' (by simp [leafValue?])
  | id name =>
    cases hecho
    exact echoed_id hs hs' name hsteady
  | custom name there =>
    cases hecho
    exact echoed_custom hs hs' name hnull there hwritable hsteady

end Leaves

section Composite
variable {s s' : Schema}

theorem leafLiteral?_ne_null {v : Value} (hv : v ≠ .null) (isEnum isIdentifier : Bool) :
    leafLiteral? isEnum isIdentifier v ≠ some (.null ()) := by
  cases v with
  | null => exact absurd rfl hv
  | text x =>
    simp only [leafLiteral?]
    split
    · simp
    · split <;> simp
  | float d =>
    simp only [leafLiteral?]
    split <;> simp
  | _ => simp [leafLiteral?]

theorem literal?_ne_null {v : Value} (hv : v ≠ .null) (t : TypeRef) : v.literal? s t ≠ some (.null ()) := by
  cases v with
  | null => exact absurd rfl hv
  | list xs =>
    simp only [literal?]
    split <;> simp
  | record es =>
    simp only [literal?]
    split <;> simp
  | _ =>
    simp only [literal?]
    split
    · exact leafLiteral?_ne_null hv _ _
    · exact leafLiteral?_ne_null hv _ _
    · simp

theorem echoed_nonNull {v : Value} {t : TypeRef} (h : Echoed s s' v t) (hv : v ≠ .null)
    (ht : t.isNonNull = false) :
    Echoed s s' v (.nonNull t) := by
  obtain ⟨l, hwritten, hstable, hwritable⟩ := h
  have hl : l.reread ≠ .null () := fun heq => literal?_ne_null hv t (reread_eq_null heq ▸ hwritten)
  exact ⟨l, by rw [literal?_nonNull hv ht, hwritten], hstable.nonNull hl ht, hwritable⟩

theorem echoed_list {xs : List Value} {t : TypeRef} (h : ∀ x ∈ xs, Echoed s s' x t) :
    Echoed s s' (.list xs) (.list t) := by
  let text : Value → Constant := fun x => (x.literal? s t).getD (.null ())
  have htext : ∀ x ∈ xs, x.literal? s t = some (text x) ∧ (text x).reread.IsStable s' t
      ∧ (text x).reread.IsWritable := by
    intro x hx
    obtain ⟨l, hl, hstable, hwritable⟩ := h x hx
    have heq : text x = l := by simp [text, hl]
    rw [heq]
    exact ⟨hl, hstable, hwritable⟩
  have hwritten : (xs.filterMap fun x => x.literal? s t) = xs.map text := by
    rw [← List.filterMap_eq_map]
    exact filterMap_eq_of_mem fun x hx => (htext x hx).1
  have hreread : (Literal.list () (xs.map text)).reread = .list () (xs.map fun x => (text x).reread) := by
    rw [reread, rereadItems_eq_map, List.map_map]
    rfl
  refine ⟨.list () (xs.map text), ?_, ?_, ?_⟩
  · simp only [literal?, TypeRef.nullable, itemLiterals_eq_map, List.filterMap_map]
    exact congrArg (fun ls => some (Literal.list () ls)) hwritten
  · rw [hreread]
    refine stable_list fun l hl => ?_
    obtain ⟨x, hx, rfl⟩ := List.mem_map.mp hl
    exact (htext x hx).2.1
  · rw [hreread]
    refine itemsWritable_iff.mpr fun l hl => ?_
    obtain ⟨x, hx, rfl⟩ := List.mem_map.mp hl
    exact (htext x hx).2.2

theorem echoed_record {n : String} {o : Bool} {fs : List InputValue} {g : InputValue → Option Value}
    (hs : s.shape? n = some (.input o fs)) {r : InputValue → InputValue}
    (hs' : s'.shape? n = some (.input o (fs.map r))) (hrname : ∀ f, (r f).name = f.name)
    (hrtype : ∀ f, (r f).type = f.type) (hrabsent : ∀ f ∈ fs, f.default s = none → (r f).default? = none)
    (hdistinct : (fs.map (·.name)).Nodup) (hnames : ∀ f ∈ fs, Token.isName f.name = true)
    (given : ∀ f ∈ fs, ∀ v, g f = some v → Echoed s s' v f.type)
    (absent : ∀ f ∈ fs, g f = none → f.type.isNonNull = false ∧ f.default s = none)
    (one : o = true → hasOneValue (entriesOf fs g) = true) :
    Echoed s s' (.record (entriesOf fs g)) (.named n) := by
  -- The literal of a field, which is there where the field has a value.
  let k : InputValue → Option Constant := fun f => (g f).bind fun v => v.literal? s f.type
  have hk : ∀ f ∈ fs, ∀ v, g f = some v → ∃ l, k f = some l ∧ v.literal? s f.type = some l
      ∧ l.reread.IsStable s' f.type ∧ l.reread.IsWritable := by
    intro f hf v hv
    obtain ⟨l, hl, hstable, hwritable⟩ := given f hf v hv
    exact ⟨l, by simp [k, hv, hl], hl, hstable, hwritable⟩
  have hsome : ∀ f ∈ fs, (k f).isSome = (g f).isSome := by
    intro f hf
    cases hg : g f with
    | none => simp [k, hg]
    | some v =>
      obtain ⟨l, hl, -⟩ := hk f hf v hg
      rw [hl]
      rfl
  have hof : ∀ f ∈ fs, ∀ l, (k f).map reread = some l → l.IsStable s' f.type ∧ l.IsWritable := by
    intro f hf l hl
    obtain ⟨l', hl', rfl⟩ := Option.map_eq_some_iff.mp hl
    obtain ⟨v, hv, -⟩ := Option.bind_eq_some_iff.mp hl'
    obtain ⟨l'', hl'', -, hstable, hwritable⟩ := hk f hf v hv
    obtain rfl := Option.some.inj (hl'.symm.trans hl'')
    exact ⟨hstable, hwritable⟩
  refine ⟨.object () (fieldsOf fs k), ?_, ?_, ?_⟩
  · simp only [literal?, TypeRef.nullable, TypeRef.base, hs, entryLiterals_eq_map, lookup_map_values]
    refine congrArg (fun xs => some (Literal.object () xs)) (filterMap_eq_of_mem fun f hf => ?_)
    have hget : (entriesOf fs g).lookup f.name = g f := get?_entriesOf hdistinct g hf
    rw [hget]
    cases hg : g f <;> simp [k, hg]
  · rw [reread_fieldsOf]
    refine stable_object hs' hrname hrtype hdistinct (fun f hf l hl => (hof f hf l hl).1) ?_ ?_
    · intro f hf hnone
      have hg : g f = none := by
        have hisSome := hsome f hf
        rw [Option.map_eq_none_iff.mp hnone] at hisSome
        exact Option.isNone_iff_eq_none.mp (by simpa using hisSome.symm)
      obtain ⟨hnull, hdefault⟩ := absent f hf hg
      exact ⟨hnull, hrabsent f hf hdefault⟩
    · intro ho
      obtain ⟨hlength, hnull⟩ := (hasOneValue_entriesOf g).mp (one ho)
      refine ⟨?_, fun f hf hl => ?_⟩
      · rw [← hlength]
        refine congrArg List.length (List.filter_congr fun f hf => ?_)
        rw [Option.isSome_map, hsome f hf]
      · obtain ⟨l', hl', hreread⟩ := Option.map_eq_some_iff.mp hl
        obtain ⟨v, hv, hwritten⟩ := Option.bind_eq_some_iff.mp hl'
        have hvnull : v ≠ .null := fun heq => hnull f hf (heq ▸ hv)
        exact literal?_ne_null hvnull f.type (reread_eq_null hreread ▸ hwritten)
  · rw [reread_fieldsOf]
    exact fieldsWritable_fieldsOf hnames fun f hf l hl => (hof f hf l hl).2

theorem isSteady_nonNull (v : Value) {t : TypeRef} (ht : t.isNonNull = false) :
    v.isSteady s (.nonNull t) = v.isSteady s t := by
  cases t with
  | nonNull t => cases ht
  | list t => cases v <;> rfl
  | named n => cases v <;> rfl

/-- A value of an input type that another schema has as well is written as a literal that is stable there. -/
theorem HasType.echoed (he : s.Echoes s') (hinputs : s.HasLegibleInputs) {v : Value} {t : TypeRef}
    (h : v.HasType s t) (ht : t.IsWritable) (hknown : (s'.shape? t.base).isSome = true)
    (hwritable : v.unwritable? s t = none) (hsteady : v.isSteady s t = true) : Echoed s s' v t := by
  -- The induction is on how the value comes to have its type.
  induction h with
  | null nullable => exact ⟨.null (), by simp [literal?, nullable], stable_null nullable, trivial⟩
  | @nonNull v t some inner ih =>
    have hplain : t.isNonNull = false ∧ t.IsWritable := by
      cases t with
      | nonNull t => cases ht
      | list t => exact ⟨rfl, ht⟩
      | named n => exact ⟨rfl, ht⟩
    rw [unwritable?_nonNull v hplain.1] at hwritable
    rw [isSteady_nonNull v hplain.1] at hsteady
    exact echoed_nonNull (ih hplain.2 hknown hwritable hsteady) some hplain.1
  | @list xs t items ih =>
    simp only [unwritable?, TypeRef.nullable, unwritableItems_eq_map, List.findSome?_map,
      List.findSome?_eq_none_iff] at hwritable
    simp only [isSteady, TypeRef.nullable, steadyItems_eq_map, List.all_map, List.all_eq_true] at hsteady
    exact echoed_list fun x hx => ih x hx ht hknown (hwritable x hx) (hsteady x hx)
  | @leaf v n shape l known value some =>
    obtain ⟨shape', hs'⟩ := Option.isSome_iff_exists.mp hknown
    have hleaf := leafOf_value value
    have hinput : shape.isInput = true := by cases hleaf <;> rfl
    exact echoed_leaf known hs' hinputs (he.shape n shape shape' known hinput hs') hleaf some hwritable
      hsteady
  | @record n o fs g known given absent one ih =>
    obtain ⟨shape', hs'⟩ := Option.isSome_iff_exists.mp hknown
    have hecho := he.shape n _ shape' known rfl hs'
    have hdistinct := hinputs.distinct n o fs known
    have hget : ∀ f ∈ fs, (entriesOf fs g).lookup f.name = g f := fun f hf => get?_entriesOf hdistinct g hf
    cases hecho with
    | @input _ _ r name type absent' =>
    simp only [unwritable?, TypeRef.nullable, TypeRef.base, known, unwritableEntries_eq_map,
      lookup_map_values,
      List.findSome?_eq_none_iff] at hwritable
    simp only [isSteady, TypeRef.nullable, TypeRef.base, known, steadyEntries_eq_map, lookup_map_values,
      List.all_eq_true] at hsteady
    refine echoed_record known hs' name type absent' hdistinct
      (fun f hf => (hinputs.fields n o fs known f hf).1)
      (fun f hf v hv => ?_) absent one
    have hfield := hwritable f hf
    have hfieldSteady := hsteady f hf
    rw [hget f hf, hv] at hfield hfieldSteady
    have hinside : (s'.shape? f.type.base).isSome = true := by
      have hmem := he.inside n o _ hs' (r f) (List.mem_map_of_mem hf)
      rwa [type] at hmem
    exact ih f hf v hv (hinputs.fields n o fs known f hf).2 hinside hfield hfieldSteady

end Composite

end Value
end Subgraph
