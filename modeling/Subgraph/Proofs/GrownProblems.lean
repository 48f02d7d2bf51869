import Mathlib.Data.Finset.Card
import Subgraph.Proofs.GrownWidening
import Subgraph.Proofs.WidenedRules

/-!
# Problems of wide and narrow schemas

A schema that widens a valid one has no problems at the types of that one. The search for input
types that require values of themselves enters each type once, so that it takes the same course
whatever other types there are; with this a valid schema stays valid when it takes the protocol
definitions.
-/

namespace Subgraph
namespace Schema

section Follow
variable {s : Schema}

/-- The fields of an input type. -/
def inputFieldsOf (t : NamedType) : List InputValue :=
  match t.shape with
  | .input _ fs => fs
  | _ => []

/-- Follows one field of a type that is entered. -/
def followField (s : Schema) (fuel : Nat) (path : InputPath) (t : NamedType)
    (acc : List String × List String) (f : InputValue) : List String × List String :=
  match s.requiredInput? f with
  | none => acc
  | some next =>
    match (path ++ [(t.name, f.name)]).dropWhile (·.1 != next.name) with
    | [] => s.followInputs fuel (path ++ [(t.name, f.name)]) next acc
    | cycle => (acc.1, acc.2 ++ [circularProblem next.name (cycle.map (·.2))])

theorem followInputs_succ (fuel : Nat) (path : InputPath) (t : NamedType)
    (acc : List String × List String) : s.followInputs (fuel + 1) path t acc
      = if acc.1.contains t.name then acc
        else (inputFieldsOf t).foldl (s.followField fuel path t) (t.name :: acc.1, acc.2) := by
  rfl

theorem mem_of_requiredInput? {f : InputValue} {next : NamedType}
    (h : s.requiredInput? f = some next) : next ∈ s.types := by
  unfold requiredInput? at h
  split at h
  · next n _ =>
    split at h
    · next u hu =>
      split at h
      · cases h
        exact (Schema.mem_of_type? hu).1
      · cases h
    · cases h
  · cases h

theorem followInputs_grows (fuel : Nat) (path : InputPath) (t : NamedType)
    (acc : List String × List String) : acc.1 ⊆ (s.followInputs fuel path t acc).1 := by
  induction fuel generalizing path t acc with
  | zero => exact fun _ hn => hn
  | succ fuel ih =>
    have hstep : ∀ acc f, acc.1 ⊆ (s.followField fuel path t acc f).1 := by
      intro acc f
      unfold followField
      split
      · exact fun _ hn => hn
      · split
        · exact ih _ _ _
        · exact fun _ hn => hn
    have hfold : ∀ (fs : List InputValue) acc, acc.1 ⊆ (fs.foldl (s.followField fuel path t) acc).1 := by
      intro fs
      induction fs with
      | nil => exact fun _ _ hn => hn
      | cons f fs ihfs => exact fun acc _ hn => ihfs _ (hstep acc f hn)
    rw [followInputs_succ]
    split
    · exact fun _ hn => hn
    · exact fun n hn => hfold _ _ (List.mem_cons_of_mem t.name hn)

/-- How many types of a schema are not entered yet. -/
def unentered (s : Schema) (visited : List String) : Nat :=
  ((s.types.map (·.name)).toFinset \ visited.toFinset).card

theorem unentered_mono {a b : List String} (h : a ⊆ b) : s.unentered b ≤ s.unentered a :=
  Finset.card_le_card fun n hn => by
    rw [Finset.mem_sdiff] at hn ⊢
    exact ⟨hn.1, fun hmem => hn.2 (List.mem_toFinset.mpr (h (List.mem_toFinset.mp hmem)))⟩

theorem unentered_lt {t : NamedType} (ht : t ∈ s.types) {visited : List String}
    (hnew : t.name ∉ visited) : s.unentered (t.name :: visited) < s.unentered visited := by
  refine Finset.card_lt_card ⟨fun n hn => ?_, fun hsub => ?_⟩
  · rw [Finset.mem_sdiff] at hn ⊢
    exact ⟨hn.1, fun hmem => hn.2 (List.mem_toFinset.mpr
      (List.mem_cons_of_mem _ (List.mem_toFinset.mp hmem)))⟩
  · have hmem : t.name ∈ (s.types.map (·.name)).toFinset \ visited.toFinset :=
      Finset.mem_sdiff.mpr ⟨List.mem_toFinset.mpr (List.mem_map_of_mem ht),
        fun h => hnew (List.mem_toFinset.mp h)⟩
    exact (Finset.mem_sdiff.mp (hsub hmem)).2 (List.mem_toFinset.mpr List.mem_cons_self)

theorem followInputs_succ_eq {fuel : Nat} {path : InputPath} {t : NamedType}
    {acc : List String × List String} (ht : t ∈ s.types) (hfuel : s.unentered acc.1 ≤ fuel) :
    s.followInputs (fuel + 1) path t acc = s.followInputs fuel path t acc := by
  -- Each type that is entered leaves one less to enter, so the induction is on the fuel.
  induction fuel generalizing path t acc with
  | zero =>
    have hmem : t.name ∈ acc.1 := by
      by_contra hnew
      exact absurd (unentered_lt ht hnew) (by omega)
    rw [followInputs_succ, if_pos (List.contains_iff_mem.mpr hmem)]
    rfl
  | succ fuel ih =>
    rw [followInputs_succ, followInputs_succ]
    by_cases hmem : acc.1.contains t.name = true
    · rw [if_pos hmem, if_pos hmem]
    rw [if_neg hmem, if_neg hmem]
    have hless : s.unentered (t.name :: acc.1) ≤ fuel := by
      have := unentered_lt ht fun h => hmem (List.contains_iff_mem.mpr h)
      omega
    have hstep : ∀ b : List String × List String, s.unentered b.1 ≤ fuel → ∀ f,
        s.followField (fuel + 1) path t b f = s.followField fuel path t b f := by
      intro b hb f
      unfold followField
      split
      · rfl
      · next next hnext =>
        split
        · exact ih (mem_of_requiredInput? hnext) hb
        · rfl
    have hkeeps : ∀ b : List String × List String, s.unentered b.1 ≤ fuel → ∀ f,
        s.unentered (s.followField fuel path t b f).1 ≤ fuel := by
      intro b hb f
      unfold followField
      split
      · exact hb
      · split
        · exact (unentered_mono (followInputs_grows _ _ _ _)).trans hb
        · exact hb
    exact foldl_eq_of_keeps (I := fun b => s.unentered b.1 ≤ fuel) (fun b hb f _ => hstep b hb f)
      (fun b hb f _ => hkeeps b hb f) hless

theorem unentered_le (visited : List String) : s.unentered visited ≤ s.types.length :=
  (Finset.card_le_card Finset.sdiff_subset).trans
    ((List.toFinset_card_le _).trans (List.length_map _).le)

theorem followInputs_eq {fuel : Nat} (hfuel : s.types.length ≤ fuel) {path : InputPath}
    {t : NamedType} (ht : t ∈ s.types) (acc : List String × List String) :
    s.followInputs fuel path t acc = s.followInputs s.types.length path t acc := by
  induction fuel, hfuel using Nat.le_induction with
  | base => rfl
  | succ fuel hle ih => rw [followInputs_succ_eq ht ((unentered_le _).trans hle), ih]

end Follow

section SameTypes
variable {s s' : Schema} (h : s'.types = s.types)
include h

theorem type?_of_types : s'.type? = s.type? := by
  funext n
  rw [type?, type?, h]

theorem isSubType_of_types : s'.isSubType = s.isSubType := by
  funext a b
  simp only [isSubType, shape?, type?_of_types h]

theorem isSubTypeOf_of_types (a b : TypeRef) : a.isSubTypeOf s' b = a.isSubTypeOf s b := by
  induction a, b using TypeRef.isSubTypeOf.induct with
  | case1 a b ih => exact ih
  | case2 a b => simp only [TypeRef.isSubTypeOf]
  | case3 a b _ ih => simpa only [TypeRef.isSubTypeOf] using ih
  | case4 a b ih => exact ih
  | case5 a b => simp only [TypeRef.isSubTypeOf, isSubType_of_types h]
  | case6 a b => simp only [TypeRef.isSubTypeOf]

theorem isRequired_of_types (v : InputValue) : v.isRequired s' = v.isRequired s := by
  rw [InputValue.isRequired, InputValue.isRequired, v.default_of_types h]

theorem deprecationProblems_of_types : s'.deprecationProblems = s.deprecationProblems := by
  funext place v
  rw [deprecationProblems, deprecationProblems, isRequired_of_types h]

theorem fieldProblems_of_types (t : NamedType) : s'.fieldProblems t = s.fieldProblems t := by
  have harguments : s'.argumentProblems = s.argumentProblems := by
    funext owner v
    rw [argumentProblems, argumentProblems, deprecationProblems_of_types h]
  rw [fieldProblems, fieldProblems, harguments]

theorem interfaceProblems_of_types (t : NamedType) (seen names : List String) :
    s'.interfaceProblems t seen names = s.interfaceProblems t seen names := by
  have hextra : s'.extraArgumentProblems = s.extraArgumentProblems := by
    funext place other f b
    rw [extraArgumentProblems, extraArgumentProblems, isRequired_of_types h]
  have himplements : s'.implementationProblems = s.implementationProblems := by
    funext t i f
    simp only [implementationProblems, hextra, isSubTypeOf_of_types h]
  induction names generalizing seen with
  | nil => rfl
  | cons n ns ih => simp only [interfaceProblems, ih, type?_of_types h, himplements]

theorem typeProblems_of_types : s'.typeProblems = s.typeProblems := by
  have hinput : s'.inputFieldProblems = s.inputFieldProblems := by
    funext t oneOf v
    rw [inputFieldProblems, inputFieldProblems, deprecationProblems_of_types h, v.default_of_types h]
  funext t
  simp only [typeProblems, fieldProblems_of_types h, interfaceProblems_of_types h, hinput]

theorem followInputs_of_types (fuel : Nat) (path : InputPath) (t : NamedType)
    (acc : List String × List String) :
    s'.followInputs fuel path t acc = s.followInputs fuel path t acc := by
  induction fuel generalizing path t acc with
  | zero => rfl
  | succ fuel ih =>
    have hrequired : s'.requiredInput? = s.requiredInput? := by
      funext v
      simp only [requiredInput?, type?_of_types h]
    have hfield : s'.followField fuel path t = s.followField fuel path t := by
      funext acc f
      simp only [followField, hrequired, ih]
    rw [followInputs_succ, followInputs_succ, hfield]

theorem typesProblems_of_types (visited : List String) (ts : List NamedType) :
    s'.typesProblems visited ts = s.typesProblems visited ts := by
  induction ts generalizing visited with
  | nil => rfl
  | cons t ts ih =>
    simp only [typesProblems, typeProblems_of_types h, followInputs_of_types h, ih, h]

theorem directiveProblems_of_types : s'.directiveProblems = s.directiveProblems := by
  funext d
  rw [directiveProblems, directiveProblems, deprecationProblems_of_types h]

end SameTypes

theorem implementationProblems_of_some {s : Schema} {t i : NamedType} {f g : Field}
    (hg : t.field? f.name = some g) : s.implementationProblems t i f
      = (if g.type.isSubTypeOf s f.type then []
          else ["Interface field " ++ (i.name ++ "." ++ f.name) ++ " expects type " ++ f.type.text
            ++ " but " ++ (t.name ++ "." ++ f.name) ++ " is type " ++ g.type.text ++ "."])
        ++ f.arguments.flatMap
          (givenArgumentProblems (i.name ++ "." ++ f.name) (t.name ++ "." ++ f.name) g)
        ++ g.arguments.flatMap
          (s.extraArgumentProblems (i.name ++ "." ++ f.name) (t.name ++ "." ++ f.name) f) := by
  unfold implementationProblems
  rw [hg]

namespace Widens
variable {extra : NamedType → List Field} {shared : String → Prop} {s s' : Schema}
  (h : s.Widens extra shared s')
include h

omit h in
theorem deprecationProblems (s s' : Schema) (place : String) (v : InputValue) :
    s'.deprecationProblems place (v.evaluated s) = s.deprecationProblems place v := by
  rw [Schema.deprecationProblems, Schema.deprecationProblems, v.isRequired_evaluated]
  rfl

omit h in
theorem argumentsProblems (owner : String) (vs : List InputValue) :
    (vs.map (·.evaluated s)).flatMap (s'.argumentProblems owner)
      = vs.flatMap (s.argumentProblems owner) := by
  rw [List.flatMap_map]
  refine flatMap_eq_of_mem fun v _ => ?_
  rw [argumentProblems, argumentProblems, ← deprecationProblems s s']
  rfl

omit h in
theorem inputFieldProblems (t t' : NamedType) (ht : t'.name = t.name) (oneOf : Bool) (v : InputValue) :
    s'.inputFieldProblems t' oneOf (v.evaluated s) = s.inputFieldProblems t oneOf v := by
  have hdefault : (v.evaluated s).default s' = v.default s := v.default_evaluated
  simp only [Schema.inputFieldProblems, ht, hdefault, deprecationProblems s s']
  rfl

theorem requiredInput? {v : InputValue} (hv : shared v.type.base) :
    s'.requiredInput? (v.evaluated s)
      = (s.requiredInput? v).map fun t => t.widened s (extra t) := by
  have htype : (v.evaluated s).type = v.type := rfl
  unfold Schema.requiredInput?
  rw [htype]
  cases hw : v.type with
  | nonNull u =>
    cases u with
    | named n =>
      rw [hw] at hv
      simp only [h.type? n hv]
      cases s.type? n with
      | none => rfl
      | some t =>
        simp only [Option.map_some, NamedType.widened_shape]
        cases t.shape <;> rfl
    | list u => rfl
    | nonNull u => rfl
  | list u => rfl
  | named n => rfl

omit h in
theorem inputFieldsOf_widened (t : NamedType) (fs : List Field) :
    inputFieldsOf (t.widened s fs) = (inputFieldsOf t).map (·.evaluated s) := by
  rw [inputFieldsOf, inputFieldsOf, NamedType.widened_shape]
  cases t.shape <;> rfl

theorem shared_inputField {t : NamedType} (ht : t ∈ s.types) {v : InputValue}
    (hv : v ∈ inputFieldsOf t) : shared v.type.base := by
  refine h.shared_input ((h.wellFormed.refers t ht).inputs v ?_)
  unfold inputFieldsOf at hv
  cases hshape : t.shape with
  | input o fs => rw [hshape] at hv; exact hv
  | _ => rw [hshape] at hv; cases hv

theorem followInputs (fuel : Nat) (path : InputPath) {t : NamedType} (ht : t ∈ s.types)
    (acc : List String × List String) :
    s'.followInputs fuel path (t.widened s (extra t)) acc = s.followInputs fuel path t acc := by
  induction fuel generalizing path t acc with
  | zero => rfl
  | succ fuel ih =>
    have hstep : ∀ b, ∀ v ∈ inputFieldsOf t,
        s'.followField fuel path (t.widened s (extra t)) b (v.evaluated s)
          = s.followField fuel path t b v := by
      intro b v hv
      unfold followField
      rw [h.requiredInput? (h.shared_inputField ht hv)]
      cases hnext : s.requiredInput? v with
      | none => rfl
      | some next =>
        simp only [Option.map_some, NamedType.widened_name]
        rw [show (v.evaluated s).name = v.name from rfl]
        split
        · exact ih _ (mem_of_requiredInput? hnext) b
        · rfl
    rw [followInputs_succ, followInputs_succ, inputFieldsOf_widened, List.foldl_map,
      NamedType.widened_name]
    by_cases hmem : acc.1.contains t.name = true
    · rw [if_pos hmem, if_pos hmem]
    · rw [if_neg hmem, if_neg hmem]
      exact foldl_eq_of_keeps (I := fun _ => True) (fun b _ v hv => hstep b v hv)
        (fun _ _ _ _ => trivial) trivial

theorem implementationProblems_of_none {t i : NamedType} (ht : t ∈ s.types) (hi : i ∈ s.types)
    {f : Field} (hf : f ∈ i.shape.fields) (hnone : s.implementationProblems t i f = []) :
    s'.implementationProblems (t.widened s (extra t)) (i.widened s (extra i)) (f.evaluated s)
      = [] := by
  cases hg : t.field? f.name with
  | none =>
    unfold Schema.implementationProblems at hnone
    rw [hg] at hnone
    cases hnone
  | some g =>
    have hmem : g ∈ t.shape.fields := List.mem_of_find?_eq_some hg
    have hlacks : ∀ e ∈ extra t, e.name ≠ f.name := by
      intro e he hname
      rw [← hname, (h.new t ht e he).1] at hg
      cases hg
    have hwide : (t.widened s (extra t)).field? f.name = some (g.evaluated s) := by
      rw [t.field?_widened s (extra t) hlacks, hg, Option.map_some]
    have htype : g.type.isSubTypeOf s' f.type = g.type.isSubTypeOf s f.type :=
      h.isSubTypeOf (h.shared_field ht hmem).1 (h.shared_field hi hf).1
    have hgiven : ∀ place other, ((f.arguments.map (·.evaluated s)).flatMap
          (givenArgumentProblems place other (g.evaluated s)))
        = f.arguments.flatMap (givenArgumentProblems place other g) := by
      intro place other
      rw [List.flatMap_map]
      refine flatMap_eq_of_mem fun a _ => ?_
      simp only [givenArgumentProblems]
      rw [show (a.evaluated s).name = a.name from rfl, Field.argument?_evaluated]
      cases g.argument? a.name <;> rfl
    have hextra : ∀ place other, ((g.arguments.map (·.evaluated s)).flatMap
          (s'.extraArgumentProblems place other (f.evaluated s)))
        = g.arguments.flatMap (s.extraArgumentProblems place other f) := by
      intro place other
      rw [List.flatMap_map]
      refine flatMap_eq_of_mem fun b _ => ?_
      simp only [Schema.extraArgumentProblems, b.isRequired_evaluated]
      rw [show (b.evaluated s).name = b.name from rfl, Field.argument?_evaluated, Option.isNone_map]
    rw [implementationProblems_of_some hg] at hnone
    have htext : (i.widened s (extra i)).name = i.name ∧ (t.widened s (extra t)).name = t.name :=
      ⟨rfl, rfl⟩
    have hwide' : (t.widened s (extra t)).field? (f.evaluated s).name = some (g.evaluated s) := hwide
    rw [implementationProblems_of_some hwide', htext.1, htext.2, Field.evaluated_arguments,
      Field.evaluated_arguments, hgiven, hextra, Field.evaluated_type, Field.evaluated_type, htype]
    exact hnone

omit h in
theorem ancestorProblems_widened (t i : NamedType) (fs gs : List Field) :
    ancestorProblems (t.widened s fs) (i.widened s gs) = ancestorProblems t i := by
  rw [ancestorProblems, ancestorProblems, NamedType.widened_shape, NamedType.widened_shape,
    TypeShape.interfaces_widened, TypeShape.interfaces_widened]
  rfl

theorem interfaceProblems_of_none {t : NamedType} (ht : t ∈ s.types) :
    ∀ (names seen : List String), (∀ n ∈ names, (s.shape? n).any TypeShape.isInterface = true) →
      s.interfaceProblems t seen names = [] →
      s'.interfaceProblems (t.widened s (extra t)) seen names = []
  | [], _, _, _ => rfl
  | n :: ns, seen, hnames, hnone => by
    have hn := hnames n List.mem_cons_self
    have hrest := interfaceProblems_of_none ht ns (n :: seen)
      fun m hm => hnames m (List.mem_cons_of_mem n hm)
    rw [interfaceProblems] at hnone ⊢
    by_cases hseen : seen.contains n = true
    · simp only [hseen, if_true, List.append_eq_nil_iff, List.cons_ne_nil, and_false] at hnone
    · simp only [if_neg hseen, List.append_eq_nil_iff, NamedType.widened_name] at hnone ⊢
      refine ⟨⟨hnone.1.1, ?_⟩, hrest hnone.2⟩
      have hown := hnone.1.2
      rw [h.type? n (h.shared_of_any hn)]
      cases hi : s.type? n with
      | none => rfl
      | some i =>
        have hmem := (Schema.mem_of_type? hi).1
        have hinterface : i.shape.isObject = false := by
          rw [Schema.shape?, hi] at hn
          cases hshape : i.shape with
          | object is fs => rw [Option.map_some, hshape] at hn; cases hn
          | _ => rfl
        rw [hi] at hown
        simp only [List.append_eq_nil_iff] at hown
        simp only [Option.map_some, ancestorProblems_widened, hown.1, List.nil_append,
          NamedType.widened_shape, TypeShape.fields_widened, hinterface]
        rw [if_neg Bool.false_ne_true, List.append_nil, List.flatMap_map]
        exact List.flatMap_eq_nil_iff.mpr fun f hf =>
          h.implementationProblems_of_none ht hmem hf (List.flatMap_eq_nil_iff.mp hown.2 f hf)

/-- Names of further fields and of their arguments are no problem, and none of these is deprecated. -/
def Sound (extra : NamedType → List Field) : Prop :=
  ∀ t, ∀ f ∈ extra t, nameProblems f.name = []
    ∧ ∀ v ∈ f.arguments, nameProblems v.name = [] ∧ v.deprecation = none

omit h in
theorem fieldProblems_of_none (hextra : Sound extra) {t : NamedType} (hnone : s.fieldProblems t = []) :
    s'.fieldProblems (t.widened s (extra t)) = [] := by
  obtain ⟨hempty, hfields⟩ := List.append_eq_nil_iff.mp hnone
  have hfew : (t.widened s (extra t)).shape.fields.isEmpty = false := by
    rw [NamedType.widened_shape, TypeShape.fields_widened]
    cases hfs : t.shape.fields with
    | nil => rw [hfs] at hempty; cases hempty
    | cons f fs => rfl
  refine List.append_eq_nil_iff.mpr ⟨by rw [hfew]; rfl, List.flatMap_eq_nil_iff.mpr fun f hf => ?_⟩
  rw [NamedType.widened_shape, TypeShape.fields_widened] at hf
  rcases List.mem_append.mp hf with hf | hf
  · obtain ⟨g, hg, rfl⟩ := List.mem_map.mp hf
    have hown := List.flatMap_eq_nil_iff.mp hfields g hg
    rw [Field.evaluated_arguments, argumentsProblems]
    exact hown
  · have hmem : f ∈ extra t := by
      split at hf
      · exact hf
      · cases hf
    obtain ⟨hname, harguments⟩ := hextra t f hmem
    refine List.append_eq_nil_iff.mpr ⟨hname, List.flatMap_eq_nil_iff.mpr fun v hv => ?_⟩
    obtain ⟨hname, hdeprecation⟩ := harguments v hv
    rw [argumentProblems, hname, Schema.deprecationProblems, hdeprecation, Option.isSome_none,
      Bool.and_false]
    rfl

theorem typeProblems_of_none (hextra : Sound extra) {t : NamedType} (ht : t ∈ s.types)
    (hnone : s.typeProblems t = []) : s'.typeProblems (t.widened s (extra t)) = [] := by
  obtain ⟨hname, hshape⟩ := List.append_eq_nil_iff.mp hnone
  have hinterfaces := (h.wellFormed.refers t ht).interfaces
  refine List.append_eq_nil_iff.mpr ⟨hname, ?_⟩
  -- The problems of members hang on names alone; the induction is on the members still to come.
  have hmembers : ∀ ms seen,
      memberProblems (t.widened s (extra t)) seen ms = memberProblems t seen ms := by
    intro ms
    induction ms with
    | nil => exact fun _ => rfl
    | cons m ms ih =>
      intro seen
      rw [memberProblems, memberProblems, ih, ih]
      rfl
  have hfields : s.fieldProblems t = [] → s'.fieldProblems (t.widened s (extra t)) = [] :=
    fieldProblems_of_none hextra
  have himplements : ∀ is, t.shape.interfaces = is → s.interfaceProblems t [] is = [] →
      s'.interfaceProblems (t.widened s (extra t)) [] is = [] := by
    rintro is rfl hnone
    exact h.interfaceProblems_of_none ht _ [] hinterfaces hnone
  rw [NamedType.widened_shape]
  cases hs : t.shape with
  | scalar url => rfl
  | enum vs => rw [hs] at hshape; exact hshape
  | union ms =>
    rw [hs] at hshape
    show _ ++ memberProblems (t.widened s (extra t)) [] ms = []
    rw [hmembers]
    exact hshape
  | object is fs =>
    rw [hs] at hshape
    obtain ⟨hown, hinterface⟩ := List.append_eq_nil_iff.mp hshape
    exact List.append_eq_nil_iff.mpr ⟨hfields hown, himplements is (by rw [hs]; rfl) hinterface⟩
  | interface is fs =>
    rw [hs] at hshape
    obtain ⟨hown, hinterface⟩ := List.append_eq_nil_iff.mp hshape
    exact List.append_eq_nil_iff.mpr ⟨hfields hown, himplements is (by rw [hs]; rfl) hinterface⟩
  | input oneOf fs =>
    rw [hs] at hshape
    obtain ⟨hempty, hown⟩ := List.append_eq_nil_iff.mp hshape
    refine List.append_eq_nil_iff.mpr ⟨?_, ?_⟩
    · cases fs with
      | nil => cases hempty
      | cons f fs => rfl
    · rw [List.flatMap_map]
      refine List.flatMap_eq_nil_iff.mpr fun v hv => ?_
      rw [inputFieldProblems t (t.widened s (extra t)) rfl]
      exact List.flatMap_eq_nil_iff.mp hown v hv

theorem typesProblems_of_none (hextra : Sound extra) (hlength : s.types.length ≤ s'.types.length) :
    ∀ (ts : List NamedType) (visited : List String), (∀ t ∈ ts, t ∈ s.types) →
      s.typesProblems visited ts = [] → ∀ more, (∀ visited, s'.typesProblems visited more = []) →
      s'.typesProblems visited (ts.map (fun t => t.widened s (extra t)) ++ more) = []
  | [], _, _, _, _, hmore => hmore _
  | t :: ts, visited, hts, hnone, more, hmore => by
    have ht := hts t List.mem_cons_self
    have hrest := fun visited hnone => typesProblems_of_none hextra hlength ts visited
      (fun u hu => hts u (List.mem_cons_of_mem t hu)) hnone more hmore
    have hfollow : s'.followInputs (s'.types.length + 1) [] (t.widened s (extra t)) (visited, [])
        = s.followInputs (s.types.length + 1) [] t (visited, []) := by
      rw [h.followInputs _ _ ht]
      exact (followInputs_eq (by omega) ht _).trans (followInputs_eq (by omega) ht _).symm
    have hown := typeProblems_of_none h hextra ht
    rw [List.map_cons, List.cons_append]
    unfold Schema.typesProblems at hnone ⊢
    rw [NamedType.widened_shape]
    cases hs : t.shape with
    | input oneOf fs =>
      rw [hs] at hnone
      have hparts : s.typeProblems t ++ (s.followInputs (s.types.length + 1) [] t (visited, [])).2
          ++ s.typesProblems (s.followInputs (s.types.length + 1) [] t (visited, [])).1 ts = [] := hnone
      obtain ⟨hfirst, hnone⟩ := List.append_eq_nil_iff.mp hparts
      obtain ⟨hfirst, hcircular⟩ := List.append_eq_nil_iff.mp hfirst
      rw [← hfollow] at hcircular hnone
      exact List.append_eq_nil_iff.mpr
        ⟨List.append_eq_nil_iff.mpr ⟨hown hfirst, hcircular⟩, hrest _ hnone⟩
    | _ =>
      rw [hs] at hnone
      obtain ⟨hfirst, hnone⟩ := List.append_eq_nil_iff.mp hnone
      exact List.append_eq_nil_iff.mpr ⟨hown hfirst, hrest visited hnone⟩

end Widens

end Schema

namespace Federation

section Protocol
variable {s : Schema} {es : List String}

theorem protocolField_sound {f : Field} (hf : f ∈ protocolFieldTypes es) :
    Schema.nameProblems f.name = []
      ∧ ∀ v ∈ f.arguments, Schema.nameProblems v.name = [] ∧ v.deprecation = none := by
  rcases mem_protocolFieldTypes hf with rfl | ⟨-, rfl⟩
  · exact ⟨by decide +kernel, fun v hv => nomatch hv⟩
  · refine ⟨by decide +kernel, fun v hv => ?_⟩
    rw [List.mem_singleton.mp hv]
    exact ⟨by decide +kernel, rfl⟩

theorem sound_rootFields : Schema.Widens.Sound (rootFields s es) := by
  intro t f hf
  unfold rootFields at hf
  split at hf
  · exact protocolField_sound hf
  · cases hf

theorem memberProblems_of_nodup (t : NamedType) : ∀ (ms seen : List String), ms.Nodup →
    (∀ m ∈ ms, m ∉ seen) → Schema.memberProblems t seen ms = []
  | [], _, _, _ => rfl
  | m :: ms, seen, hnodup, hnew => by
    obtain ⟨hm, hms⟩ := List.nodup_cons.mp hnodup
    have hseen : ¬ seen.contains m = true := fun h =>
      hnew m List.mem_cons_self (List.contains_iff_mem.mp h)
    rw [Schema.memberProblems, if_neg hseen]
    refine memberProblems_of_nodup t ms (m :: seen) hms fun n hn hmem => ?_
    rcases List.mem_cons.mp hmem with rfl | hmem
    · exact hm hn
    · exact hnew n (List.mem_cons_of_mem m hn) hmem

theorem protocolType_problems (hes : es.Nodup) (s' : Schema) {u : NamedType}
    (hu : u ∈ protocolTypes s es) :
    s'.typeProblems u = [] ∧ ∀ oneOf fs, u.shape ≠ .input oneOf fs := by
  have hname : ∀ n ∈ defaultQuery :: typeNames,
      (if introspectionNames.contains n then [] else Schema.nameProblems n) = [] := by
    decide +kernel
  have hsdl : Schema.nameProblems "sdl" = [] := by decide +kernel
  rcases mem_protocolTypes s es hu with rfl | rfl | ⟨rfl, hne⟩ | ⟨rfl, -⟩ | ⟨rfl, -⟩
  · exact ⟨List.append_eq_nil_iff.mpr ⟨hname anyScalar (by decide), rfl⟩, nofun⟩
  · refine ⟨List.append_eq_nil_iff.mpr ⟨hname serviceType (by decide), ?_⟩, nofun⟩
    show [] ++ (Schema.nameProblems "sdl" ++ [] ++ []) ++ [] = []
    rw [hsdl]
    rfl
  · refine ⟨List.append_eq_nil_iff.mpr ⟨hname entityUnion (by decide),
      List.append_eq_nil_iff.mpr ⟨?_, ?_⟩⟩, nofun⟩
    · rw [if_neg fun h => hne (List.isEmpty_iff.mp h)]
    · exact memberProblems_of_nodup _ es [] hes fun _ _ hmem => nomatch hmem
  · exact ⟨List.append_eq_nil_iff.mpr ⟨hname fieldSetScalar (by decide), rfl⟩, nofun⟩
  · refine ⟨List.append_eq_nil_iff.mpr ⟨hname defaultQuery (by decide), ?_⟩, nofun⟩
    have hfields : s'.fieldProblems (queryType es) = [] := by
      refine List.append_eq_nil_iff.mpr ⟨?_, List.flatMap_eq_nil_iff.mpr fun f hf => ?_⟩
      · show (if (protocolFieldTypes es).isEmpty then _ else []) = []
        rw [protocolFieldTypes_eq]
        rfl
      · obtain ⟨hnamed, harguments⟩ := protocolField_sound hf
        refine List.append_eq_nil_iff.mpr ⟨hnamed, List.flatMap_eq_nil_iff.mpr fun v hv => ?_⟩
        rw [Schema.argumentProblems, Schema.deprecationProblems, (harguments v hv).1,
          (harguments v hv).2, Option.isSome_none, Bool.and_false]
        rfl
    exact List.append_eq_nil_iff.mpr ⟨hfields, rfl⟩

theorem typesProblems_of_plain {s' : Schema} : ∀ {ts : List NamedType} (visited : List String),
    (∀ t ∈ ts, s'.typeProblems t = [] ∧ ∀ oneOf fs, t.shape ≠ .input oneOf fs) →
    s'.typesProblems visited ts = []
  | [], _, _ => rfl
  | t :: ts, visited, hts => by
    obtain ⟨hnone, hplain⟩ := hts t List.mem_cons_self
    have hrest := typesProblems_of_plain visited fun u hu => hts u (List.mem_cons_of_mem t hu)
    unfold Schema.typesProblems
    split
    · next oneOf fs hshape => exact absurd hshape (hplain oneOf fs)
    · exact List.append_eq_nil_iff.mpr ⟨hnone, hrest⟩

theorem protocolDirectives_problems {d : DirectiveType} (hd : d ∈ protocolDirectives s) (s' : Schema) :
    s'.directiveProblems d = [] := by
  have hkey : Schema.nameProblems keyDirective = [] := by decide +kernel
  have hfields : Schema.nameProblems "fields" = [] := by decide +kernel
  have hextends : Schema.nameProblems extendsDirective = [] := by decide +kernel
  rcases List.mem_append.mp hd with hd | hd
  · split at hd
    · rw [List.mem_singleton.mp hd]
      refine List.append_eq_nil_iff.mpr ⟨hkey, List.flatMap_eq_nil_iff.mpr fun v hv => ?_⟩
      rw [List.mem_singleton.mp hv]
      refine List.append_eq_nil_iff.mpr ⟨hfields, ?_⟩
      rw [Schema.deprecationProblems, Option.isSome_none, Bool.and_false]
      rfl
    · cases hd
  · split at hd
    · rw [List.mem_singleton.mp hd]
      exact List.append_eq_nil_iff.mpr ⟨hextends, rfl⟩
    · cases hd

end Protocol

namespace Unserved
variable {s : Schema} (h : Unserved s) (es : List String)
include h

theorem rootProblems_grown : (grown s es).rootProblems = [] := by
  obtain ⟨hoperations, -, -⟩ := Schema.problems_of_missing h.valid
  have hobject : ∀ n, s.isObject n = true → (grown s es).isObject n = true := by
    intro n hn
    have hwide := h.widens es
    exact (hwide.any (hwide.shared_of_any hn) TypeShape.isObject_widened).trans hn
  have hwrong : ∀ n (problem : String), (grown s es).isObject n = true →
      (if (grown s es).isObject n then [] else [problem]) = [] := fun n _ hn => by rw [if_pos hn]
  have hquery : ∃ n, (grown s es).query = some n ∧ (grown s es).isObject n = true := by
    refine ⟨_, rfl, ?_⟩
    rcases h.root with ⟨t, ht, hroot, hshape, -⟩ | ⟨hnone, -⟩
    · rw [hroot, Option.getD_some]
      refine hobject t.name ?_
      rw [Schema.isObject, Schema.shape?_of_mem h.wellFormed.names ht]
      exact hshape
    · rw [hnone, Option.getD_none]
      exact grown_any_protocol (u := queryType es) (by simp [protocolTypes, hnone]) rfl
  obtain ⟨n, hquery, hn⟩ := hquery
  unfold Schema.rootProblems
  rw [hquery]
  simp only [List.append_eq_nil_iff, List.flatMap_eq_nil_iff]
  exact ⟨⟨hwrong n _ hn,
    fun m hm => hwrong m _ (hobject m (hoperations m (.inl (Option.mem_toList.mp hm))))⟩,
    fun m hm => hwrong m _ (hobject m (hoperations m (.inr (Option.mem_toList.mp hm))))⟩

/-- A schema without problems has none with the protocol definitions, and no query root is missing
any more. -/
theorem problems_grown (hes : es.Nodup) : (grown s es).problems = [] := by
  obtain ⟨-, hdirectives, htypes⟩ := Schema.problems_of_missing h.valid
  refine List.append_eq_nil_iff.mpr ⟨List.append_eq_nil_iff.mpr
    ⟨h.rootProblems_grown es, List.flatMap_eq_nil_iff.mpr fun d hd => ?_⟩, ?_⟩
  · rcases List.mem_append.mp hd with hd | hd
    · obtain ⟨e, he, rfl⟩ := List.mem_map.mp (mem_of_mem_lastByName hd)
      obtain ⟨hname, harguments⟩ := List.append_eq_nil_iff.mp (hdirectives e he)
      refine List.append_eq_nil_iff.mpr ⟨hname, ?_⟩
      rw [List.flatMap_map]
      refine List.flatMap_eq_nil_iff.mpr fun v hv => ?_
      obtain ⟨hname, hdeprecation⟩ :=
        List.append_eq_nil_iff.mp (List.flatMap_eq_nil_iff.mp harguments v hv)
      refine List.append_eq_nil_iff.mpr ⟨hname, ?_⟩
      rw [Schema.Widens.deprecationProblems]
      exact hdeprecation
    · exact protocolDirectives_problems hd _
  · have hlength : s.types.length ≤ (grown s es).types.length := by
      rw [h.grown_types_eq es, List.length_append, List.length_map]
      exact Nat.le_add_right _ _
    have hall := (h.widens es).typesProblems_of_none sound_rootFields hlength s.types []
      (fun _ ht => ht) htypes (protocolTypes s es) fun visited => typesProblems_of_plain visited
        fun u hu => protocolType_problems hes _ hu
    rw [← h.grown_types_eq es] at hall
    have hsame : (grown s es).types = ({ grown s es with query := s.query } : Schema).types := rfl
    exact (Schema.typesProblems_of_types hsame [] _).trans hall

end Unserved
end Federation
end Subgraph
