import Mathlib.Data.List.Forall2
import Subgraph.Query.Description
import Subgraph.Value.Members

/-!
# Answers that do not depend on a description

What a value answers for a field is told a description of the field, with the place where the answer
stands. Only the templates among texts can show that. An operation that replaces characters takes
what the parts of the description stand for, and that is the same for all places.
-/

namespace Subgraph

namespace Value.Member

/-- What a part of a description puts in the place of a character. -/
def substitute (d : Described) : Except String (List Char) :=
  match d with
  | .value .null => .ok []
  | .value (.text s) => .ok s.toList
  | .value (.int n) => replacement.character n
  | .value (.bool b) => replacement.character (if b then 1 else 0)
  | _ => .error "character mapping must return integer, None or str"

theorem replacement_eq (d : Described) (c : Char) : replacement d c =
    match d.itemAt c.toNat with
    | .error _ => .ok [c]
    | .ok e => substitute e := by
  unfold replacement substitute
  cases d.itemAt c.toNat with
  | error e => rfl
  | ok e =>
    cases e with
    | value v => cases v <;> rfl
    | _ => rfl

theorem replacement_row {kind kind' : String} {parts parts' : List (String × Described)}
    (h : List.Forall₂ (fun e e' => substitute e.2 = substitute e'.2) parts parts') (c : Char) :
    replacement (.row kind parts) c = replacement (.row kind' parts') c := by
  have hitem : ∀ (k : String) (ps : List (String × Described)), (Described.row k ps).itemAt c.toNat
      = (ps.map (·.2))[c.toNat]?.elim (.error (.noIndex "tuple")) .ok := by
    intro k ps
    dsimp only [Described.itemAt]
    cases (ps.map (·.2))[c.toNat]? <;> rfl
  rw [replacement_eq, replacement_eq, hitem, hitem, List.getElem?_map, List.getElem?_map]
  generalize c.toNat = n
  induction h generalizing n with
  | nil => rfl
  | cons he _ ih =>
    cases n with
    | zero => exact he
    | succ n => exact ih n

/-- A member that gives the same for all descriptions that replace characters alike. -/
def Steady : Member → Prop
  | .value _ => True
  | .operation call =>
    ∀ d d', (∀ c, replacement d c = replacement d' c) → ∀ as, call d as = call d' as

theorem steady_withoutArguments (kind name : String) (result : Except String Value) :
    (withoutArguments kind name result).Steady :=
  fun _ _ _ _ => rfl

theorem steady_withNames (name : String) (parameters : List String)
    (call : Entries Value → Except String Value) : (withNames name parameters call).Steady :=
  fun _ _ _ _ => rfl

theorem steady_replaced (kind name s : String) :
    (withoutNames kind name (replaced s)).Steady := by
  intro d d' h as
  have hsame : replaced s d = replaced s d' := by
    have hreplacement : replacement d = replacement d' := funext h
    simp only [replaced, hreplacement]
  simp only [hsame]

theorem steady_ofFamilies {kind : String} {fs : List Family} {name : String} {m : Member}
    (h : ofFamilies? kind fs name = some m) : m.Steady := by
  obtain ⟨f, -, rfl⟩ := Option.map_eq_some_iff.mp h
  exact steady_withoutArguments _ _ _

theorem steady_ofInteger {kind : String} {n : Int} {name : String} {m : Member}
    (h : ofInteger? kind n name = some m) : m.Steady := by
  unfold ofInteger? at h
  split at h
  · cases h; trivial
  split at h
  · cases h; trivial
  split at h
  · cases h; trivial
  split at h
  · cases h; exact steady_withNames _ _ _
  split at h
  · cases h; exact steady_withNames _ _ _
  · exact steady_ofFamilies h

theorem steady_ofFloat {d : Double} {name : String} {m : Member}
    (h : ofFloat? d name = some m) : m.Steady := by
  unfold ofFloat? at h
  split at h
  · cases h; trivial
  split at h
  · cases h; trivial
  · exact steady_ofFamilies h

theorem steady_ofText {s name : String} (hname : name ≠ "format") {m : Member}
    (h : ofText? s name = some m) : m.Steady := by
  unfold ofText? at h
  split at h
  · exact absurd rfl hname
  · cases h; exact fun _ _ _ _ => rfl
  · cases h; exact steady_replaced _ _ _
  · cases h; exact steady_withNames _ _ _
  · cases h; exact steady_withNames _ _ _
  · cases h; exact steady_withNames _ _ _
  · cases h; exact steady_withNames _ _ _
  · cases h; exact steady_withNames _ _ _
  · split at h
    · cases h; exact steady_withoutArguments _ _ _
    · exact steady_ofFamilies h

theorem steady_ofList {name : String} {m : Member} (h : ofList? name = some m) : m.Steady := by
  unfold ofList? at h
  split at h
  · cases h; exact steady_withoutArguments _ _ _
  split at h
  · cases h; exact steady_withoutArguments _ _ _
  split at h
  · cases h; exact fun _ _ _ _ => rfl
  · exact steady_ofFamilies h

end Value.Member

theorem Value.memberOf?_steady {v : Value} {name : String} (hname : name ≠ "format") {m : Member}
    (h : v.memberOf? name = some m) : m.Steady := by
  have hmember : ∀ w : Value, (w.member? name).map .value = some m → m.Steady := by
    intro w hw
    obtain ⟨x, -, rfl⟩ := Option.map_eq_some_iff.mp hw
    trivial
  cases v with
  | bool b => exact Member.steady_ofInteger h
  | int n => exact Member.steady_ofInteger h
  | float d => exact Member.steady_ofFloat h
  | text s => exact Member.steady_ofText hname h
  | list xs => exact Member.steady_ofList h
  | null => exact hmember .null h
  | record es => exact hmember (.record es) h
  | object k as => exact hmember (.object k as) h
  | failure f => exact hmember (.failure f) h
  | missing => exact hmember .missing h

theorem Value.answer_same (v : Value) {name : String} (hname : name ≠ "format")
    {d d' : Unit → Described}
    (h : ∀ c, Member.replacement (d ()) c = Member.replacement (d' ()) c) (as : Entries Value) :
    v.answer name d as = v.answer name d' as := by
  unfold Value.answer
  cases hm : v.memberOf? name with
  | none => rfl
  | some m =>
    have hsteady := memberOf?_steady hname hm
    cases m with
    | value w => rfl
    | operation call => exact hsteady (d ()) (d' ()) h as

namespace Description
open Value.Member

theorem substitute_fragments (fs gs : List (Fragment Nat)) :
    substitute (fragments fs) = substitute (fragments gs) := by
  have herror : ∀ hs : List (Fragment Nat), substitute (fragments hs)
      = .error "character mapping must return integer, None or str" := by
    intro hs
    unfold fragments
    split <;> rfl
  rw [herror, herror]

theorem substitute_described (t t' : Trail) (step step' : PathStep) (owner owner' : Option String) :
    substitute (Trail.described (t ++ [(step, owner)]))
      = substitute (Trail.described (t' ++ [(step', owner')])) := by
  simp only [Trail.described, List.foldl_append, List.foldl_cons, List.foldl_nil]
  rfl

theorem replacement_ofField {sc sc' : Scope} {o o' : Operation Nat} {root context : Value}
    {parent parent' : NamedType} {f f' : Field} {nodes : List FieldNode} {trail trail' : Trail}
    {step step' : PathStep} {owner owner' : Option String} (hname : f'.name = f.name)
    (htype : substitute (typeRef sc.query.schema f.type)
      = substitute (typeRef sc'.query.schema f'.type)) (c : Char) :
    replacement (ofField sc o root context parent f nodes (trail ++ [(step, owner)])) c
      = replacement (ofField sc' o' root context parent' f' nodes (trail' ++ [(step', owner')])) c := by
  refine replacement_row ?_ c
  refine .cons (by rw [hname]) <| .cons rfl <| .cons htype <| .cons rfl <| .cons ?_ <| .cons rfl <|
    .cons ?_ <| .cons rfl <| .cons rfl <| .cons rfl <| .cons rfl <| .cons rfl .nil
  · exact substitute_described trail trail' step step' owner owner'
  · exact substitute_fragments _ _

end Description
end Subgraph
