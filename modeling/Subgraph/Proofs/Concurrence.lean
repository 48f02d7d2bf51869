import Mathlib.Data.List.Forall2
import Mathlib.Logic.Relation
import Subgraph.Federation.Resolution
import Subgraph.Proofs.Gathering
import Subgraph.Proofs.Lists

/-!
# Answers at once and answers later

When reference functions come to the same outcomes, it makes no difference to the resolved entities
which of them answer at once and which let themselves be awaited: what is tagged or fails at once is
tagged or fails in the same way after the waiting. The pending answers may end in any order, since each
of them only writes to the cell of its own slot.
-/

namespace Subgraph.Federation

/-- The same error, or results that are related. -/
inductive Matching {ε α β : Type} (R : α → β → Prop) : Except ε α → Except ε β → Prop where
  | ok {a : α} {b : β} (h : R a b) : Matching R (.ok a) (.ok b)
  | error (e : ε) : Matching R (.error e) (.error e)

namespace Matching
variable {ε α β γ δ : Type} {R : α → β → Prop} {S : γ → δ → Prop}

theorem refl (x : Except ε α) : Matching (fun a b => a = b) x x := by
  cases x with
  | error e => exact .error e
  | ok a => exact .ok rfl

theorem bind {x : Except ε α} {y : Except ε β} {f : α → Except ε γ} {g : β → Except ε δ}
    (h : Matching R x y) (hfg : ∀ a b, R a b → Matching S (f a) (g b)) : Matching S (x >>= f) (y >>= g) := by
  cases h with
  | ok h => exact hfg _ _ h
  | error e => exact .error e

end Matching

/-- What an answer comes to, now or later. -/
def Answer.outcome : Answer → Outcome
  | .now r => .ofExcept r
  | .later _ _ _ o => o

/-- Two reference functions that come to the same outcomes, none of them an interruption. They may
differ in when they answer, how often they yield before, and what they trace. -/
structure Reference.Concurs (f g : Reference) : Prop where
  counts : ∀ rep, g.counts rep = f.counts rep
  outcome : ∀ n rep r, (g.answer n rep r).outcome = (f.answer n rep r).outcome
  ordinary : ∀ n rep r e, (f.answer n rep r).outcome ≠ .interrupted e

theorem Reference.Concurs.symm {f g : Reference} (h : f.Concurs g) : g.Concurs f :=
  ⟨fun rep => (h.counts rep).symm, fun n rep r => (h.outcome n rep r).symm,
    fun n rep r e => by rw [h.outcome]; exact h.ordinary n rep r e⟩

/-- The same type with the same keys, and with reference functions that concur, if any. -/
structure FederatedType.Concurs (t u : FederatedType) : Prop where
  name : u.name = t.name
  type : u.type = t.type
  keySets : u.settings.keySets = t.settings.keySets
  extend : u.settings.extend = t.settings.extend
  reference : Option.Rel Reference.Concurs t.settings.reference u.settings.reference

/-- Two classifications that differ in their reference functions only, which concur. -/
def Classification.Concurs (c c' : Classification) : Prop :=
  List.Forall₂ FederatedType.Concurs c.types c'.types

theorem FederatedType.Concurs.symm {t u : FederatedType} (h : t.Concurs u) : u.Concurs t where
  name := h.name.symm
  type := h.type.symm
  keySets := h.keySets.symm
  extend := h.extend.symm
  reference := by
    have hreference := h.reference
    cases ht : t.settings.reference <;> cases hu : u.settings.reference <;>
      rw [ht, hu] at hreference <;> cases hreference
    · exact .none
    · next hfg => exact .some hfg.symm

theorem Classification.Concurs.symm {c c' : Classification} (h : c.Concurs c') : c'.Concurs c :=
  (List.Forall₂.imp (fun _ _ => FederatedType.Concurs.symm) h).flip

section Resolving
variable {s : Schema} {c c' : Classification} {r : Request}

theorem Classification.Concurs.get? (h : c.Concurs c') (n : String) :
    Option.Rel FederatedType.Concurs (c.get? n) (c'.get? n) := by
  have hfind : ∀ ts us, List.Forall₂ FederatedType.Concurs ts us →
      Option.Rel FederatedType.Concurs (ts.find? (·.name == n)) (us.find? (·.name == n)) := by
    intro ts us hall
    induction hall with
    | nil => exact .none
    | @cons t u ts us htu _ ih =>
      rw [List.find?_cons, List.find?_cons, htu.name]
      cases t.name == n with
      | true => exact .some htu
      | false => exact ih
  exact hfind c.types c'.types h

theorem lookup_concurs (h : c.Concurs c') (type : String) :
    Matching (Option.Rel FederatedType.Concurs) (lookup s c type) (lookup s c' type) := by
  have hget := h.get? type
  unfold lookup
  cases ht : c.get? type <;> cases hu : c'.get? type <;> rw [ht, hu] at hget <;> cases hget
  · cases s.type? type with
    | none => exact .error _
    | some t =>
      simp only
      split
      · exact .ok .none
      · exact .error _
  · next htu => exact .ok (.some htu)

theorem referenceFor_concurs (h : c.Concurs c') (rep : Value) :
    Matching (fun a b => b.1 = a.1 ∧ Option.Rel Reference.Concurs a.2 b.2)
      (referenceFor s c rep) (referenceFor s c' rep) := by
  unfold referenceFor
  refine (Matching.refl (typename rep)).bind ?_
  rintro type _ rfl
  refine (lookup_concurs h type).bind ?_
  intro t? u? htu
  cases htu with
  | none => exact .ok ⟨rfl, .none⟩
  | @some t u htu =>
    have hkeys : checkKeys u.name u.settings.keySets rep
        = checkKeys t.name t.settings.keySets rep := by rw [htu.name, htu.keySets]
    simp only [hkeys]
    exact (Matching.refl (checkKeys t.name t.settings.keySets rep)).bind fun _ _ _ =>
      .ok ⟨rfl, htu.reference⟩

/-- What is resolved comes to the same value, after as many counted calls. -/
structure Resolved.Concurs (a b : Resolved) : Prop where
  value : ∃ v, a.slot.value = .ok v ∧ b.slot.value = .ok v
  counted : countedCalls b.call.toList = countedCalls a.call.toList

theorem answered_concurs {f g : Reference} (h : f.Concurs g) (type : String) (before : Nat)
    (rep : Value) : (answered type ⟨f, rep, r⟩ before).Concurs (answered type ⟨g, rep, r⟩ before) := by
  have houtcome : ∀ k : Reference, ∀ o, (k.answer before rep r).outcome = o →
      (answered type ⟨k, rep, r⟩ before).slot.value = delivered (some type) o
        ∧ (answered type ⟨k, rep, r⟩ before).call = some ⟨k, rep, r⟩ := by
    rintro k o rfl
    unfold answered
    cases ha : k.answer before rep r with
    | later n start finish o => exact ⟨rfl, rfl⟩
    | now result => cases result <;> exact ⟨rfl, rfl⟩
  have hordinary := h.ordinary before rep r
  obtain ⟨hf, hfcall⟩ := houtcome f _ rfl
  obtain ⟨hg, hgcall⟩ := houtcome g _ (h.outcome before rep r)
  refine ⟨?_, ?_⟩
  · rw [hf, hg]
    cases ho : (f.answer before rep r).outcome with
    | value v => exact ⟨_, rfl, rfl⟩
    | failed e => exact ⟨_, rfl, rfl⟩
    | interrupted e => exact absurd ho (hordinary e)
  · rw [hfcall, hgcall]
    simp only [countedCalls, Option.toList_some, List.countP_singleton, ReferenceCall.isCounted,
      h.counts rep]
    rfl

theorem resolveOne_concurs (h : c.Concurs c') (before : Nat) (rep : Value) :
    (resolveOne s c r before rep).Concurs (resolveOne s c' r before rep) := by
  unfold resolveOne
  cases hf : referenceFor s c rep <;> cases hg : referenceFor s c' rep <;>
    have hrel := referenceFor_concurs (s := s) h rep <;> rw [hf, hg] at hrel <;> cases hrel
  · exact ⟨⟨_, rfl, rfl⟩, rfl⟩
  · next p q hpair =>
    obtain ⟨type, f?⟩ := p
    obtain ⟨type', g?⟩ := q
    obtain ⟨htype, hreference⟩ := hpair
    obtain rfl : type' = type := htype
    cases hreference with
    | none => exact ⟨⟨_, rfl, rfl⟩, rfl⟩
    | some hfg => exact answered_concurs hfg type' before rep

theorem resolveAll_concurs (h : c.Concurs c') (before : Nat) (reps : List Value) :
    List.Forall₂ Resolved.Concurs (resolveAll s c r before reps) (resolveAll s c' r before reps) := by
  induction reps generalizing before with
  | nil => exact .nil
  | cons rep reps ih =>
    have hone := resolveOne_concurs (s := s) (r := r) h before rep
    rw [resolveAll, resolveAll, hone.counted]
    exact .cons hone (ih _)

theorem gatherValues_concurs {as bs : List Resolved} (h : List.Forall₂ Resolved.Concurs as bs) :
    ∃ vs, vs.length = as.length ∧ gatherValues (as.map (·.slot)) = .ok vs
      ∧ gatherValues (bs.map (·.slot)) = .ok vs := by
  induction h with
  | nil => exact ⟨[], rfl, rfl, rfl⟩
  | cons hab _ ih =>
    obtain ⟨v, ha, hb⟩ := hab.value
    obtain ⟨vs, hlength, has, hbs⟩ := ih
    rw [gatherValues_eq] at has hbs ⊢
    rw [gatherValues_eq]
    refine ⟨v :: vs, congrArg (· + 1) hlength, ?_, ?_⟩
    · rw [List.map_cons, List.mapM_cons, ha, has]
      rfl
    · rw [List.map_cons, List.mapM_cons, hb, hbs]
      rfl

end Resolving

section Waiting

/-- A pending answer ends and writes to the cell of its slot. -/
inductive Ends (slots : List Slot) : List (Option Value) → List (Option Value) → Prop where
  | write {cells : List (Option Value)} {i : Nat} {slot : Slot} {v : Value}
      (hslot : slots[i]? = some slot) (hempty : cells[i]? = some none) (hvalue : slot.value = .ok v) :
      Ends slots cells (cells.set i (some v))

/-- The cells that can be reached while waiting, with the pending answers ending in any order. -/
def Reaches (slots : List Slot) (cells : List (Option Value)) : Prop :=
  Relation.ReflTransGen (Ends slots) (slots.map Slot.cell) cells

/-- There is a cell for each slot, which is empty or has the value of the slot. -/
structure Holds (slots : List Slot) (cells : List (Option Value)) : Prop where
  length : cells.length = slots.length
  value : ∀ {i : Nat} {v : Value} {slot : Slot}, slots[i]? = some slot → cells[i]? = some (some v) →
    slot.value = .ok v

variable {slots : List Slot} {cells cells' : List (Option Value)}

theorem holds_start (slots : List Slot) : Holds slots (slots.map Slot.cell) where
  length := List.length_map _
  value := by
    intro i v slot hslot hcell
    rw [List.getElem?_map, hslot, Option.map_some, Option.some.injEq] at hcell
    cases slot with
    | done w =>
      cases hcell
      rfl
    | pending => cases hcell

theorem Ends.holds (h : Ends slots cells cells') (hcells : Holds slots cells) :
    Holds slots cells' := by
  cases h with
  | @write i slot v hslot hempty hvalue =>
    refine ⟨by rw [List.length_set]; exact hcells.length, ?_⟩
    intro j w slot' hslot' hcell
    rw [List.getElem?_set] at hcell
    split at hcell
    · next hij =>
      subst hij
      rw [hslot] at hslot'
      cases hslot'
      split at hcell
      · cases hcell
        exact hvalue
      · cases hcell
    · exact hcells.value hslot' hcell

theorem Reaches.holds (h : Reaches slots cells) : Holds slots cells := by
  unfold Reaches at h
  induction h with
  | refl => exact holds_start slots
  | tail _ hend ih => exact hend.holds ih

theorem gatherValues_getElem? {vs : List Value} (h : gatherValues slots = .ok vs) (i : Nat) :
    slots[i]?.map Slot.value = vs[i]?.map .ok := by
  rw [gatherValues_eq] at h
  induction slots generalizing vs i with
  | nil =>
    cases h
    rfl
  | cons slot slots ih =>
    rw [List.mapM_cons] at h
    obtain ⟨v, hv, h⟩ := Except.of_bind_ok h
    obtain ⟨vs', hvs, h⟩ := Except.of_bind_ok h
    cases h
    cases i with
    | zero => simp [hv]
    | succ i => simpa using ih hvs i

/-- When no cell is empty any more, the cells hold the gathered values, in whatever order they were
written. -/
theorem Reaches.delivers {vs : List Value} (h : Reaches slots cells) (hfull : none ∉ cells)
    (hvs : gatherValues slots = .ok vs) : cells = vs.map some := by
  have hholds := h.holds
  refine List.ext_getElem? fun i => ?_
  -- Cells and values agree position by position.
  have hvalue := gatherValues_getElem? hvs i
  rw [List.getElem?_map]
  cases hslot : slots[i]? with
  | none =>
    rw [hslot] at hvalue
    have hnone : vs[i]? = none := Option.map_eq_none_iff.mp hvalue.symm
    rw [hnone, Option.map_none, List.getElem?_eq_none_iff, hholds.length]
    exact List.getElem?_eq_none_iff.mp hslot
  | some slot =>
    rw [hslot] at hvalue
    obtain ⟨v, hv, hslotv⟩ := Option.map_eq_some_iff.mp hvalue.symm
    have hlt : i < cells.length := by
      rw [hholds.length]
      exact (List.getElem?_eq_some_iff.mp hslot).1
    cases hcell : cells[i] with
    | none => exact absurd (hcell ▸ List.getElem_mem hlt) hfull
    | some w =>
      have hw : cells[i]? = some (some w) := by rw [List.getElem?_eq_getElem hlt, hcell]
      have hsame := hslotv.trans (hholds.value hslot hw)
      rw [hw, hv, Except.ok.inj hsame, Option.map_some]

/-- As long as a cell is empty, an answer can end, which leaves fewer empty cells. -/
theorem Reaches.progress {vs : List Value} (h : Reaches slots cells) (hempty : none ∈ cells)
    (hvs : gatherValues slots = .ok vs) :
    ∃ cells', Ends slots cells cells'
      ∧ cells'.countP Option.isNone < cells.countP Option.isNone := by
  obtain ⟨i, hi, hcell⟩ := List.getElem_of_mem hempty
  have hslot : i < slots.length := by rw [← h.holds.length]; exact hi
  have hvalue := gatherValues_getElem? hvs i
  rw [List.getElem?_eq_getElem hslot] at hvalue
  obtain ⟨v, -, hv⟩ := Option.map_eq_some_iff.mp hvalue.symm
  have hpositive : 0 < cells.countP Option.isNone :=
    List.countP_pos_iff.mpr ⟨none, hempty, rfl⟩
  refine ⟨cells.set i (some v), .write (List.getElem?_eq_getElem hslot) ?_ hv.symm, ?_⟩
  · rw [List.getElem?_eq_getElem hi, hcell]
  · rw [List.countP_set hi, hcell]
    simp only [Option.isNone_none, Option.isNone_some, if_true, Bool.false_eq_true, if_false]
    omega

theorem Reaches.completes {vs : List Value} (h : Reaches slots cells)
    (hvs : gatherValues slots = .ok vs) :
    ∃ cells', Relation.ReflTransGen (Ends slots) cells cells' ∧ none ∉ cells' := by
  -- The induction is on the number of empty cells.
  induction hn : cells.countP Option.isNone using Nat.strongRecOn generalizing cells with
  | ind n ih =>
    by_cases hempty : none ∈ cells
    · obtain ⟨cells', hend, hfewer⟩ := h.progress hempty hvs
      obtain ⟨cells'', hrest, hfull⟩ := ih _ (hn ▸ hfewer) (h.tail hend) rfl
      exact ⟨cells'', .head hend hrest, hfull⟩
    · exact ⟨cells, .refl, hempty⟩

/-- A resolution delivers values, however its pending answers take turns: the waiting can always go on
until no cell is empty, and then the cells hold these values, which are those that are gathered. -/
structure Resolution.Delivers (x : Resolution) (vs : List Value) : Prop where
  values : x.values = .ok vs
  completes : ∀ cells, Reaches x.slots cells →
    ∃ cells', Relation.ReflTransGen (Ends x.slots) cells cells' ∧ none ∉ cells'
  delivers : ∀ cells, Reaches x.slots cells → none ∉ cells → cells = vs.map some

theorem Resolution.delivers_of_values {x : Resolution} {vs : List Value} (h : x.values = .ok vs) :
    x.Delivers vs :=
  ⟨h, fun _ hreaches => hreaches.completes h, fun _ hreaches hfull => hreaches.delivers hfull h⟩

end Waiting

section Samples

/-- What comes of a representation: it fails if it asks for that, or stands for itself. -/
def asked (rep : Value) : Except Failure Value :=
  if rep.hasMember "fail" then .error ⟨"RuntimeError", "cannot resolve"⟩ else .ok rep

/-- Answers at once. -/
def prompt : Reference := ⟨"prompt", fun _ => false, fun _ rep _ => .now (asked rep)⟩

/-- Answers later, unless a representation asks for an answer at once; slow ones yield more often. -/
def tardy : Reference :=
  ⟨"tardy", fun _ => false, fun _ rep _ =>
    if rep.hasMember "now" then .now (asked rep)
    else .later (if rep.hasMember "slow" then 3 else 1) [] [] (.ofExcept (asked rep))⟩

def productsBy (f : Reference) : Classification :=
  ⟨[⟨"Product", ⟨none, "Product", .object [] [], []⟩, ⟨[["id"]], false, some f⟩⟩]⟩

theorem productsBy_concurs : (productsBy prompt).Concurs (productsBy tardy) := by
  have hoften : prompt.Concurs tardy := by
    refine ⟨fun _ => rfl, fun n rep r => ?_, fun n rep r e => ?_⟩
    · simp only [prompt, tardy]
      split <;> rfl
    · simp only [prompt, asked, Answer.outcome]
      split <;> simp [Outcome.ofExcept]
  exact .cons ⟨rfl, rfl, rfl, rfl, .some hoften⟩ .nil

def product (entry : String) : Value :=
  .record [(typenameKey, .text "Product"), ("id", .int 1), (entry, .null)]

end Samples

end Subgraph.Federation
