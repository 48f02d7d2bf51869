import Mathlib.Logic.Relation
import Subgraph.Federation.Gather
import Subgraph.Proofs.Lists

/-!
# Gathering outcomes

The outcomes of pending slots are collected apart from the slots, in their order, and then spread back to
the positions of their slots. Whatever order the pending answers end in and however often they yield before,
every slot gets its own outcome; and nothing is delivered before all of them have ended.
-/

namespace Subgraph.Federation

section Spreading
variable {slot : Slot} {slots : List Slot}

theorem Slot.outcome?_of_pending (h : slot.isPending = true) : slot.outcome? = some slot.value := by
  cases slot with
  | done v => cases h
  | pending => rfl

theorem awaited_eq_zipIdx (slots : List Slot) : awaited slots (pendingPositions slots)
    = (slots.zipIdx.filter (·.1.isPending)).map fun p => p.1.value := by
  rw [awaited, pendingPositions, List.filterMap_map, ← List.filterMap_eq_map]
  apply filterMap_eq_of_mem
  intro p hp
  obtain ⟨hp, hpending⟩ := List.mem_filter.mp hp
  simp only [Function.comp_apply, List.mem_zipIdx_iff_getElem?.mp hp, Option.bind_some,
    Slot.outcome?_of_pending hpending]

theorem awaited_eq (slots : List Slot) : awaited slots (pendingPositions slots)
    = (slots.filter Slot.isPending).map Slot.value := by
  have hfirst : ∀ k, ((slots.zipIdx k).filter (·.1.isPending)).map (fun p => p.1.value)
      = (slots.filter Slot.isPending).map Slot.value := by
    induction slots with
    | nil => exact fun _ => rfl
    | cons slot slots ih =>
      intro k
      rw [List.zipIdx_cons, List.filter_cons, List.filter_cons]
      split
      · rw [List.map_cons, List.map_cons, ih]
      · exact ih _
  rw [awaited_eq_zipIdx]
  exact hfirst 0

theorem spread_cells (slots : List Slot) (first : List Value) :
    spread (first.map some ++ slots.map Slot.cell)
        (((slots.zipIdx first.length).filter (·.1.isPending)).map fun p => (p.2, p.1.value))
      = (slots.mapM Slot.value).map fun vs => (first ++ vs).map some := by
  induction slots generalizing first with
  | nil => simp [spread, Except.map, pure, Except.pure]
  | cons slot slots ih =>
    have hnext : ∀ v : Value, (first ++ [v]).length = first.length + 1 := fun v => by simp
    rw [List.zipIdx_cons, List.mapM_cons]
    cases slot with
    | done v =>
      have hrest := ih (first ++ [v])
      rw [hnext, List.map_append, List.append_assoc] at hrest
      rw [List.filter_cons_of_neg Bool.false_ne_true]
      refine hrest.trans ?_
      cases slots.mapM Slot.value <;>
        simp [Slot.value, Except.map, bind, Except.bind, pure, Except.pure]
    | pending type n start finish o =>
      rw [List.filter_cons_of_pos rfl]
      change spread (first.map some ++ none :: slots.map Slot.cell)
          ((first.length, delivered type o) :: _) = Except.map _ (delivered type o >>= _)
      cases delivered type o with
      | error f => rfl
      | ok v =>
        have hset : (first.map some ++ none :: slots.map Slot.cell).set first.length (some v)
            = (first ++ [v]).map some ++ slots.map Slot.cell := by simp
        have hrest := ih (first ++ [v])
        rw [hnext] at hrest
        rw [spread, hset, hrest]
        cases slots.mapM Slot.value <;> simp [Except.map, bind, Except.bind, pure, Except.pure]

/-- Spreading the outcomes gives every slot its own value. -/
theorem gatherValues_eq (slots : List Slot) : gatherValues slots = slots.mapM Slot.value := by
  have hzip : (pendingPositions slots).zip (awaited slots (pendingPositions slots))
      = (slots.zipIdx.filter (·.1.isPending)).map fun p => (p.2, p.1.value) := by
    rw [awaited_eq_zipIdx, pendingPositions, List.zip_map']
  have hspread := spread_cells slots []
  rw [List.map_nil, List.nil_append, List.length_nil] at hspread
  rw [gatherValues, gatherOutcomes, hzip, hspread]
  cases slots.mapM Slot.value with
  | error f => rfl
  | ok vs => simp [Except.map]

end Spreading
section Outcomes

/-- What is delivered for a slot: a value that was there before as it is, an awaited one with its tag,
and a failure in place of an entity. -/
def Slot.entity : Slot → Value
  | .done v => v
  | .pending (some type) _ _ _ (.value v) => tag type v
  | .pending none _ _ _ (.value v) => v
  | .pending _ _ _ _ (.failed f) => .failure f
  | .pending _ _ _ _ (.interrupted f) => .failure f

def Slot.interruption? : Slot → Option Failure
  | .pending _ _ _ _ (.interrupted f) => some f
  | _ => none

theorem Slot.value_eq (slot : Slot) : slot.value = match slot.interruption? with
    | none => .ok slot.entity
    | some f => .error f := by
  cases slot with
  | done v => rfl
  | pending type n start finish o => cases type <;> cases o <;> rfl

/-- All slots keep their positions, or the first interruption is what is left. -/
theorem gatherValues_entities (slots : List Slot) :
    gatherValues slots = match slots.findSome? Slot.interruption? with
      | none => .ok (slots.map Slot.entity)
      | some f => .error f := by
  rw [gatherValues_eq]
  induction slots with
  | nil => rfl
  | cons slot slots ih =>
    rw [List.mapM_cons, ih, Slot.value_eq, List.findSome?_cons]
    cases slot.interruption? with
    | some f => rfl
    | none => cases slots.findSome? Slot.interruption? <;> rfl

end Outcomes

section Waiting

/-- How far an awaited answer is. -/
inductive Progress where
  | running (yields : Nat)
  | ended (outcome : Except Failure Value)

/-- The turns that an answer still takes. -/
def Progress.turns : Progress → Nat
  | .running n => n + 1
  | .ended _ => 0

def turnsLeft : List Progress → Nat
  | [] => 0
  | p :: ps => p.turns + turnsLeft ps

/-- How far the pending slots are, in their order, and what has been delivered. -/
structure Waited where
  answers : List Progress
  result : Option (Except Failure (List Value))

def Waited.start (slots : List Slot) : Waited :=
  ⟨(slots.filter Slot.isPending).map fun s => .running s.yields, none⟩

/-- Any answer may take the next turn, to yield or to end. When all of them have ended, their outcomes
are delivered in the order of their slots. -/
inductive Waited.Step (slots : List Slot) : Waited → Waited → Prop where
  | yield {answers : List Progress} {i n : Nat} (hanswer : answers[i]? = some (.running (n + 1))) :
      Step slots ⟨answers, none⟩ ⟨answers.set i (.running n), none⟩
  | finish {answers : List Progress} {i : Nat} {slot : Slot}
      (hanswer : answers[i]? = some (.running 0))
      (hslot : (slots.filter Slot.isPending)[i]? = some slot) :
      Step slots ⟨answers, none⟩ ⟨answers.set i (.ended slot.value), none⟩
  | deliver {outcomes : List (Except Failure Value)} :
      Step slots ⟨outcomes.map .ended, none⟩
        ⟨outcomes.map .ended, some (gatherOutcomes slots outcomes)⟩

/-- The states that a waiting can come to. -/
def Waited.Reached (slots : List Slot) (w : Waited) : Prop :=
  Relation.ReflTransGen (Step slots) (start slots) w

namespace Waited
variable {slots : List Slot} {w w' : Waited}

/-- Every answer that has ended has the outcome of its slot, and what is delivered is what the slots are
gathered to, after every answer has ended. -/
structure Sound (slots : List Slot) (w : Waited) : Prop where
  length : w.answers.length = (slots.filter Slot.isPending).length
  outcome : ∀ {i : Nat} {o : Except Failure Value} {slot : Slot}, w.answers[i]? = some (.ended o) →
    (slots.filter Slot.isPending)[i]? = some slot → o = slot.value
  result : ∀ {r : Except Failure (List Value)}, w.result = some r →
    r = gatherValues slots
      ∧ ∃ outcomes : List (Except Failure Value), w.answers = outcomes.map .ended

theorem sound_start (slots : List Slot) : Sound slots (start slots) where
  length := List.length_map _
  outcome := by
    intro i o slot hanswer _
    rw [start, List.getElem?_map] at hanswer
    obtain ⟨s, -, hs⟩ := Option.map_eq_some_iff.mp hanswer
    cases hs
  result := fun h => by cases h

theorem outcome_set {answers : List Progress} {i : Nat} {p : Progress} (hs : Sound slots ⟨answers, none⟩)
    (hp : ∀ o slot, p = .ended o → (slots.filter Slot.isPending)[i]? = some slot → o = slot.value)
    {j : Nat} {o : Except Failure Value} {slot : Slot} (hanswer : (answers.set i p)[j]? = some (.ended o))
    (hslot : (slots.filter Slot.isPending)[j]? = some slot) : o = slot.value := by
  rw [List.getElem?_set] at hanswer
  split at hanswer
  · next hij =>
    subst hij
    split at hanswer
    · exact hp o slot (Option.some.inj hanswer) hslot
    · cases hanswer
  · exact hs.outcome hanswer hslot

theorem Step.sound (h : Step slots w w') (hs : Sound slots w) : Sound slots w' := by
  cases h with
  | @yield answers i n hanswer =>
    refine ⟨by rw [List.length_set]; exact hs.length, ?_, fun h => by cases h⟩
    exact outcome_set hs fun o slot h => by cases h
  | @finish answers i slot hanswer hslot =>
    refine ⟨by rw [List.length_set]; exact hs.length, ?_, fun h => by cases h⟩
    apply outcome_set hs
    intro o slot' ho hslot'
    rw [hslot] at hslot'
    cases hslot'
    exact (Progress.ended.inj ho).symm
  | @deliver outcomes =>
    refine ⟨hs.length, hs.outcome, ?_⟩
    rintro r ⟨⟩
    refine ⟨?_, outcomes, rfl⟩
    -- All answers have ended, each with the value of its slot.
    have houtcomes : outcomes = (slots.filter Slot.isPending).map Slot.value := by
      apply List.ext_getElem?
      intro i
      have hlength := hs.length
      rw [List.length_map] at hlength
      cases hslot : (slots.filter Slot.isPending)[i]? with
      | none =>
        rw [List.getElem?_map, hslot, Option.map_none]
        rw [List.getElem?_eq_none_iff] at hslot ⊢
        omega
      | some slot =>
        have hi : i < outcomes.length := by
          have := (List.getElem?_eq_some_iff.mp hslot).1
          omega
        have hended : (outcomes.map Progress.ended)[i]? = some (.ended outcomes[i]) := by
          rw [List.getElem?_map, List.getElem?_eq_getElem hi, Option.map_some]
        rw [List.getElem?_map, hslot, Option.map_some, List.getElem?_eq_getElem hi,
          hs.outcome hended hslot]
    rw [houtcomes, ← awaited_eq]
    rfl

theorem Reached.sound (h : Reached slots w) : Sound slots w := by
  induction h with
  | refl => exact sound_start slots
  | tail _ hstep ih => exact hstep.sound ih

theorem Reached.progress (h : Reached slots w) (hopen : w.result = none) : ∃ w', Step slots w w' := by
  obtain ⟨answers, result⟩ := w
  obtain rfl : result = none := hopen
  by_cases hrunning : ∃ i n : Nat, answers[i]? = some (Progress.running n)
  · obtain ⟨i, n, hanswer⟩ := hrunning
    cases n with
    | succ n => exact ⟨_, .yield hanswer⟩
    | zero =>
      have hi : i < (slots.filter Slot.isPending).length := by
        rw [← h.sound.length]
        exact (List.getElem?_eq_some_iff.mp hanswer).1
      exact ⟨_, .finish hanswer (List.getElem?_eq_getElem hi)⟩
  -- No answer is running, so all of them have ended.
  · have hended : ∃ outcomes : List (Except Failure Value), answers = outcomes.map .ended := by
      clear h
      induction answers with
      | nil => exact ⟨[], rfl⟩
      | cons p answers ih =>
        cases p with
        | running n => exact absurd ⟨0, n, rfl⟩ hrunning
        | ended o =>
          obtain ⟨outcomes, rfl⟩ := ih fun ⟨i, n, hi⟩ => hrunning ⟨i + 1, n, hi⟩
          exact ⟨o :: outcomes, rfl⟩
    obtain ⟨outcomes, rfl⟩ := hended
    exact ⟨_, .deliver⟩

theorem turnsLeft_set {answers : List Progress} {i : Nat} {p : Progress} (h : answers[i]? = some p)
    (q : Progress) : turnsLeft (answers.set i q) + p.turns = turnsLeft answers + q.turns := by
  induction answers generalizing i with
  | nil => cases h
  | cons first answers ih =>
    cases i with
    | zero =>
      cases h
      simp only [List.set_cons_zero, turnsLeft]
      omega
    | succ i =>
      have hrest := ih h
      simp only [List.set_cons_succ, turnsLeft]
      omega

/-- The turns until something has been delivered. -/
def turns (w : Waited) : Nat := turnsLeft w.answers + if w.result.isNone then 1 else 0

theorem Step.turns_lt (h : Step slots w w') : w'.turns < w.turns := by
  cases h with
  | @yield answers i n hanswer =>
    have hset := turnsLeft_set hanswer (.running n)
    simp only [Progress.turns, turns] at hset ⊢
    omega
  | @finish answers i slot hanswer hslot =>
    have hset := turnsLeft_set hanswer (.ended slot.value)
    simp only [Progress.turns, turns] at hset ⊢
    omega
  | deliver => simp [turns]

theorem wellFounded_step (slots : List Slot) : WellFounded fun w' w => Step slots w w' :=
  Subrelation.wf (fun h => Step.turns_lt h) (measure turns).wf

end Waited
end Waiting

section Moments

namespace Moment

theorem length_latest (m : Moment) (ms : List Moment) :
    m.length ≤ (latest m ms).length ∧ ∀ n ∈ ms, n.length ≤ (latest m ms).length := by
  unfold latest
  induction ms generalizing m with
  | nil => exact ⟨Nat.le_refl _, fun n hn => by cases hn⟩
  | cons n ms ih =>
    rw [List.foldl_cons]
    obtain ⟨hfirst, hrest⟩ := ih (if le m n then n else m)
    have hlater : m.length ≤ (if le m n then n else m).length
        ∧ n.length ≤ (if le m n then n else m).length := by
      split
      · next hle =>
        simp only [le, Bool.or_eq_true, Bool.and_eq_true, decide_eq_true_eq, beq_iff_eq] at hle
        omega
      · next hle =>
        simp only [le, Bool.or_eq_true, Bool.and_eq_true, decide_eq_true_eq, beq_iff_eq] at hle
        omega
    refine ⟨Nat.le_trans hlater.1 hfirst, ?_⟩
    intro k hk
    rcases List.mem_cons.mp hk with rfl | hk
    · exact Nat.le_trans hlater.2 hfirst
    · exact hrest k hk

end Moment

/-- Whatever happens for a slot happens before the waiting is over. -/
theorem events_before_gathered {m : Moment} {slots : List Slot} {p : Moment × Slot}
    (hp : p ∈ started m slots) {e : Event} (he : e ∈ p.2.events p.1) :
    e.moment.length < (gathered m slots).length := by
  have hlength : e.moment.length ≤ (p.1.later p.2.yields).length := by
    obtain ⟨n, slot⟩ := p
    cases slot with
    | done v => cases he
    | pending type k start finish o =>
      rw [Moment.length_later]
      rcases List.mem_cons.mp he with rfl | he
      · exact Nat.le_add_right _ _
      · rw [List.mem_singleton.mp he]
        exact Nat.le_of_eq (Moment.length_later n k)
  rw [gathered, Moment.resumed, Moment.length_later]
  refine Nat.lt_of_le_of_lt hlength (Nat.lt_add_right 1 (Nat.lt_add_one_of_le ?_))
  exact (Moment.length_latest m _).2 _ (List.mem_map.mpr ⟨p, hp, rfl⟩)

end Moments

end Subgraph.Federation
