import Mathlib.Data.List.Perm.Basic
import Subgraph.Federation.Resolution
import Subgraph.Proofs.Gathering
import Subgraph.Proofs.MomentOrder

/-!
# Pending answers in turns

Pending answers are set going in the order of their positions and take turns in a queue: the first one
runs until it yields and then joins the end of the queue, or it ends and leaves. So the queue goes round by
round, and the events of a resolution come in the order of these turns.
-/

namespace Subgraph.Federation

/-- A turn of a pending slot, which has taken as many turns before as there were rounds. The slot is
told by its position, and by the order in which it was set going. -/
structure Turn where
  position : Nat
  index : Nat
  slot : Slot
  round : Nat

namespace Turn

/-- The turn to wait for after this one, unless the answer has ended. -/
def next (t : Turn) : Option Turn :=
  if t.round < t.slot.yields then some { t with round := t.round + 1 } else none

/-- The turn in another round. -/
def inRound (k : Nat) (t : Turn) : Turn := { t with round := k }

def moment (m : Moment) (t : Turn) : Moment := (m.next t.index).later t.round

/-- What happens in a turn: an answer starts in its first turn, and ends in its last. -/
def events (m : Moment) (t : Turn) : List Event :=
  match t.slot with
  | .done _ => []
  | .pending type n start finish o =>
    (if t.round = 0 then [⟨t.moment m, start, []⟩] else [])
      ++ if t.round = n then [⟨t.moment m, finish, outcomeRecords type o⟩] else []

end Turn

section Queue

/-- The turns that are left for a queue. -/
def turnsQueued : List Turn → Nat
  | [] => 0
  | t :: q => t.slot.yields - t.round + 1 + turnsQueued q

theorem turnsQueued_append (q q' : List Turn) :
    turnsQueued (q ++ q') = turnsQueued q + turnsQueued q' := by
  induction q with
  | nil => simp [turnsQueued]
  | cons t q ih =>
    simp only [List.cons_append, turnsQueued, ih]
    omega

theorem turnsQueued_next (t : Turn) (q : List Turn) :
    turnsQueued (q ++ t.next.toList) < turnsQueued (t :: q) := by
  rw [turnsQueued_append, turnsQueued, Turn.next]
  split
  · simp only [Option.toList_some, turnsQueued]
    omega
  · simp only [Option.toList_none, turnsQueued]
    omega

/-- The turns that a queue takes, the first of it first. -/
def takeTurns : List Turn → List Turn
  | [] => []
  | t :: q => t :: takeTurns (q ++ t.next.toList)
termination_by q => turnsQueued q
decreasing_by exact turnsQueued_next t q

theorem takeTurns_append (q q' : List Turn) :
    takeTurns (q ++ q') = q ++ takeTurns (q' ++ q.filterMap Turn.next) := by
  induction q generalizing q' with
  | nil => simp
  | cons t q ih =>
    rw [List.cons_append, takeTurns, List.append_assoc, ih, List.filterMap_cons]
    cases t.next <;> simp

/-- The turns of a round: those of the answers that have not ended before. -/
def roundOf (k : Nat) (q : List Turn) : List Turn :=
  (q.filter fun t => k ≤ t.slot.yields).map (Turn.inRound k)

theorem filterMap_next_roundOf (k : Nat) (q : List Turn) :
    (roundOf k q).filterMap Turn.next = roundOf (k + 1) q := by
  induction q with
  | nil => rfl
  | cons t q ih =>
    unfold roundOf at ih ⊢
    rw [List.filter_cons, List.filter_cons]
    by_cases hnow : k ≤ t.slot.yields
    · by_cases hlater : k + 1 ≤ t.slot.yields
      · have hnext : (t.inRound k).next = some (t.inRound (k + 1)) := if_pos hlater
        rw [if_pos (decide_eq_true hnow), if_pos (decide_eq_true hlater), List.map_cons, List.map_cons,
          List.filterMap_cons, hnext, ih]
      · have hnext : (t.inRound k).next = none := if_neg hlater
        rw [if_pos (decide_eq_true hnow), if_neg (by simpa using hlater), List.map_cons,
          List.filterMap_cons, hnext, ih]
    · rw [if_neg (by simpa using hnow), if_neg (by simp; omega), ih]

theorem takeTurns_roundOf {q : List Turn} {n : Nat} (k : Nat) (h : ∀ t ∈ q, t.slot.yields < k + n) :
    takeTurns (roundOf k q) = (List.range' k n).flatMap fun j => roundOf j q := by
  induction n generalizing k with
  | zero =>
    have hnone : roundOf k q = [] := by
      rw [roundOf, List.map_eq_nil_iff, List.filter_eq_nil_iff]
      intro t ht hk
      have hlt := h t ht
      have hle := of_decide_eq_true hk
      omega
    rw [hnone, takeTurns]
    rfl
  | succ n ih =>
    have hround := takeTurns_append (roundOf k q) []
    rw [List.append_nil, List.nil_append, filterMap_next_roundOf] at hround
    rw [hround, List.range'_succ, List.flatMap_cons, ih (k + 1)]
    intro t ht
    have hlt := h t ht
    omega

end Queue

section Ready

/-- The first turns of pending slots, from a position on, after some others were set going. -/
def readyFrom (position index : Nat) : List Slot → List Turn
  | [] => []
  | s :: slots =>
    if s.isPending then ⟨position, index, s, 0⟩ :: readyFrom (position + 1) (index + 1) slots
    else readyFrom (position + 1) index slots

/-- The queue when all pending slots have been set going. -/
def ready (slots : List Slot) : List Turn := readyFrom 0 0 slots

/-- How often an answer yields at most. -/
def mostYields (slots : List Slot) : Nat := slots.foldr (fun s n => max s.yields n) 0

theorem mem_readyFrom {slots : List Slot} {position index : Nat} {t : Turn}
    (h : t ∈ readyFrom position index slots) : position ≤ t.position ∧ index ≤ t.index ∧ t.round = 0
      ∧ slots[t.position - position]? = some t.slot ∧ t.slot.isPending = true := by
  induction slots generalizing position index with
  | nil => cases h
  | cons s slots ih =>
    rw [readyFrom] at h
    have hlater : ∀ {i}, index ≤ i → t ∈ readyFrom (position + 1) i slots → position ≤ t.position
        ∧ index ≤ t.index ∧ t.round = 0 ∧ (s :: slots)[t.position - position]? = some t.slot
        ∧ t.slot.isPending = true := by
      intro i hi hmem
      obtain ⟨hposition, hindex, hround, hslot, hpending⟩ := ih hmem
      have hnext : t.position - position = (t.position - (position + 1)) + 1 := by omega
      refine ⟨by omega, by omega, hround, ?_, hpending⟩
      rw [hnext, List.getElem?_cons_succ, hslot]
    split at h
    · next hpending =>
      rcases List.mem_cons.mp h with rfl | h
      · exact ⟨Nat.le_refl _, Nat.le_refl _, rfl, by simp, hpending⟩
      · exact hlater (Nat.le_succ index) h
    · exact hlater (Nat.le_refl index) h

theorem readyFrom_mem {slots : List Slot} (position index : Nat) {i : Nat} {s : Slot}
    (hs : slots[i]? = some s) (hpending : s.isPending = true) :
    ∃ t ∈ readyFrom position index slots, t.position = position + i ∧ t.slot = s := by
  induction slots generalizing position index i with
  | nil => cases hs
  | cons first slots ih =>
    rw [readyFrom]
    cases i with
    | zero =>
      obtain rfl : first = s := Option.some.inj hs
      rw [if_pos hpending]
      exact ⟨_, List.mem_cons_self, rfl, rfl⟩
    | succ i =>
      split
      · obtain ⟨t, ht, hposition, hslot⟩ := ih (position + 1) (index + 1) hs
        exact ⟨t, List.mem_cons_of_mem _ ht, by omega, hslot⟩
      · obtain ⟨t, ht, hposition, hslot⟩ := ih (position + 1) index hs
        exact ⟨t, ht, by omega, hslot⟩

theorem pairwise_readyFrom (slots : List Slot) (position index : Nat) :
    (readyFrom position index slots).Pairwise fun t u => t.position < u.position ∧ t.index < u.index := by
  induction slots generalizing position index with
  | nil => exact .nil
  | cons s slots ih =>
    rw [readyFrom]
    split
    · refine List.pairwise_cons.mpr ⟨?_, ih _ _⟩
      intro t ht
      obtain ⟨hposition, hindex, -⟩ := mem_readyFrom ht
      exact ⟨hposition, hindex⟩
    · exact ih _ _

theorem le_mostYields {slots : List Slot} {s : Slot} (h : s ∈ slots) : s.yields ≤ mostYields slots := by
  induction slots with
  | nil => cases h
  | cons first slots ih =>
    rw [mostYields, List.foldr_cons]
    rcases List.mem_cons.mp h with rfl | h
    · exact Nat.le_max_left _ _
    · exact Nat.le_trans (ih h) (Nat.le_max_right _ _)

theorem yields_ready {slots : List Slot} {t : Turn} (h : t ∈ ready slots) :
    t.slot.yields ≤ mostYields slots :=
  le_mostYields (List.mem_of_getElem? (mem_readyFrom h).2.2.2.1)

theorem roundOf_ready (slots : List Slot) : roundOf 0 (ready slots) = ready slots := by
  rw [roundOf, List.filter_eq_self.mpr fun t _ => decide_eq_true (Nat.zero_le _)]
  refine (List.map_congr_left fun t ht => ?_).trans (List.map_id _)
  obtain ⟨position, index, slot, round⟩ := t
  obtain rfl : round = 0 := (mem_readyFrom ht).2.2.1
  rfl

theorem takeTurns_ready {slots : List Slot} {n : Nat} (h : mostYields slots < n) :
    takeTurns (ready slots) = (List.range n).flatMap fun k => roundOf k (ready slots) := by
  have hrounds := takeTurns_roundOf (q := ready slots) (n := n) 0 fun t ht => by
    have hyields := yields_ready ht
    omega
  rwa [roundOf_ready, ← List.range_eq_range'] at hrounds

theorem readyFrom_set {slots : List Slot} {i : Nat} {s s' : Slot} (hs : slots[i]? = some s)
    (hpending : s.isPending = true) (hpending' : s'.isPending = true) (position index : Nat) :
    (readyFrom position index (slots.set i s')).filter (·.position != position + i)
      = (readyFrom position index slots).filter (·.position != position + i) := by
  induction slots generalizing i position index with
  | nil => cases hs
  | cons first slots ih =>
    cases i with
    | zero =>
      obtain rfl : first = s := Option.some.inj hs
      rw [List.set_cons_zero, readyFrom, readyFrom, if_pos hpending, if_pos hpending']
      simp
    | succ i =>
      have hnext : position + (i + 1) = position + 1 + i := by omega
      rw [List.set_cons_succ, readyFrom, readyFrom, hnext]
      split
      · rw [List.filter_cons, List.filter_cons, ih hs]
      · exact ih hs _ _

theorem takeTurns_set {slots : List Slot} {i : Nat} {s s' : Slot} (hs : slots[i]? = some s)
    (hpending : s.isPending = true) (hpending' : s'.isPending = true) :
    (takeTurns (ready (slots.set i s'))).filter (·.position != i)
      = (takeTurns (ready slots)).filter (·.position != i) := by
  have hothers := readyFrom_set hs hpending hpending' 0 0
  rw [Nat.zero_add] at hothers
  have hround : ∀ (k : Nat) (q : List Turn), (roundOf k q).filter (·.position != i)
      = roundOf k (q.filter (·.position != i)) := by
    intro k q
    have hposition : (fun t : Turn => t.position != i) ∘ Turn.inRound k = fun t => t.position != i := rfl
    rw [roundOf, roundOf, List.filter_map, List.filter_filter, List.filter_filter, hposition]
    congr 2
    funext t
    exact Bool.and_comm _ _
  rw [takeTurns_ready (Nat.lt_succ_of_le (Nat.le_max_left _ (mostYields slots))),
    takeTurns_ready (Nat.lt_succ_of_le (Nat.le_max_right (mostYields (slots.set i s')) _)),
    List.filter_flatMap, List.filter_flatMap]
  simp only [hround, ready, hothers]

end Ready

section Timeline
variable {m : Moment} {slots : List Slot}

theorem Turn.moment_events {t : Turn} {e : Event} (h : e ∈ t.events m) : e.moment = t.moment m := by
  unfold Turn.events at h
  split at h
  · cases h
  · rcases List.mem_append.mp h with h | h
    · split at h
      · rw [List.mem_singleton.mp h]
      · cases h
    · split at h
      · rw [List.mem_singleton.mp h]
      · cases h

theorem Turn.moment_inj {t u : Turn} (h : t.moment m = u.moment m) :
    t.index = u.index ∧ t.round = u.round := by
  have hlength := congrArg List.length h
  simp only [Turn.moment, Moment.length_later, Moment.length_next] at hlength
  simp only [Turn.moment, Moment.later, Moment.next, List.append_assoc] at h
  have hindex := List.append_cancel_left h
  exact ⟨(List.cons.inj hindex).1, by omega⟩

/-- The turns in the order of the slots. -/
def turnsBySlot (slots : List Slot) : List Turn :=
  (ready slots).flatMap fun t => (List.range (t.slot.yields + 1)).map fun k => t.inRound k

theorem started_eq (m : Moment) (slots : List Slot) :
    started m slots = (ready slots).map fun t => (m.next t.index, t.slot) := by
  have hfrom : ∀ position index, ((slots.filter Slot.isPending).zipIdx index).map
        (fun p => (m.next p.2, p.1))
      = (readyFrom position index slots).map fun t => (m.next t.index, t.slot) := by
    induction slots with
    | nil => exact fun _ _ => rfl
    | cons s slots ih =>
      intro position index
      rw [readyFrom, List.filter_cons]
      split
      · rw [List.zipIdx_cons, List.map_cons, List.map_cons, ih (position + 1)]
      · exact ih _ _
  exact hfrom 0 0

theorem events_slot {t : Turn} (ht : t ∈ ready slots) : t.slot.events (m.next t.index)
    = (List.range (t.slot.yields + 1)).flatMap fun k => (t.inRound k).events m := by
  obtain ⟨position, index, slot, round⟩ := t
  cases slot with
  | done v => cases (mem_readyFrom ht).2.2.2.2
  | pending type n start finish o =>
    have hrounds : ∀ f g : Nat → Event, (List.range (n + 1)).flatMap (fun k =>
        (if k = 0 then [f k] else []) ++ if k = n then [g k] else []) = [f 0, g n] := by
      intro f g
      have hfirst : ∀ n, (List.range (n + 1)).flatMap (fun k => if k = 0 then [f k] else []) = [f 0] := by
        intro n
        rw [List.range_succ_eq_map, List.flatMap_cons, List.flatMap_map]
        simp
      cases n with
      | zero => simp
      | succ n =>
        rw [List.range_succ, List.flatMap_append]
        have hbefore : (List.range (n + 1)).flatMap (fun k =>
            (if k = 0 then [f k] else []) ++ if k = n + 1 then [g k] else []) = [f 0] := by
          rw [← hfirst n]
          refine flatMap_eq_of_mem fun k hk => ?_
          have hne : k ≠ n + 1 := Nat.ne_of_lt (List.mem_range.mp hk)
          rw [if_neg hne, List.append_nil]
        rw [hbefore]
        simp
    have hevents := hrounds (fun k => ⟨(m.next index).later k, start, []⟩)
      fun k => ⟨(m.next index).later k, finish, outcomeRecords type o⟩
    have hnow : (m.next index).later 0 = m.next index := by simp [Moment.later]
    rw [hnow] at hevents
    exact hevents.symm

theorem gatherEvents_eq (m : Moment) (slots : List Slot) : gatherEvents m slots
    = (turnsBySlot slots).flatMap (Turn.events m)
      ++ [⟨gathered m slots, [], failureRecords ((pendingPositions slots).zip
        (awaited slots (pendingPositions slots)))⟩] := by
  have hslots : (started m slots).flatMap (fun p => p.2.events p.1)
      = (turnsBySlot slots).flatMap (Turn.events m) := by
    rw [started_eq, List.flatMap_map, turnsBySlot, List.flatMap_assoc]
    refine flatMap_eq_of_mem fun t ht => ?_
    rw [List.flatMap_map]
    exact events_slot ht
  exact congrArg (· ++ _) hslots

theorem atMoment_flatMap (n : Moment) (q : List Turn) : atMoment n (q.flatMap (Turn.events m))
    = (q.filter (·.moment m == n)).flatMap (Turn.events m) := by
  induction q with
  | nil => rfl
  | cons t q ih =>
    have hturn : atMoment n (t.events m) = if t.moment m == n then t.events m else [] := by
      split
      · next hn =>
        refine List.filter_eq_self.mpr fun e he => ?_
        rw [Turn.moment_events he]
        exact hn
      · next hn =>
        refine List.filter_eq_nil_iff.mpr fun e he => ?_
        rw [Turn.moment_events he]
        exact hn
    rw [List.flatMap_cons, List.filter_cons, atMoment, List.filter_append]
    change atMoment n (t.events m) ++ atMoment n (q.flatMap (Turn.events m)) = _
    rw [hturn, ih]
    split <;> rfl

/-- One turn comes after another: in a later round, or in the same one for a slot further behind. -/
def Turn.Before (t u : Turn) : Prop :=
  t.round < u.round ∨ t.round = u.round ∧ t.position < u.position ∧ t.index < u.index

theorem Turn.Before.le {t u : Turn} (h : t.Before u) : (t.moment m).le (u.moment m) = true := by
  rcases h with h | ⟨hround, -, hindex⟩
  · apply Moment.le_iff.mpr
    left
    simpa [Turn.moment] using h
  · rw [Turn.moment, Turn.moment, hround]
    exact Moment.le_of_index hindex u.round

theorem Turn.Before.ne {t u : Turn} (h : t.Before u) : t.moment m ≠ u.moment m := by
  intro hmoment
  obtain ⟨hindex, hround⟩ := Turn.moment_inj hmoment
  rcases h with h | ⟨-, -, h⟩ <;> omega

theorem pairwise_takeTurns (slots : List Slot) : (takeTurns (ready slots)).Pairwise Turn.Before := by
  rw [takeTurns_ready (Nat.lt_succ_self _), List.pairwise_flatMap]
  constructor
  · intro k _
    refine List.Pairwise.map _ (fun t u h => ?_) ((pairwise_readyFrom slots 0 0).filter _)
    exact .inr ⟨rfl, h⟩
  · refine List.pairwise_lt_range.imp fun hlt t ht u hu => ?_
    obtain ⟨_, -, rfl⟩ := List.mem_map.mp ht
    obtain ⟨_, -, rfl⟩ := List.mem_map.mp hu
    exact .inl hlt

theorem mem_takeTurns {u : Turn} : u ∈ takeTurns (ready slots)
    ↔ ∃ t ∈ ready slots, ∃ k ≤ t.slot.yields, t.inRound k = u := by
  rw [takeTurns_ready (Nat.lt_succ_self _), List.mem_flatMap]
  constructor
  · rintro ⟨k, -, hu⟩
    obtain ⟨t, ht, rfl⟩ := List.mem_map.mp hu
    obtain ⟨ht, hk⟩ := List.mem_filter.mp ht
    exact ⟨t, ht, k, of_decide_eq_true hk, rfl⟩
  · rintro ⟨t, ht, k, hk, rfl⟩
    refine ⟨k, List.mem_range.mpr (Nat.lt_succ_of_le (Nat.le_trans hk (yields_ready ht))), ?_⟩
    exact List.mem_map_of_mem (List.mem_filter.mpr ⟨ht, decide_eq_true hk⟩)

theorem mem_turnsBySlot {u : Turn} : u ∈ turnsBySlot slots ↔ u ∈ takeTurns (ready slots) := by
  rw [mem_takeTurns, turnsBySlot, List.mem_flatMap]
  constructor
  · rintro ⟨t, ht, hu⟩
    obtain ⟨k, hk, rfl⟩ := List.mem_map.mp hu
    exact ⟨t, ht, k, Nat.le_of_lt_succ (List.mem_range.mp hk), rfl⟩
  · rintro ⟨t, ht, k, hk, rfl⟩
    exact ⟨t, ht, List.mem_map_of_mem (List.mem_range.mpr (Nat.lt_succ_of_le hk))⟩

theorem pairwise_turnsBySlot (m : Moment) (slots : List Slot) :
    (turnsBySlot slots).Pairwise fun t u => t.moment m ≠ u.moment m := by
  rw [turnsBySlot, List.pairwise_flatMap]
  constructor
  · intro t _
    refine List.Pairwise.map _ (fun j k h hmoment => ?_) List.pairwise_lt_range
    have hround := (Turn.moment_inj hmoment).2
    exact absurd hround (Nat.ne_of_lt h)
  · refine (pairwise_readyFrom slots 0 0).imp fun h t ht u hu hmoment => ?_
    obtain ⟨_, -, rfl⟩ := List.mem_map.mp ht
    obtain ⟨_, -, rfl⟩ := List.mem_map.mp hu
    exact absurd (Turn.moment_inj hmoment).1 (Nat.ne_of_lt h.2)

theorem filter_moment_eq {q q' : List Turn} (hmem : ∀ t, t ∈ q ↔ t ∈ q')
    (hq : q.Pairwise fun t u => t.moment m ≠ u.moment m)
    (hq' : q'.Pairwise fun t u => t.moment m ≠ u.moment m) (n : Moment) :
    q.filter (·.moment m == n) = q'.filter (·.moment m == n) := by
  have hnodup : ∀ {r : List Turn}, r.Pairwise (fun t u => t.moment m ≠ u.moment m) → r.Nodup :=
    fun h => h.imp fun hne heq => hne (by rw [heq])
  have hperm : (q.filter (·.moment m == n)).Perm (q'.filter (·.moment m == n)) :=
    ((List.perm_ext_iff_of_nodup (hnodup hq) (hnodup hq')).mpr hmem).filter _
  have hall : ∀ t ∈ q.filter (·.moment m == n), t.moment m = n := fun t ht =>
    eq_of_beq (List.mem_filter.mp ht).2
  have hone := hq.filter (·.moment m == n)
  cases hfilter : q.filter (·.moment m == n) with
  | nil =>
    rw [hfilter] at hperm
    exact hperm.nil_eq
  | cons t r =>
    rw [hfilter] at hperm hall hone
    cases r with
    | nil => exact (List.perm_singleton.mp hperm.symm).symm
    | cons u r =>
      have hne := List.rel_of_pairwise_cons hone List.mem_cons_self
      rw [hall t List.mem_cons_self, hall u (List.mem_cons_of_mem _ List.mem_cons_self)] at hne
      exact absurd rfl hne

/-- What happens while pending slots are awaited is what happens in the turns of the queue, and then the
warnings. -/
theorem inOrder_gatherEvents (m : Moment) (slots : List Slot) : inOrder (gatherEvents m slots)
    = (takeTurns (ready slots)).flatMap (Turn.events m)
      ++ [⟨gathered m slots, [], failureRecords ((pendingPositions slots).zip
        (awaited slots (pendingPositions slots)))⟩] := by
  -- Whatever a turn holds comes before the warnings.
  have hbefore : ∀ t ∈ takeTurns (ready slots), ∀ e ∈ t.events m,
      e.moment.length < (gathered m slots).length := by
    intro t ht e he
    have hslot := mem_turnsBySlot.mpr ht
    obtain ⟨u, hu, ht⟩ := List.mem_flatMap.mp hslot
    obtain ⟨k, hk, rfl⟩ := List.mem_map.mp ht
    have hstarted : (m.next u.index, u.slot) ∈ started m slots := by
      rw [started_eq]
      exact List.mem_map_of_mem hu
    refine events_before_gathered hstarted ?_
    rw [events_slot hu]
    exact List.mem_flatMap.mpr ⟨k, hk, he⟩
  -- Ordered lists are the same if they are the same at every moment.
  refine (ordered_inOrder _).eq ?_ fun n => ?_
  · refine List.pairwise_append.mpr ⟨List.pairwise_flatMap.mpr ⟨?_, ?_⟩, List.pairwise_singleton _ _, ?_⟩
    · intro t _
      refine List.Pairwise.imp_of_mem ?_ (List.pairwise_of_forall (R := fun _ _ => True) fun _ _ => trivial)
      intro e e' he he' _
      rw [Turn.moment_events he, Turn.moment_events he']
      exact Moment.le_refl _
    · refine (pairwise_takeTurns slots).imp fun h e he e' he' => ?_
      rw [Turn.moment_events he, Turn.moment_events he']
      exact h.le
    · intro e he e' he'
      obtain ⟨t, ht, he⟩ := List.mem_flatMap.mp he
      rw [List.mem_singleton.mp he']
      exact Moment.le_iff.mpr (.inl (hbefore t ht e he))
  · have hturns : ∀ t, t ∈ turnsBySlot slots ↔ t ∈ takeTurns (ready slots) := fun _ => mem_turnsBySlot
    have hsame := filter_moment_eq (m := m) hturns (pairwise_turnsBySlot m slots)
      ((pairwise_takeTurns slots).imp Turn.Before.ne) n
    rw [atMoment_inOrder, gatherEvents_eq, atMoment, List.filter_append, atMoment, List.filter_append]
    change atMoment n _ ++ _ = atMoment n _ ++ _
    rw [atMoment_flatMap, atMoment_flatMap, hsame]

theorem exists_mostYields (h : slots.any Slot.isPending = true) :
    ∃ s ∈ slots, s.isPending = true ∧ s.yields = mostYields slots := by
  have hdone : ∀ s : Slot, s.isPending = false → s.yields = 0 := by
    intro s hs
    cases s with
    | done v => rfl
    | pending => cases hs
  induction slots with
  | nil => cases h
  | cons s slots ih =>
    rw [mostYields, List.foldr_cons]
    change ∃ u ∈ s :: slots, u.isPending = true ∧ u.yields = max s.yields (mostYields slots)
    -- The first slot yields most, or one of the others does.
    by_cases hs : s.isPending = true ∧ mostYields slots ≤ s.yields
    · exact ⟨s, List.mem_cons_self, hs.1, (Nat.max_eq_left hs.2).symm⟩
    · have hrest : slots.any Slot.isPending = true := by
        by_contra hnone
        have hnone' : ∀ u ∈ slots, u.yields ≤ 0 := by
          intro u hu
          rw [List.any_eq_true, not_exists] at hnone
          exact Nat.le_of_eq (hdone u (by simpa [hu] using hnone u))
        have hzero : mostYields slots ≤ 0 := by
          clear ih h hs hnone
          induction slots with
          | nil => exact Nat.le_refl 0
          | cons u slots ih =>
            rw [mostYields, List.foldr_cons]
            exact Nat.max_le.mpr ⟨hnone' u List.mem_cons_self,
              ih fun u hu => hnone' u (List.mem_cons_of_mem _ hu)⟩
        rw [List.any_cons, Bool.not_eq_true _ |>.mp hnone, Bool.or_false] at h
        exact hs ⟨h, by omega⟩
      obtain ⟨u, hu, hpending, hyields⟩ := ih hrest
      refine ⟨u, List.mem_cons_of_mem _ hu, hpending, ?_⟩
      rw [hyields, Nat.max_eq_right]
      by_cases hpending : s.isPending = true
      · have hlt : ¬ mostYields slots ≤ s.yields := fun hle => hs ⟨hpending, hle⟩
        omega
      · rw [hdone s (Bool.not_eq_true _ |>.mp hpending)]
        exact Nat.zero_le _

theorem Moment.latest_mem (m : Moment) (ms : List Moment) : latest m ms = m ∨ latest m ms ∈ ms := by
  unfold latest
  induction ms generalizing m with
  | nil => exact .inl rfl
  | cons n ms ih =>
    rw [List.foldl_cons]
    rcases ih (if le m n then n else m) with h | h
    · rw [h]
      split
      · exact .inr List.mem_cons_self
      · exact .inl rfl
    · exact .inr (List.mem_cons_of_mem _ h)

theorem length_gathered (m : Moment) (h : slots.any Slot.isPending = true) :
    (gathered m slots).length = m.length + 1 + mostYields slots + 2 := by
  have hgathered : gathered m slots = (Moment.latest m ((ready slots).map fun t =>
      (m.next t.index).later t.slot.yields)).resumed := by
    rw [gathered, started_eq, List.map_map]
    rfl
  have hlength : ∀ t : Turn, ((m.next t.index).later t.slot.yields).length
      = m.length + 1 + t.slot.yields := fun t => by rw [Moment.length_later, Moment.length_next]
  have hlatest := Moment.length_latest m ((ready slots).map fun t => (m.next t.index).later t.slot.yields)
  obtain ⟨s, hs, hpending, hyields⟩ := exists_mostYields h
  obtain ⟨i, hi⟩ := List.mem_iff_getElem?.mp hs
  obtain ⟨t, ht, -, rfl⟩ := readyFrom_mem 0 0 hi hpending
  have hlower := hlatest.2 _ (List.mem_map_of_mem ht)
  rw [hlength, hyields] at hlower
  have hupper : (Moment.latest m ((ready slots).map fun t =>
      (m.next t.index).later t.slot.yields)).length ≤ m.length + 1 + mostYields slots := by
    rcases Moment.latest_mem m ((ready slots).map fun t => (m.next t.index).later t.slot.yields) with h | h
    · rw [h]
      omega
    · obtain ⟨u, hu, heq⟩ := List.mem_map.mp h
      rw [← heq, hlength]
      have := yields_ready hu
      omega
  rw [hgathered, Moment.resumed, Moment.length_later]
  omega

end Timeline

section Resolutions
variable {s : Schema} {c : Classification} {r : Request}

theorem slot_pending_iff {n : Nat} {rep : Value} {type : Option String} {k : Nat}
    {start finish : List String} {o : Outcome} :
    (resolveOne s c r n rep).slot = .pending type k start finish o
      ↔ ∃ t f, type = some t ∧ referenceFor s c rep = .ok (t, some f)
        ∧ f.answer n rep r = .later k start finish o := by
  unfold resolveOne
  cases hf : referenceFor s c rep with
  | error e => simp [failed]
  | ok p =>
    obtain ⟨t, f?⟩ := p
    cases f? with
    | none => simp [settled]
    | some f =>
      cases ha : f.answer n rep r with
      | now result => cases result <;> simp [answered, ha, settled, failed]
      | later k' start' finish' o' =>
        simp only [answered, ha, Slot.pending.injEq, Except.ok.injEq, Prod.mk.injEq, Option.some.injEq]
        constructor
        · rintro ⟨rfl, rfl, rfl, rfl, rfl⟩
          exact ⟨t, f, rfl, ⟨rfl, rfl⟩, ha⟩
        · rintro ⟨t', f', rfl, ⟨rfl, rfl⟩, h⟩
          rw [ha] at h
          cases h
          exact ⟨rfl, rfl, rfl, rfl, rfl⟩

/-- Events in which pending slots take turns. -/
structure TakeTurns (slots : List Slot) (es : List Event) : Prop where
  /-- The events are those of the turns of the queue, and then the warnings. -/
  queue : es = (takeTurns (ready slots)).flatMap (Turn.events .start)
    ++ [⟨gathered .start slots, [], failureRecords ((pendingPositions slots).zip
      (awaited slots (pendingPositions slots)))⟩]
  /-- All pending slots are in the queue, and nothing else. -/
  queued : ∀ (i : Nat) (slot : Slot), (∃ t ∈ ready slots, t.position = i ∧ t.slot = slot)
    ↔ slots[i]? = some slot ∧ slot.isPending = true
  inOrder : (ready slots).Pairwise fun t u => t.position < u.position
  /-- All of them start, in order, before any goes on. -/
  starts : ∃ later, takeTurns (ready slots) = ready slots ++ later ∧ ∀ t ∈ later, 0 < t.round
  /-- In a round those that have not ended take their turns in order, up to the most yields. -/
  rounds : takeTurns (ready slots)
    = (List.range (mostYields slots + 1)).flatMap fun k => roundOf k (ready slots)
  /-- Another answer in the place of one, such as a failing one, changes no turn of the others. -/
  others : ∀ (i : Nat) (slot slot' : Slot), slots[i]? = some slot → slot.isPending = true → slot'.isPending = true →
    (takeTurns (ready (slots.set i slot'))).filter (·.position != i)
      = (takeTurns (ready slots)).filter (·.position != i)
  /-- The last to end is one that yields most often, and then the waiting is over. -/
  ends : slots.any Slot.isPending = true → (∃ t ∈ ready slots, t.slot.yields = mostYields slots)
    ∧ (gathered .start slots).length = mostYields slots + 3

theorem takeTurns_schedule (slots : List Slot) : TakeTurns slots (schedule slots) where
  queue := inOrder_gatherEvents .start slots
  queued := by
    intro i slot
    constructor
    · rintro ⟨t, ht, rfl, rfl⟩
      obtain ⟨-, -, -, hslot, hpending⟩ := mem_readyFrom ht
      exact ⟨hslot, hpending⟩
    · rintro ⟨hslot, hpending⟩
      obtain ⟨t, ht, hposition, ht'⟩ := readyFrom_mem 0 0 hslot hpending
      exact ⟨t, ht, by rw [hposition, Nat.zero_add], ht'⟩
  inOrder := (pairwise_readyFrom slots 0 0).imp fun h => h.1
  starts := by
    rw [takeTurns_ready (Nat.lt_succ_self _), List.range_succ_eq_map, List.flatMap_cons, roundOf_ready]
    refine ⟨_, rfl, fun t ht => ?_⟩
    obtain ⟨k, hk, ht⟩ := List.mem_flatMap.mp ht
    obtain ⟨j, -, rfl⟩ := List.mem_map.mp hk
    obtain ⟨u, -, rfl⟩ := List.mem_map.mp ht
    exact Nat.succ_pos j
  rounds := takeTurns_ready (Nat.lt_succ_self _)
  others := fun _ _ _ hslot hpending hpending' => takeTurns_set hslot hpending hpending'
  ends := by
    intro h
    obtain ⟨slot, hslot, hpending, hyields⟩ := exists_mostYields h
    obtain ⟨i, hi⟩ := List.mem_iff_getElem?.mp hslot
    obtain ⟨t, ht, -, rfl⟩ := readyFrom_mem 0 0 hi hpending
    refine ⟨⟨t, ht, hyields⟩, ?_⟩
    rw [length_gathered .start h, Moment.start, List.length_nil]
    omega

end Resolutions

/-- The answers to representations that come later take turns: they start in the order of the
representations, an answer that yields some number of times ends in the round of this number, those of a
round end in order, and the others do not depend on what one of them comes to. -/
theorem resolutions_take_turns (s : Schema) (c : Classification) (r : Request) (before : Nat)
    (reps : List Value) :
    TakeTurns (resolve s c r before reps).slots (resolve s c r before reps).events
      ∧ ∀ (i : Nat) (rep : Value), reps[i]? = some rep → ∃ n, ∀ type k start finish o,
        (resolve s c r before reps).slots[i]? = some (Slot.pending type k start finish o)
          ↔ ∃ t f, type = some t ∧ referenceFor s c rep = .ok (t, some f)
            ∧ f.answer n rep r = .later k start finish o := by
  refine ⟨takeTurns_schedule _, ?_⟩
  intro i rep hrep
  obtain ⟨n, hn⟩ := resolveAll_getElem? (s := s) (c := c) (r := r) (n := before) hrep
  refine ⟨n, fun type k start finish o => ?_⟩
  rw [← slot_pending_iff, resolve, List.getElem?_map, hn, Option.map_some, Option.some.injEq]

end Subgraph.Federation
