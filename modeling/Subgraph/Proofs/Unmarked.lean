import Subgraph.Console.Line
import Subgraph.Proofs.EntityDeclarations

/-!
# Texts without marks

Only a tag can keep a text from being shown, and a tag starts with an opening bracket. So a text
without one is shown, by itself or behind a key whose own tags match.
-/

namespace Subgraph
namespace Console

/-- A text in which no tag can start. -/
def Unmarked (s : String) : Prop := '[' ∉ s.toList

theorem Unmarked.append {a b : String} (ha : Unmarked a) (hb : Unmarked b) : Unmarked (a ++ b) := by
  intro hmem
  rw [String.toList_append, List.mem_append] at hmem
  exact hmem.elim ha hb

instance : DecidablePred Unmarked := fun s => inferInstanceAs (Decidable ('[' ∉ s.toList))

theorem Unmarked.intercalate {separator : String} {texts : List String}
    (hseparator : Unmarked separator) (htexts : ∀ t ∈ texts, Unmarked t) :
    Unmarked (separator.intercalate texts) := by
  induction texts with
  | nil => exact (by decide : Unmarked "")
  | cons t texts ih =>
    cases texts with
    | nil =>
      rw [String.intercalate_singleton]
      exact htexts t List.mem_cons_self
    | cons u texts =>
      rw [String.intercalate_cons_cons]
      exact ((htexts t List.mem_cons_self).append hseparator).append
        (ih fun v hv => htexts v (List.mem_cons_of_mem t hv))

/-- A part that opens or closes no style. -/
def Part.IsText : Part → Prop
  | .tag .. => False
  | _ => True

theorem parts_unmarked {cs : List Char} (h : '[' ∉ cs) (fuel position : Nat) :
    ∀ p ∈ parts fuel position cs, p.IsText := by
  induction fuel generalizing position cs with
  | zero => simp [parts]
  | succ fuel ih =>
    cases cs with
    | nil => simp [parts]
    | cons a r =>
      have hdrop : ∀ n, ∀ c ∈ (a :: r).drop n, c ∈ a :: r := fun n c hc => List.mem_of_mem_drop hc
      rw [parts]
      · split
        · next r' hr => exact absurd (hdrop _ '[' (hr ▸ List.mem_cons_self)) h
        · next c r' _ hr =>
          intro p hp
          rcases List.mem_cons.mp hp with rfl | hp
          · trivial
          · exact ih (fun hmem => h (hdrop _ '[' (hr ▸ List.mem_cons_of_mem c hmem))) _ p hp
        · intro p hp
          rw [List.mem_singleton.mp hp]
          trivial
      · exact List.cons_ne_nil a r

theorem joined_cons (p : Part) (ps : List Part) : joined (p :: ps)
    = match p, joined ps with
      | .plain a, .plain b :: r => .plain (a ++ b) :: r
      | p, done => p :: done := rfl

theorem joined_unmarked {ps : List Part} (h : ∀ p ∈ ps, p.IsText) : ∀ p ∈ joined ps, p.IsText := by
  induction ps with
  | nil => exact h
  | cons p ps ih =>
    have hrest := ih fun q hq => h q (List.mem_cons_of_mem p hq)
    rw [joined_cons]
    split
    · next a b r hr =>
      rw [hr] at hrest
      intro q hq
      rcases List.mem_cons.mp hq with rfl | hq
      · trivial
      · exact hrest q (List.mem_cons_of_mem _ hq)
    · intro q hq
      rcases List.mem_cons.mp hq with rfl | hq
      · exact h _ List.mem_cons_self
      · exact hrest q hq

theorem foldlM_part_cons {p : Part} {ps : List Part} {r r' : Reading} (h : r.part p = .ok r') :
    (p :: ps).foldlM Reading.part r = ps.foldlM Reading.part r' := by
  rw [List.foldlM_cons, h]
  rfl

theorem foldlM_part_append {ps qs : List Part} {r r' : Reading}
    (h : ps.foldlM Reading.part r = .ok r') :
    (ps ++ qs).foldlM Reading.part r = qs.foldlM Reading.part r' := by
  rw [List.foldlM_append, h]
  rfl

theorem foldlM_part_unmarked {ps : List Part} (h : ∀ p ∈ ps, p.IsText) (r : Reading) :
    ∃ r', ps.foldlM Reading.part r = .ok r' ∧ r'.opened = r.opened ∧ r'.spans = r.spans := by
  induction ps generalizing r with
  | nil => exact ⟨r, rfl, rfl, rfl⟩
  | cons p ps ih =>
    have hstep : ∃ r₁, r.part p = .ok r₁ ∧ r₁.opened = r.opened ∧ r₁.spans = r.spans := by
      cases p with
      | plain cs => exact ⟨_, rfl, rfl, rfl⟩
      | verbatim cs => exact ⟨_, rfl, rfl, rfl⟩
      | tag body position => exact absurd (h _ List.mem_cons_self) id
    obtain ⟨r₁, hr₁, hopened₁, hspans₁⟩ := hstep
    obtain ⟨r', hr', hopened, hspans⟩ := ih (fun q hq => h q (List.mem_cons_of_mem p hq)) r₁
    refine ⟨r', ?_, hopened.trans hopened₁, hspans.trans hspans₁⟩
    rw [foldlM_part_cons hr₁, hr']

/-- What the reading of a text comes to before it is put together. -/
def Reads (s : String) (r : Reading) : Prop :=
  (joined (parts (s.length + 1) 0 s.toList)).foldlM Reading.part ⟨[], [], []⟩ = .ok r

theorem mem_shownSpans {m : Marked} {s : Span} (h : s ∈ m.shownSpans) : s ∈ m.spans := by
  unfold Marked.shownSpans at h
  split at h
  · exact h
  · obtain ⟨p, -, hs⟩ := List.mem_flatMap.mp h
    exact List.mem_of_mem_filter hs

theorem checkStyles_ok {spans : List Span} (h : ∀ s ∈ spans, (Style.read s.style).isOk = true) :
    Marked.checkStyles spans = .ok () :=
  Federation.forM_ok fun s hs => by
    have hok := h s hs
    cases hread : Style.read s.style with
    | error f => rw [hread] at hok; cases hok
    | ok style => rfl

theorem read_ok {s : String} {r : Reading} (h : Reads s r) (hopened : r.opened = []) :
    ∃ m, Marked.read s = .ok m ∧ ∀ t ∈ m.spans, t ∈ r.spans := by
  refine ⟨⟨r.shown.reverse, (((r.opened.map (·.span r.shown.length)).reverse) ++ r.spans).mergeSort
    fun a b => a.start ≤ b.start⟩, ?_, fun t ht => ?_⟩
  · unfold Marked.read
    rw [show (joined (parts (s.length + 1) 0 s.toList)).foldlM Reading.part ⟨[], [], []⟩ = .ok r
      from h]
    rfl
  · simpa [hopened] using ht

theorem print_ok {s : String} {r : Reading} (h : Reads s r) (hopened : r.opened = [])
    (hspans : ∀ s ∈ r.spans, (Style.read s.style).isOk = true) : (print s).isOk = true := by
  obtain ⟨m, hm, hsub⟩ := read_ok h hopened
  have hchecked : Marked.checkStyles m.shownSpans = .ok () :=
    checkStyles_ok fun t ht => hspans t (hsub t (mem_shownSpans ht))
  unfold print
  rw [hm]
  show (Marked.checkStyles m.shownSpans >>= fun _ => _).isOk = true
  rw [hchecked]
  rfl

theorem print_unmarked {s : String} (h : Unmarked s) : (print s).isOk = true := by
  obtain ⟨r, hr, hopened, hspans⟩ :=
    foldlM_part_unmarked (joined_unmarked (parts_unmarked h (s.length + 1) 0)) ⟨[], [], []⟩
  refine print_ok hr hopened fun t ht => ?_
  rw [hspans] at ht
  cases ht

theorem listItem_unmarked {text : String} (h : Unmarked text) :
    (listItem text "-" "").isOk = true := by
  unfold listItem
  rw [if_pos rfl]
  exact print_unmarked (.append (by decide) h)

section Key

theorem parts_tag {cs body r : List Char} (h : tagBody? cs = some (body, r)) (fuel position : Nat) :
    parts (fuel + 1) position ('[' :: cs)
      = .verbatim [] :: .tag body position :: parts fuel (position + (body.length + 2)) r := by
  simp [parts, h, Nat.add_assoc]

theorem parts_text {cs : List Char} (h : ∀ c ∈ cs, c ≠ '[' ∧ c ≠ '\\') (r : List Char)
    (fuel position : Nat) : parts (fuel + cs.length) position (cs ++ r)
      = cs.map (fun c => .plain [c]) ++ parts fuel (position + cs.length) r := by
  induction cs generalizing position with
  | nil => rfl
  | cons c cs ih =>
    obtain ⟨hopening, hslash⟩ := h c List.mem_cons_self
    have hslash : (c == '\\') = false := beq_eq_false_iff_ne.mpr hslash
    have hstep : parts (fuel + cs.length + 1) position (c :: (cs ++ r))
        = .plain [c] :: parts (fuel + cs.length) (position + 1) (cs ++ r) := by
      simp [parts, hslash]
    rw [List.length_cons, ← Nat.add_assoc, List.cons_append, hstep,
      ih fun d hd => h d (List.mem_cons_of_mem c hd)]
    simp only [List.map_cons, List.cons_append, Nat.add_assoc, Nat.add_comm 1]

theorem joined_append_verbatim (ps qs : List Part) (cs : List Char) :
    joined (ps ++ .verbatim cs :: qs) = joined ps ++ .verbatim cs :: joined qs := by
  induction ps with
  | nil => rfl
  | cons p ps ih =>
    rw [List.cons_append, joined_cons, joined_cons, ih]
    cases p with
    | plain a =>
      cases joined ps with
      | nil => rfl
      | cons q r => cases q <;> rfl
    | _ => rfl

def keyTag : List Char := ['d', 'i', 'm']

theorem normalName_key : normalName "dim" = .ok "dim" := by rfl

theorem tag_key (r : Reading) (position : Nat) : r.tag keyTag position
    = .ok { r with opened := ⟨"dim", none, r.shown.length⟩ :: r.opened } := by
  have hsplit : splitTag keyTag = ("dim", none) := by decide +kernel
  have hstart : "dim".startsWith "/" = false := by decide +kernel
  rw [Reading.tag, hsplit]
  simp only [hstart, normalName_key, Bool.false_eq_true, if_false]
  rfl

theorem tag_key_end {r : Reading} {start : Nat} (h : r.opened = [⟨"dim", none, start⟩])
    (position : Nat) : r.tag ('/' :: keyTag) position
      = .ok ⟨r.shown, [], ⟨start, r.shown.length, "dim"⟩ :: r.spans⟩ := by
  have hsplit : splitTag ('/' :: keyTag) = ("/dim", none) := by decide +kernel
  have hstart : "/dim".startsWith "/" = true := by decide +kernel
  have hname : Text.stripped (String.ofList ("/dim".toList.drop 1)) = "dim" := by decide +kernel
  have hplain : "dim".startsWith "@" = false := by decide +kernel
  rw [Reading.tag, hsplit]
  simp only [hstart, hname, normalName_key, if_true]
  rw [if_neg (by decide), h]
  show r.close ⟨"dim", none, start⟩ = _
  simp only [Reading.close, OpenTag.isHandler, hplain, Bool.false_eq_true, if_false, h,
    List.erase_cons_head]
  rfl

theorem parts_key (cs : List Char) {key : List Char} (hkey : ∀ c ∈ key, c ≠ '[' ∧ c ≠ '\\')
    (fuel : Nat) :
    ∃ position after, parts (fuel + 1 + key.length + 1) 0
        ('[' :: (keyTag ++ ']' :: (key ++ '[' :: ('/' :: keyTag ++ ']' :: cs))))
      = .verbatim [] :: .tag keyTag 0 :: (key.map (fun c => .plain [c])
        ++ .verbatim [] :: .tag ('/' :: keyTag) position :: parts fuel after cs) := by
  have hopening : ∀ r, tagBody? (keyTag ++ ']' :: r) = some (keyTag, r) := by
    intro r
    simp [tagBody?, isTagStart, keyTag]
  have hclosing : ∀ r, tagBody? ('/' :: keyTag ++ ']' :: r) = some ('/' :: keyTag, r) := by
    intro r
    simp [tagBody?, isTagStart, keyTag]
  rw [parts_tag (hopening _), parts_text hkey, parts_tag (hclosing _)]
  exact ⟨_, _, rfl⟩

/-- The words that stand before the directives of a type. -/
def directivesKey : List Char :=
  [' ', ' ', 'd', 'i', 'r', 'e', 'c', 't', 'i', 'v', 'e', 's', ':']

theorem directivesKey_text : ∀ c ∈ directivesKey, c ≠ '[' ∧ c ≠ '\\' := by
  simp [directivesKey]

theorem directivesKey_shown : "[" ++ keyStyle ++ "]" ++ "  directives" ++ ":[/" ++ keyStyle ++ "] "
    = "[dim]  directives:[/dim] " := by decide +kernel

theorem directivesKey_toList (value : String) :
    ("[dim]  directives:[/dim] " ++ value).toList
      = '[' :: (keyTag ++ ']' :: (directivesKey
          ++ '[' :: ('/' :: keyTag ++ ']' :: (' ' :: value.toList)))) := by
  have hstart : "[dim]  directives:[/dim] ".toList
      = '[' :: (keyTag ++ ']' :: (directivesKey ++ '[' :: ('/' :: keyTag ++ ']' :: [' ']))) := by
    decide +kernel
  rw [String.toList_append, hstart]
  simp only [List.cons_append, List.append_assoc, List.nil_append]

theorem directivesKey_length (value : String) :
    ("[dim]  directives:[/dim] " ++ value).length + 1
      = value.length + 11 + 1 + directivesKey.length + 1 := by
  have hprefix : "[dim]  directives:[/dim] ".length = 25 := by decide +kernel
  have hkey : directivesKey.length = 13 := rfl
  rw [String.length_append, hprefix, hkey]
  omega

/-- The parts of a text behind the key: the value is read after the style of the key is closed. -/
theorem joined_directivesKey (value : String) : ∃ position after,
    joined (parts (value.length + 11 + 1 + directivesKey.length + 1) 0
        ('[' :: (keyTag ++ ']' :: (directivesKey
          ++ '[' :: ('/' :: keyTag ++ ']' :: (' ' :: value.toList))))))
      = .verbatim [] :: .tag keyTag 0 :: (joined (directivesKey.map fun c => .plain [c])
        ++ .verbatim [] :: .tag ('/' :: keyTag) position
          :: joined (parts (value.length + 11) after (' ' :: value.toList))) := by
  obtain ⟨position, after, hparts⟩ :=
    parts_key (' ' :: value.toList) directivesKey_text (value.length + 11)
  refine ⟨position, after, ?_⟩
  rw [hparts, joined_cons, joined_cons, joined_append_verbatim]
  rfl

theorem keyValue_unmarked {value : String} (h : Unmarked value) :
    (keyValue "  directives" value keyStyle).isOk = true := by
  obtain ⟨position, after, hjoined⟩ := joined_directivesKey value
  have htail : '[' ∉ ' ' :: value.toList := by
    rw [List.mem_cons, not_or]
    exact ⟨by decide, h⟩
  have htext := joined_unmarked (parts_unmarked htail (value.length + 11) after)
  have hkeyText : ∀ p ∈ joined (directivesKey.map fun c => Part.plain [c]), p.IsText :=
    joined_unmarked fun p hp => by
      obtain ⟨c, -, rfl⟩ := List.mem_map.mp hp
      trivial
  -- The style of the key is opened, the key is read, the style is closed, and the value is read.
  obtain ⟨r₀, hr₀, hstart⟩ : ∃ r₀ : Reading, (⟨[], [], []⟩ : Reading).part (.verbatim []) = .ok r₀
      ∧ r₀.spans = [] ∧ r₀.opened = [] := ⟨_, rfl, rfl, rfl⟩
  obtain ⟨r₁, hr₁, hopened₁, hspans₁⟩ := foldlM_part_unmarked hkeyText
    { r₀ with opened := [⟨"dim", none, r₀.shown.length⟩] }
  obtain ⟨r₂, hr₂, hopened₂, hspans₂⟩ : ∃ r₂ : Reading, r₁.part (.verbatim []) = .ok r₂
      ∧ r₂.opened = r₁.opened ∧ r₂.spans = r₁.spans := ⟨_, rfl, rfl, rfl⟩
  obtain ⟨r₃, hr₃, hopened₃, hspans₃⟩ := foldlM_part_unmarked htext
    ⟨r₂.shown, [], ⟨r₀.shown.length, r₂.shown.length, "dim"⟩ :: r₂.spans⟩
  have hopening : r₀.part (.tag keyTag 0)
      = .ok { r₀ with opened := [⟨"dim", none, r₀.shown.length⟩] } := by
    show r₀.tag keyTag 0 = _
    rw [tag_key, hstart.2]
  have hclosing : r₂.part (.tag ('/' :: keyTag) position)
      = .ok ⟨r₂.shown, [], ⟨r₀.shown.length, r₂.shown.length, "dim"⟩ :: r₂.spans⟩ :=
    tag_key_end (hopened₂.trans hopened₁) position
  have hreads : Reads ("[dim]  directives:[/dim] " ++ value) r₃ := by
    rw [Reads, directivesKey_toList, directivesKey_length, hjoined, foldlM_part_cons hr₀,
      foldlM_part_cons hopening, foldlM_part_append hr₁, foldlM_part_cons hr₂,
      foldlM_part_cons hclosing, hr₃]
  unfold keyValue
  rw [directivesKey_shown]
  refine print_ok hreads hopened₃ fun t ht => ?_
  rw [hspans₃, hspans₂, hspans₁, hstart.1, List.mem_singleton] at ht
  rw [ht]
  exact (by decide +kernel : (Style.read "dim").isOk = true)

end Key

end Console
end Subgraph
