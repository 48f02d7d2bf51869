import Mathlib.Data.List.Basic
import Mathlib.Data.List.Forall2
import Mathlib.Data.List.Induction
import Subgraph.Federation.KeyFields
import Subgraph.Proofs.Scanning
import Subgraph.Text.Blank

/-!
# Selections and the key sets that write them

A key set writes a selection if its texts, one after another, spell the names and braces of the selection.
White space and commas may stand between them anywhere, two names must be kept apart, and a text may end
between any two of them, also inside braces. However a selection is written, its key set has the names at
the top of the selection, each once and in the order in which they first stand there.
-/

namespace Subgraph.Federation
open Text

/-- Fields in order, each of which may have a selection of its own below it. -/
inductive KeySelection where
  | nil
  | field (name : String) (rest : KeySelection)
  | nested (name : String) (below rest : KeySelection)
  deriving DecidableEq, Repr

namespace KeySelection

/-- The names at the top, as often as they stand there. -/
def names : KeySelection → List String
  | .nil => []
  | .field n rest => n :: rest.names
  | .nested n _ rest => n :: rest.names

def tokens : KeySelection → List KeyToken
  | .nil => []
  | .field n rest => .name n :: rest.tokens
  | .nested n below rest => .name n :: .opening :: (below.tokens ++ .closing :: rest.tokens)

end KeySelection

def separates (c : Char) : Bool := isWhite c || c == ','

/-- A text that is made of tokens and separators. A name ends where no more characters of names follow. -/
inductive Spells : List KeyToken → List Char → Prop
  | nil : Spells [] []
  | separator {c : Char} {ts : List KeyToken} {cs : List Char} (hc : separates c = true)
      (h : Spells ts cs) : Spells ts (c :: cs)
  | opening {ts : List KeyToken} {cs : List Char} (h : Spells ts cs) :
      Spells (.opening :: ts) ('\x7b' :: cs)
  | closing {ts : List KeyToken} {cs : List Char} (h : Spells ts cs) :
      Spells (.closing :: ts) ('\x7d' :: cs)
  | name {n : String} {ts : List KeyToken} {cs : List Char} (hn : Token.isName n = true)
      (hend : ∀ c ∈ cs.head?, isNameChar c = false) (h : Spells ts cs) :
      Spells (.name n :: ts) (n.toList ++ cs)

/-- The texts of a key set spell the tokens of a selection, each text a part of them. -/
def Writes (sel : KeySelection) (k : KeySet) : Prop :=
  ∃ parts : List (List KeyToken), parts.flatten = sel.tokens
    ∧ List.Forall₂ (fun ts piece => Spells ts piece.toList) parts k

/-- The items of a list, each once, in the order in which they first stand there. -/
structure FirstsOf (names firsts : List String) : Prop where
  nodup : firsts.Nodup
  mem : ∀ n, n ∈ firsts ↔ n ∈ names
  ordered : firsts.Pairwise fun m n => names.idxOf m < names.idxOf n

section Text

theorem separates_apart {c : Char} (hc : separates c = true) :
    isNameChar c = false ∧ c ≠ '\x7b' ∧ c ≠ '\x7d' := by
  have hall : ∀ n < 128, separates (Char.ofNat n) = true →
      isNameChar (Char.ofNat n) = false ∧ Char.ofNat n ≠ '\x7b' ∧ Char.ofNat n ≠ '\x7d' := by
    decide +kernel
  by_cases hascii : c.toNat < 128
  · have hchar := hall c.toNat hascii
    rw [Char.ofNat_toNat] at hchar
    exact hchar hc
  · refine ⟨?_, ?_, ?_⟩
    · by_contra hname
      exact hascii (Token.isNameChar_ascii ((Bool.not_eq_false _).mp hname))
    · rintro rfl
      exact hascii (by decide)
    · rintro rfl
      exact hascii (by decide)

theorem ends_before {c : Char} {cs : List Char} (hc : isNameChar c = false) :
    ∀ d ∈ (c :: cs).head?, isNameChar d = false := by
  intro d hd
  obtain rfl := Option.mem_some.mp hd
  exact hc

theorem blank_separates : separates ' ' = true := by decide

theorem Spells.append {ts us : List KeyToken} {cs ds : List Char} {c : Char} (hc : separates c = true)
    (h : Spells ts cs) (h' : Spells us ds) : Spells (ts ++ us) (cs ++ c :: ds) := by
  induction h with
  | nil => exact .separator hc h'
  | separator hd _ ih => exact .separator hd ih
  | opening _ ih => exact .opening ih
  | closing _ ih => exact .closing ih
  | @name n ts cs hn hend _ ih =>
    rw [List.cons_append, List.append_assoc]
    refine .name hn ?_ ih
    cases cs with
    | nil => exact ends_before (separates_apart hc).1
    | cons b cs => exact hend

theorem joined_cons_cons (a b : String) (k : KeySet) :
    (KeySet.joined (a :: b :: k)).toList = a.toList ++ ' ' :: (KeySet.joined (b :: k)).toList := by
  simp [KeySet.joined, String.intercalate_cons_cons]

theorem spells_joined {parts : List (List KeyToken)} {k : KeySet}
    (h : List.Forall₂ (fun ts piece => Spells ts piece.toList) parts k) :
    Spells parts.flatten k.joined.toList := by
  induction h with
  | nil => exact .nil
  | @cons ts a parts k hpiece hrest ih =>
    cases hrest with
    | nil => simpa [KeySet.joined] using hpiece
    | cons hnext hmore =>
      rw [List.flatten_cons, joined_cons_cons]
      exact hpiece.append blank_separates ih

end Text

namespace KeyToken

theorem scan_run {pending w : List Char} (cs : List Char) (hpending : pending ≠ [])
    (hw : w.all isNameChar = true) : scan pending (w ++ cs) = scan (w.reverse ++ pending) cs := by
  induction w generalizing pending with
  | nil => rfl
  | cons c w ih =>
    obtain ⟨hc, hw⟩ := Bool.and_eq_true_iff.mp hw
    have hgoes : (isNameStart c || (!pending.isEmpty && isDigit c)) = true := by
      simpa [isNameChar, hpending] using hc
    rw [List.cons_append, scan, if_pos hgoes, ih (List.cons_ne_nil c pending) hw]
    simp

theorem scan_end {pending cs : List Char} (hend : ∀ c ∈ cs.head?, isNameChar c = false) :
    scan pending cs = finish pending (scan [] cs) := by
  cases cs with
  | nil => rfl
  | cons c cs =>
    have hc : isNameChar c = false := hend c rfl
    simp only [isNameChar, Bool.or_eq_false_iff] at hc
    simp only [scan, hc.1, hc.2, Bool.and_false, Bool.or_self, Bool.false_eq_true, if_false]
    split
    · rfl
    · split <;> rfl

theorem scan_name {n : String} {cs : List Char} (hn : Token.isName n = true)
    (hend : ∀ c ∈ cs.head?, isNameChar c = false) :
    scan [] (n.toList ++ cs) = .name n :: scan [] cs := by
  obtain ⟨hhead, hall⟩ := Bool.and_eq_true_iff.mp hn
  cases hcs : n.toList with
  | nil =>
    rw [hcs] at hhead
    cases hhead
  | cons c w =>
    rw [hcs] at hhead hall
    have hstart : isNameStart c = true := hhead
    have hrun := scan_run cs (List.cons_ne_nil c []) (Bool.and_eq_true_iff.mp hall).2
    have hname : String.ofList (w.reverse ++ [c]).reverse = n := by
      rw [List.reverse_append, List.reverse_reverse, List.reverse_singleton, List.singleton_append, ← hcs,
        String.ofList_toList]
    rw [List.cons_append, scan, hstart, Bool.true_or, if_pos rfl, hrun, scan_end hend, finish, hname]
    simp

theorem scan_spells {ts : List KeyToken} {cs : List Char} (h : Spells ts cs) : scan [] cs = ts := by
  -- The induction is on how the tokens are spelled out, character by character.
  induction h with
  | nil => rfl
  | @separator c ts cs hc _ ih =>
    obtain ⟨hname, hopening, hclosing⟩ := separates_apart hc
    have hstart : isNameStart c = false := by
      simp only [isNameChar, Bool.or_eq_false_iff] at hname
      exact hname.1
    rw [scan, hstart, if_neg (by simp), if_neg hopening, if_neg hclosing, ih]
    rfl
  | opening _ ih =>
    rw [scan, if_neg (by decide), if_pos rfl, ih]
    rfl
  | closing _ ih =>
    rw [scan, if_neg (by decide), if_neg (by decide), if_pos rfl, ih]
    rfl
  | name hn hend _ ih => rw [scan_name hn hend, ih]

theorem atTop_below (sel : KeySelection) {depth : Int} (hdepth : 0 < depth) (rest : List KeyToken) :
    atTop depth (sel.tokens ++ rest) = atTop depth rest := by
  induction sel generalizing depth rest with
  | nil => rfl
  | field n more ih =>
    rw [KeySelection.tokens, List.cons_append, atTop, if_neg (by omega), ih hdepth]
  | nested n below more ihbelow ih =>
    have hback : depth + 1 - 1 = depth := by omega
    rw [KeySelection.tokens, List.cons_append, List.cons_append, List.append_assoc, List.cons_append,
      atTop, if_neg (by omega), atTop, ihbelow (by omega), atTop, hback, ih hdepth]

theorem atTop_tokens (sel : KeySelection) (rest : List KeyToken) :
    atTop 0 (sel.tokens ++ rest) = sel.names ++ atTop 0 rest := by
  induction sel generalizing rest with
  | nil => rfl
  | field n more ih =>
    rw [KeySelection.tokens, List.cons_append, atTop, if_pos rfl, ih, KeySelection.names,
      List.cons_append]
  | nested n below more _ ih =>
    rw [KeySelection.tokens, List.cons_append, List.cons_append, List.append_assoc, List.cons_append,
      atTop, if_pos rfl, atTop, atTop_below below (by omega), atTop]
    show n :: atTop 0 (more.tokens ++ rest) = n :: more.names ++ atTop 0 rest
    rw [ih, List.cons_append]

end KeyToken

section Firsts
variable {names firsts : List String} {n : String}

theorem FirstsOf.idxOf_append (h : FirstsOf names firsts) {m : String} (hm : m ∈ firsts) :
    (names ++ [n]).idxOf m = names.idxOf m :=
  List.idxOf_append_of_mem ((h.mem m).mp hm)

theorem FirstsOf.ordered_append (h : FirstsOf names firsts) :
    firsts.Pairwise fun l m => (names ++ [n]).idxOf l < (names ++ [n]).idxOf m := by
  apply h.ordered.imp_of_mem
  intro l m hl hm hlt
  rw [h.idxOf_append hl, h.idxOf_append hm]
  exact hlt

theorem FirstsOf.again (h : FirstsOf names firsts) (hn : n ∈ names) :
    FirstsOf (names ++ [n]) firsts where
  nodup := h.nodup
  mem m := by
    rw [h.mem, List.mem_append, List.mem_singleton]
    constructor
    · exact .inl
    · rintro (hm | rfl)
      · exact hm
      · exact hn
  ordered := h.ordered_append

theorem FirstsOf.new (h : FirstsOf names firsts) (hn : n ∉ names) :
    FirstsOf (names ++ [n]) (firsts ++ [n]) where
  nodup := by
    refine List.nodup_append.mpr ⟨h.nodup, List.pairwise_singleton _ n, ?_⟩
    rintro m hm l hl rfl
    rw [List.mem_singleton.mp hl] at hm
    exact hn ((h.mem n).mp hm)
  mem m := by rw [List.mem_append, List.mem_append, h.mem]
  ordered := by
    rw [List.pairwise_append]
    refine ⟨h.ordered_append, List.pairwise_singleton _ _, ?_⟩
    intro l hl m hm
    obtain rfl := List.mem_singleton.mp hm
    have hlt := List.idxOf_lt_length_of_mem ((h.mem l).mp hl)
    rw [h.idxOf_append hl, List.idxOf_append_of_notMem hn]
    omega

end Firsts

theorem firstsOf_eraseDups (names : List String) : FirstsOf names names.eraseDups := by
  induction names using List.reverseRecOn with
  | nil => exact ⟨List.nodup_nil, fun n => Iff.rfl, .nil⟩
  | append_singleton names n ih =>
    rw [List.eraseDups_append]
    by_cases hn : n ∈ names
    · have hnone : [n].removeAll names = [] := by simp [List.removeAll, hn]
      rw [hnone, List.eraseDups_nil, List.append_nil]
      exact ih.again hn
    · have hone : [n].removeAll names = [n] := by simp [List.removeAll, hn]
      rw [hone, List.eraseDups_cons, List.filter_nil, List.eraseDups_nil]
      exact ih.new hn

/-- Whatever writes a selection has the names at its top. -/
theorem Writes.topNames_eq {sel : KeySelection} {k : KeySet} (h : Writes sel k) :
    k.topNames = sel.names.eraseDups := by
  obtain ⟨parts, hparts, hspells⟩ := h
  have htokens : k.tokens = sel.tokens := by
    rw [KeySet.tokens, KeyToken.scan_spells (spells_joined hspells), hparts]
  have htop := KeyToken.atTop_tokens sel []
  rw [List.append_nil, ← htokens] at htop
  rw [KeySet.topNames, htop, KeyToken.atTop, List.append_nil]

/-- However a selection is written, in one text or in several, its key set has the names at the top of the
selection, each once and in the order in which they first stand there, and no names from inside braces. -/
theorem topNames_of_writes {sel : KeySelection} {k : KeySet} (h : Writes sel k) :
    FirstsOf sel.names k.topNames ∧ ∀ k', Writes sel k' → k'.topNames = k.topNames := by
  rw [h.topNames_eq]
  exact ⟨firstsOf_eraseDups sel.names, fun k' h' => h'.topNames_eq⟩

section Written

/-- The fields of a user and the name of the owner, with `id` at the top and below. -/
def ownedSelection : KeySelection :=
  .field "id" (.nested "owner" (.field "id" (.field "name" .nil)) (.field "id" (.field "sku" .nil)))

/-- The selection in two texts. The first ends inside braces. -/
def ownedPieces : KeySet := ["id,owner\x7bid", "\tname\x7did sku"]

theorem writes_ownedPieces : Writes ownedSelection ownedPieces := by
  refine ⟨[[.name "id", .name "owner", .opening, .name "id"],
    [.name "name", .closing, .name "id", .name "sku"]], rfl, .cons ?_ (.cons ?_ .nil)⟩
  · have hpiece : "id,owner\x7bid".toList
        = "id".toList ++ ',' :: ("owner".toList ++ '\x7b' :: ("id".toList ++ [])) := by decide
    rw [hpiece]
    exact .name (by decide) (ends_before (by decide)) (.separator (by decide)
      (.name (by decide) (ends_before (by decide)) (.opening (.name (by decide) (by simp) .nil))))
  · have hpiece : "\tname\x7did sku".toList
        = '\t' :: ("name".toList ++ '\x7d' :: ("id".toList ++ ' ' :: ("sku".toList ++ []))) := by
      decide
    rw [hpiece]
    exact .separator (by decide) (.name (by decide) (ends_before (by decide)) (.closing
      (.name (by decide) (ends_before (by decide)) (.separator (by decide)
        (.name (by decide) (by simp) .nil)))))

theorem topNames_of_writes_owned : Writes ownedSelection ownedPieces
    ∧ FirstsOf ["id", "owner", "id", "sku"] ownedPieces.topNames
    ∧ ownedPieces.topNames = ["id", "owner", "sku"] :=
  ⟨writes_ownedPieces, (topNames_of_writes writes_ownedPieces).1, by decide +kernel⟩

end Written

end Subgraph.Federation
