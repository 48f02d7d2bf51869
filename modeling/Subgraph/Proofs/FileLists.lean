import Mathlib.Logic.Function.Iterate
import Subgraph.Files.Resolve
import Subgraph.Proofs.FileTrees

/-!
# Lists of schema files

Locations are resolved to an ordered list without repetitions, whatever their order and however often each is
given. The list holds the files that are given and what has the name of a schema file below the folders that
are given, be it a file or a folder. Where no such folder is found the list is canonical: it holds files only
and is resolved to itself. Otherwise a folder that was found is opened when the list is resolved again, and
after some rounds the files alone are left.
-/

namespace Subgraph

namespace Location

section Order
variable {l m : Location} {ls ms : List Location}

theorem isPart_ne_root {r : Root} (hr : r ≠ .here) : ¬ IsPart r.text := by
  cases r with
  | here => exact absurd rfl hr
  | top => decide
  | doubled => decide

theorem sortKey_here (h : l.root = .here) : l.sortKey = l.parts := by
  simp [sortKey, isAbsolute, h]

theorem sortKey_root (h : l.root ≠ .here) : l.sortKey = l.root.text :: l.parts := by
  simp [sortKey, isAbsolute, h]

theorem Root.text_injective {r s : Root} (h : r.text = s.text) : r = s := by
  cases r <;> cases s <;> simp_all [Root.text]

/-- Locations whose parts count are told apart by what they are compared by: no part is written like a root. -/
theorem eq_of_sortKey (hl : l.IsWritten) (hm : m.IsWritten) (h : l.sortKey = m.sortKey) : l = m := by
  obtain ⟨r, ps⟩ := l
  obtain ⟨s, qs⟩ := m
  by_cases hr : r = .here <;> by_cases hs : s = .here
  · rw [sortKey_here hr, sortKey_here hs] at h
    simp only at h
    rw [hr, hs, h]
  · rw [sortKey_here hr, sortKey_root hs] at h
    exact absurd (hl s.text (h ▸ List.mem_cons_self)) (isPart_ne_root hs)
  · rw [sortKey_root hr, sortKey_here hs] at h
    exact absurd (hm r.text (h ▸ List.mem_cons_self)) (isPart_ne_root hr)
  · rw [sortKey_root hr, sortKey_root hs] at h
    obtain ⟨hroot, hparts⟩ := List.cons.inj h
    simp only at hroot hparts
    rw [Root.text_injective hroot, hparts]

theorem isBefore_iff : l.isBefore m = true ↔ l.sortKey < m.sortKey := decide_eq_true_iff

theorem isBefore_irrefl (l : Location) : ¬ l.isBefore l = true :=
  fun h => List.lt_irrefl _ (isBefore_iff.mp h)

theorem isBefore_asymm (h : l.isBefore m = true) : ¬ m.isBefore l = true :=
  fun h' => List.lt_asymm (isBefore_iff.mp h) (isBefore_iff.mp h')

theorem not_isBefore_trans (k l m : Location) (h : (!l.isBefore k) = true) (h' : (!m.isBefore l) = true) :
    (!m.isBefore k) = true := by
  simp only [Bool.not_eq_true', Bool.eq_false_iff, ne_eq, isBefore_iff, List.not_lt] at h h' ⊢
  exact List.le_trans h h'

theorem not_isBefore_total (l m : Location) : (!m.isBefore l || !l.isBefore m) = true := by
  cases h : m.isBefore l with
  | false => rfl
  | true => simpa using isBefore_asymm h

theorem isBefore_of_not (hl : l.IsWritten) (hm : m.IsWritten) (hne : l ≠ m) (h : (!m.isBefore l) = true) :
    l.isBefore m = true := by
  simp only [Bool.not_eq_true', Bool.eq_false_iff, ne_eq, isBefore_iff] at h ⊢
  by_contra hnot
  exact hne (eq_of_sortKey hl hm (List.le_antisymm (List.not_lt.mp h) (List.not_lt.mp hnot)))

/-- Each location comes before all those behind it. -/
def IsOrdered (ls : List Location) : Prop := ls.Pairwise fun l m => l.isBefore m = true

instance (ls : List Location) : Decidable (IsOrdered ls) := inferInstanceAs (Decidable (List.Pairwise _ ls))

theorem IsOrdered.nodup (h : IsOrdered ls) : ls.Nodup := by
  refine List.Pairwise.imp (fun hbefore heq => ?_) h
  rw [heq] at hbefore
  exact isBefore_irrefl _ hbefore

theorem IsOrdered.eq (h : IsOrdered ls) (h' : IsOrdered ms) (hmem : ∀ l, l ∈ ls ↔ l ∈ ms) : ls = ms :=
  List.Perm.eq_of_pairwise (fun _ _ _ _ hlm hml => absurd hml (isBefore_asymm hlm)) h h'
    ((List.perm_ext_iff_of_nodup h.nodup h'.nodup).mpr hmem)

end Order
end Location

namespace Files
open FileTree

/-- A location offers the file that it leads to. If it leads to a folder, it offers what names lead to
from there and has the name of a schema file. -/
inductive Offers (d : Disk) (m : Location) : Location → FileTree → Prop
  | file {text : String} (leads : d.find? m = some (.file text)) : Offers d m m (.file text)
  | below {es : Entries FileTree} {names : List String} {t : FileTree} (leads : d.find? m = some (.folder es))
      (strict : names ≠ []) (found : (FileTree.folder es).find? names = some t)
      (named : hasSchemaName names = true) : Offers d m (m.append names) t

/-- One of the locations offers a tree. -/
def Offered (d : Disk) (ls : List Location) (l : Location) (t : FileTree) : Prop := ∃ m ∈ ls, Offers d m l t

/-- Below one of the locations there is a folder with the name of a schema file. -/
def OffersFolder (d : Disk) (ls : List Location) : Prop := ∃ l es, Offered d ls l (.folder es)

section Offers
variable {d : Disk} {k l m : Location} {ls ms : List Location} {t u : FileTree} {es : Entries FileTree}

theorem hasSchemaName_append {names : List String} (h : names ≠ []) (above : List String) :
    hasSchemaName (above ++ names) = hasSchemaName names := by
  rw [hasSchemaName, hasSchemaName, List.getLast?_append_of_ne_nil _ h]

theorem mem_resolveOne (hd : d.tree.IsProper) : l ∈ resolveOne d m ↔ ∃ t, Offers d m l t := by
  unfold resolveOne
  constructor
  · intro hl
    split at hl
    · cases hl
    · next text hm =>
      obtain rfl := List.mem_singleton.mp hl
      exact ⟨_, .file hm⟩
    · next t hfile hm =>
      obtain ⟨⟨names, u⟩, hmem, rfl⟩ := List.mem_map.mp hl
      obtain ⟨hmem, hnamed⟩ := List.mem_filter.mp hmem
      obtain ⟨hne, hfind⟩ := (mem_contents (Disk.isProper_of_find? hd hm)).mp hmem
      cases t with
      | file text => exact absurd rfl (hfile text)
      | folder es => exact ⟨u, .below hm hne hfind hnamed⟩
  · rintro ⟨t, ⟨hm⟩ | ⟨hm, hne, hfind, hnamed⟩⟩
    · rw [hm]
      exact List.mem_singleton_self _
    · rw [hm]
      refine List.mem_map.mpr ⟨(_, t), List.mem_filter.mpr ⟨?_, hnamed⟩, rfl⟩
      exact (mem_contents (Disk.isProper_of_find? hd hm)).mpr ⟨hne, hfind⟩

theorem isEntryName_below (hd : d.tree.IsProper) {names : List String} (hm : d.find? m = some u)
    (hfind : u.find? names = some t) : ∀ n ∈ names, IsEntryName n :=
  ((Disk.isProper_of_find? hd hm).find? hfind).1

theorem find?_below (hd : d.tree.IsProper) {names : List String} (hm : d.find? m = some u)
    (hfind : u.find? names = some t) : d.find? (m.append names) = some t := by
  have hnames := isEntryName_below hd hm hfind
  rw [Disk.find?_append d m fun h => (hnames _ h).2 rfl, hm]
  exact hfind

theorem Offers.find? (hd : d.tree.IsProper) (h : Offers d m l t) : d.find? l = some t := by
  cases h with
  | file hm => exact hm
  | below hm _ hfind => exact find?_below hd hm hfind

theorem Offers.written (hd : d.tree.IsProper) (hm : m.IsWritten) (h : Offers d m l t) : l.IsWritten := by
  cases h with
  | file => exact hm
  | below hleads _ hfind =>
    exact List.forall_mem_append.mpr ⟨hm, fun n hn => (isEntryName_below hd hleads hfind n hn).1⟩

theorem Offers.length_lt (h : Offers d m l (.folder es)) : m.parts.length < l.parts.length := by
  cases h with
  | below _ hne =>
    have hpos := List.length_pos_iff.mpr hne
    simp only [Location.append, List.length_append]
    omega

theorem Offers.trans (hd : d.tree.IsProper) (h : Offers d k m u) (h' : Offers d m l t) : Offers d k l t := by
  cases h' with
  | file hm =>
    obtain rfl := Option.some.inj ((h.find? hd).symm.trans hm)
    exact h
  | @below es names _ hm hne hfind hnamed =>
    obtain rfl := Option.some.inj ((h.find? hd).symm.trans hm)
    cases h with
    | @below _ above _ hk _ habove =>
      rw [show (k.append above).append names = k.append (above ++ names) by simp [Location.append]]
      refine .below hk (by simp [hne]) ?_ (by rw [hasSchemaName_append hne]; exact hnamed)
      rw [find?_append, habove]
      exact hfind

theorem Offered.find? (hd : d.tree.IsProper) (h : Offered d ls l t) : d.find? l = some t := by
  obtain ⟨m, _, h⟩ := h
  exact h.find? hd

theorem mem_resolve (hd : d.tree.IsProper) : l ∈ resolve d ls ↔ ∃ t, Offered d ls l t := by
  rw [resolve, List.mem_mergeSort, List.mem_eraseDups, List.mem_flatMap]
  simp only [mem_resolveOne hd, Offered]
  exact ⟨fun ⟨m, hm, t, h⟩ => ⟨t, m, hm, h⟩, fun ⟨t, m, hm, h⟩ => ⟨m, hm, t, h⟩⟩

theorem written_resolve (hd : d.tree.IsProper) (hls : ∀ l ∈ ls, l.IsWritten) :
    ∀ l ∈ resolve d ls, l.IsWritten := by
  intro l hl
  obtain ⟨t, m, hm, h⟩ := (mem_resolve hd).mp hl
  exact h.written hd (hls m hm)

theorem isOrdered_resolve (hd : d.tree.IsProper) (hls : ∀ l ∈ ls, l.IsWritten) :
    Location.IsOrdered (resolve d ls) := by
  have hsorted : (resolve d ls).Pairwise fun l m => (!m.isBefore l) = true :=
    @List.pairwise_mergeSort Location (fun l m => !m.isBefore l) Location.not_isBefore_trans
      Location.not_isBefore_total _
  have hnodup : (resolve d ls).Nodup := (List.mergeSort_perm _ _).nodup_iff.mpr (nodup_eraseDups _)
  refine (hsorted.and hnodup).imp_of_mem fun hl hm h => ?_
  exact Location.isBefore_of_not (written_resolve hd hls _ hl) (written_resolve hd hls _ hm) h.2 h.1

theorem resolve_eq_of_isOrdered (hd : d.tree.IsProper) (hls : ∀ l ∈ ls, l.IsWritten)
    (hordered : Location.IsOrdered ms) (hperm : ms.Perm (ls.flatMap (resolveOne d)).eraseDups) :
    resolve d ls = ms := by
  refine (isOrdered_resolve hd hls).eq hordered fun l => ?_
  rw [resolve, List.mem_mergeSort, hperm.mem_iff]

/-- Locations are resolved by what they are, not by their order and repetitions. -/
theorem resolve_congr (hd : d.tree.IsProper) (hls : ∀ l ∈ ls, l.IsWritten) (h : ∀ l, l ∈ ms ↔ l ∈ ls) :
    resolve d ms = resolve d ls := by
  refine (isOrdered_resolve hd fun l hl => hls l ((h l).mp hl)).eq (isOrdered_resolve hd hls) fun l => ?_
  simp only [mem_resolve hd, Offered, h]

theorem offersFolder_iff (hd : d.tree.IsProper) : OffersFolder d ls
    ↔ (ls.flatMap (resolveOne d)).any (fun l => (d.find? l).any (·.isFolder)) = true := by
  simp only [List.any_eq_true, List.mem_flatMap, mem_resolveOne hd]
  constructor
  · rintro ⟨l, es, m, hm, h⟩
    exact ⟨l, ⟨m, hm, _, h⟩, by rw [h.find? hd]; rfl⟩
  · rintro ⟨l, ⟨m, hm, t, h⟩, hfolder⟩
    rw [h.find? hd] at hfolder
    cases t with
    | file text => cases hfolder
    | folder es => exact ⟨l, es, m, hm, h⟩

end Offers

/-- The list of the files that locations offer. -/
structure IsFileList (d : Disk) (ls fs : List Location) : Prop where
  files : ∀ l, l ∈ fs ↔ ∃ text, Offered d ls l (.file text)
  ordered : Location.IsOrdered fs
  distinct : fs.Nodup

section Rounds
variable {d : Disk} {l : Location} {ls fs : List Location} {text : String} {es : Entries FileTree}

theorem IsFileList.unique {gs : List Location} (h : IsFileList d ls fs) (h' : IsFileList d ls gs) : fs = gs :=
  h.ordered.eq h'.ordered fun l => (h.files l).trans (h'.files l).symm

theorem mem_of_mem_again (hd : d.tree.IsProper) (h : l ∈ resolve d (resolve d ls)) : l ∈ resolve d ls := by
  obtain ⟨t, m, hm, h⟩ := (mem_resolve hd).mp h
  obtain ⟨u, k, hk, hoffers⟩ := (mem_resolve hd).mp hm
  exact (mem_resolve hd).mpr ⟨t, k, hk, hoffers.trans hd h⟩

theorem mem_of_mem_rounds (hd : d.tree.IsProper) {n : Nat} (h : l ∈ (resolve d)^[n + 1] ls) :
    l ∈ resolve d ls := by
  induction n with
  | zero => exact h
  | succ n ih =>
    rw [Function.iterate_succ_apply', Function.iterate_succ_apply'] at h
    rw [Function.iterate_succ_apply'] at ih
    exact ih (mem_of_mem_again hd h)

theorem file_mem_rounds (hd : d.tree.IsProper) (hl : d.find? l = some (.file text)) (h : l ∈ ls) (n : Nat) :
    l ∈ (resolve d)^[n] ls := by
  induction n with
  | zero => exact h
  | succ n ih =>
    rw [Function.iterate_succ_apply']
    exact (mem_resolve hd).mpr ⟨_, l, ih, .file hl⟩

/-- A folder is listed the deeper, the more rounds there were: the one that offers it is listed before. -/
theorem length_of_folder (hd : d.tree.IsProper) {n : Nat} (h : l ∈ (resolve d)^[n] ls)
    (hl : d.find? l = some (.folder es)) : n ≤ l.parts.length := by
  induction n generalizing l es with
  | zero => exact Nat.zero_le _
  | succ n ih =>
    rw [Function.iterate_succ_apply'] at h
    obtain ⟨t, m, hm, hoffers⟩ := (mem_resolve hd).mp h
    obtain rfl := Option.some.inj ((hoffers.find? hd).symm.trans hl)
    have hlt := hoffers.length_lt
    cases hoffers with
    | below hleads =>
      have hle := ih hm hleads
      omega

theorem isOrdered_rounds (hd : d.tree.IsProper) (hls : ∀ l ∈ ls, l.IsWritten) (n : Nat) :
    Location.IsOrdered ((resolve d)^[n + 1] ls) := by
  have hwritten : ∀ k, ∀ l ∈ (resolve d)^[k] ls, l.IsWritten := by
    intro k
    induction k with
    | zero => exact hls
    | succ k ih =>
      rw [Function.iterate_succ_apply']
      exact written_resolve hd ih
  rw [Function.iterate_succ_apply']
  exact isOrdered_resolve hd (hwritten n)

theorem isFileList_of_noFolder (hd : d.tree.IsProper) (hls : ∀ l ∈ ls, l.IsWritten) {n : Nat}
    (h : ∀ l ∈ (resolve d)^[n + 1] ls, ∀ es, d.find? l ≠ some (.folder es)) :
    IsFileList d ls ((resolve d)^[n + 1] ls) := by
  have hordered := isOrdered_rounds hd hls n
  refine ⟨fun l => ⟨fun hl => ?_, fun ⟨text, hoffered⟩ => ?_⟩, hordered, hordered.nodup⟩
  · obtain ⟨t, hoffered⟩ := (mem_resolve hd).mp (mem_of_mem_rounds hd hl)
    cases t with
    | file text => exact ⟨text, hoffered⟩
    | folder es => exact absurd (hoffered.find? hd) (h l hl es)
  · rw [Function.iterate_succ_apply]
    exact file_mem_rounds hd (hoffered.find? hd) ((mem_resolve hd).mpr ⟨_, hoffered⟩) n

/-- After finitely many rounds the files are left. -/
theorem rounds_settle (hd : d.tree.IsProper) (hls : ∀ l ∈ ls, l.IsWritten) :
    ∃ n, ∀ k ≥ n, IsFileList d ls ((resolve d)^[k] ls) := by
  -- no listed location is longer than the longest of the first round
  let depth := ((resolve d ls).map (·.parts.length)).max?.getD 0
  refine ⟨depth + 1, fun k hk => ?_⟩
  obtain ⟨n, rfl⟩ : ∃ n, k = n + 1 := ⟨k - 1, by omega⟩
  refine isFileList_of_noFolder hd hls fun l hl es hfolder => ?_
  have hdeep := length_of_folder hd hl hfolder
  have hbound : l.parts.length ≤ depth :=
    List.le_max?_getD_of_mem (List.mem_map_of_mem (mem_of_mem_rounds hd hl))
  omega

/-- The first round lists the files alone exactly if no folder is offered. -/
theorem isFileList_iff (hd : d.tree.IsProper) (hls : ∀ l ∈ ls, l.IsWritten) :
    IsFileList d ls (resolve d ls) ↔ ¬ OffersFolder d ls := by
  constructor
  · rintro h ⟨l, es, hoffered⟩
    obtain ⟨text, hfile⟩ := (h.files l).mp ((mem_resolve hd).mpr ⟨_, hoffered⟩)
    have heq := (hoffered.find? hd).symm.trans (hfile.find? hd)
    cases heq
  · intro h
    refine isFileList_of_noFolder (n := 0) hd hls fun l hl es hfolder => h ⟨l, es, ?_⟩
    obtain ⟨t, hoffered⟩ := (mem_resolve hd).mp hl
    obtain rfl := Option.some.inj ((hoffered.find? hd).symm.trans hfolder)
    exact hoffered

/-- A list that is resolved to itself is the one that all further rounds come to. -/
theorem resolve_again_iff (hd : d.tree.IsProper) (hls : ∀ l ∈ ls, l.IsWritten) :
    resolve d (resolve d ls) = resolve d ls ↔ ¬ OffersFolder d ls := by
  rw [← isFileList_iff hd hls]
  constructor
  · intro h
    obtain ⟨n, hn⟩ := rounds_settle hd hls
    have hfixed : (resolve d)^[n + 1] ls = resolve d ls := by
      rw [Function.iterate_succ_apply]
      exact Function.iterate_fixed h n
    exact hfixed ▸ hn (n + 1) (Nat.le_succ n)
  · intro h
    refine (isOrdered_rounds hd hls 1).eq h.ordered fun l => ⟨mem_of_mem_again hd, fun hl => ?_⟩
    obtain ⟨text, hoffered⟩ := (h.files l).mp hl
    exact file_mem_rounds hd (hoffered.find? hd) hl 1

end Rounds

section Shelf

/-- Files in folders, one of which has the name of a schema file. -/
def shelfFiles : List (String × String) := [
  ("config.yaml", "A:\n  keyFields: id\n"),
  ("schemas/b.graphql", "type B \x7b id: ID \x7d"),
  ("schemas/nested/a.graphql", "type A \x7b id: ID \x7d"),
  ("schemas/notes.txt", "no schema"),
  ("schemas/old.graphql/c.graphql", "type C \x7b id: ID \x7d")]

def shelf : Disk := ⟨.folder [("work", .folder [
  ("config.yaml", .file "A:\n  keyFields: id\n"),
  ("schemas", .folder [
    ("b.graphql", .file "type B \x7b id: ID \x7d"),
    ("nested", .folder [("a.graphql", .file "type A \x7b id: ID \x7d")]),
    ("notes.txt", .file "no schema"),
    ("old.graphql", .folder [("c.graphql", .file "type C \x7b id: ID \x7d")])])])], ["work"]⟩

theorem isProper_shelf : shelf.IsProper := by
  have hempty : Disk.IsProper ⟨.folder [("work", .empty)], ["work"]⟩ :=
    ⟨.folder (by decide) (by decide) (by simpa using FileTree.isProper_empty), by decide⟩
  have hwritten : shelfFiles.foldlM (fun (d : Disk) f => d.write (.ofText f.1) f.2)
      ⟨.folder [("work", .empty)], ["work"]⟩ = .ok shelf := rfl
  exact hempty.writes hwritten

/-- The whole shelf, and parts of it in which no folder is named like a schema file. -/
def wholeShelf : List Location := ["schemas"].map .ofText

def plainShelf : List Location := ["schemas/nested", "schemas/b.graphql"].map .ofText

/-- What the whole shelf is resolved to in the first round and in the second. -/
def wholeList : List Location :=
  ["schemas/b.graphql", "schemas/nested/a.graphql", "schemas/old.graphql",
    "schemas/old.graphql/c.graphql"].map .ofText

def wholeList' : List Location :=
  ["schemas/b.graphql", "schemas/nested/a.graphql", "schemas/old.graphql/c.graphql"].map .ofText

theorem resolve_shelf : resolve shelf wholeShelf = wholeList ∧ resolve shelf wholeList = wholeList'
    ∧ ¬ OffersFolder shelf plainShelf := by
  have hfirst : Location.IsOrdered wholeList
      ∧ wholeList.Perm (wholeShelf.flatMap (resolveOne shelf)).eraseDups := by decide +kernel
  have hsecond : Location.IsOrdered wholeList'
      ∧ wholeList'.Perm (wholeList.flatMap (resolveOne shelf)).eraseDups := by decide +kernel
  exact ⟨resolve_eq_of_isOrdered isProper_shelf.tree (Location.isWritten_ofTexts _) hfirst.1 hfirst.2,
    resolve_eq_of_isOrdered isProper_shelf.tree (Location.isWritten_ofTexts _) hsecond.1 hsecond.2,
    (offersFolder_iff isProper_shelf.tree).not.mpr (by decide +kernel)⟩

end Shelf

end Files
end Subgraph
