import Subgraph.Files.Tree
import Subgraph.Proofs.Naming

/-!
# Places in a tree of files

In a proper tree the entries of a folder have different names, and each name can stand in a location. There
what is listed below a folder is what names lead to, and a location that goes on by names leads to what the
names lead to from there. Writing keeps a tree proper, so a disk on which files are written is proper.
-/

namespace Subgraph

/-- A part of a location that counts. -/
def IsPart (p : String) : Prop := p ≠ "" ∧ p ≠ "." ∧ '/' ∉ p.toList

/-- A name for an entry of a folder. -/
def IsEntryName (n : String) : Prop := IsPart n ∧ n ≠ ".."

instance (p : String) : Decidable (IsPart p) := inferInstanceAs (Decidable (_ ∧ _))

instance (n : String) : Decidable (IsEntryName n) := inferInstanceAs (Decidable (_ ∧ _))

/-- All parts of the location count. -/
def Location.IsWritten (l : Location) : Prop := ∀ p ∈ l.parts, IsPart p

instance (l : Location) : Decidable l.IsWritten := inferInstanceAs (Decidable (∀ p ∈ l.parts, IsPart p))

section Texts
variable {c : Char} {s p : String}

theorem not_mem_go {done cs : List Char} (hdone : c ∉ done) (h : p ∈ Text.pieces.go c done cs) :
    c ∉ p.toList := by
  induction cs generalizing done with
  | nil =>
    rw [List.mem_singleton.mp h]
    simpa using hdone
  | cons e cs ih =>
    rw [Text.pieces.go] at h
    split at h
    · rcases List.mem_cons.mp h with rfl | h
      · simpa using hdone
      · exact ih List.not_mem_nil h
    · next hne => exact ih (by simpa [Ne.symm hne] using hdone) h

theorem not_mem_piece (h : p ∈ Text.pieces c s) : c ∉ p.toList := not_mem_go List.not_mem_nil h

theorem Location.isWritten_ofText (s : String) : (Location.ofText s).IsWritten := by
  intro p hp
  obtain ⟨hpiece, hcounts⟩ := List.mem_filter.mp hp
  obtain ⟨hne, hdot⟩ := Bool.and_eq_true_iff.mp hcounts
  exact ⟨bne_iff_ne.mp hne, bne_iff_ne.mp hdot, not_mem_piece hpiece⟩

theorem Location.isWritten_ofTexts (ss : List String) : ∀ l ∈ ss.map ofText, l.IsWritten :=
  List.forall_mem_map.mpr fun s _ => isWritten_ofText s

end Texts

namespace FileTree

/-- The names in each folder are different and can stand in a location. -/
inductive IsProper : FileTree → Prop
  | file (text : String) : IsProper (.file text)
  | folder {es : Entries FileTree} (distinct : es.names.Nodup) (named : ∀ e ∈ es, IsEntryName e.1)
      (entries : ∀ e ∈ es, IsProper e.2) : IsProper (.folder es)

section Places
variable {t u : FileTree} {es : Entries FileTree} {n : String} {names : List String}

theorem isProper_empty : IsProper empty := .folder List.nodup_nil (by simp) (by simp)

theorem mem_of_found (h : t.entry? n = some u) : (n, u) ∈ t.entries := by
  cases t with
  | file text => cases h
  | folder es => exact mem_of_lookup h

theorem entry?_iff_mem (h : t.IsProper) : t.entry? n = some u ↔ (n, u) ∈ t.entries := by
  refine ⟨mem_of_found, fun hmem => ?_⟩
  cases h with
  | file text => cases hmem
  | folder distinct =>
    obtain ⟨before, behind, rfl⟩ := List.append_of_mem hmem
    refine List.lookup_eq_some_iff.mpr ⟨before, behind, rfl, fun p hp => ?_⟩
    rw [Entries.names, List.map_append, List.nodup_append] at distinct
    have hne := distinct.2.2 p.1 (List.mem_map_of_mem hp) n List.mem_cons_self
    exact bne_iff_ne.mpr hne.symm

theorem IsProper.of_entries (h : t.IsProper) : (Entries.names t.entries).Nodup
    ∧ (∀ e ∈ t.entries, IsEntryName e.1) ∧ ∀ e ∈ t.entries, e.2.IsProper := by
  cases h with
  | file text => exact ⟨List.nodup_nil, by simp [FileTree.entries], by simp [FileTree.entries]⟩
  | folder distinct named entries => exact ⟨distinct, named, entries⟩

theorem IsProper.entry (h : t.IsProper) (hn : t.entry? n = some u) : IsEntryName n ∧ u.IsProper :=
  ⟨h.of_entries.2.1 _ (mem_of_found hn), h.of_entries.2.2 _ (mem_of_found hn)⟩

theorem find?_cons (t : FileTree) (n : String) (r : List String) :
    t.find? (n :: r) = (t.entry? n).bind (·.find? r) := rfl

theorem find?_append (t : FileTree) (a b : List String) :
    t.find? (a ++ b) = (t.find? a).bind (·.find? b) := by
  induction a generalizing t with
  | nil => rfl
  | cons n a ih =>
    rw [List.cons_append, find?_cons, find?_cons, Option.bind_assoc]
    exact congrArg _ (funext ih)

theorem IsProper.find? (h : t.IsProper) (hu : t.find? names = some u) :
    (∀ n ∈ names, IsEntryName n) ∧ u.IsProper := by
  induction names generalizing t with
  | nil =>
    obtain rfl := Option.some.inj hu
    exact ⟨by simp, h⟩
  | cons n r ih =>
    obtain ⟨v, hv, hu⟩ := Option.bind_eq_some_iff.mp hu
    obtain ⟨hn, hproper⟩ := h.entry hv
    obtain ⟨hr, hresult⟩ := ih hproper hu
    exact ⟨List.forall_mem_cons.mpr ⟨hn, hr⟩, hresult⟩

theorem mem_contentsOf {e : List String × FileTree} : e ∈ contentsOf es
    ↔ ∃ f ∈ es, e = ([f.1], f.2) ∨ ∃ g ∈ f.2.contents, e = (f.1 :: g.1, g.2) := by
  induction es with
  | nil => simp [contentsOf]
  | cons f es ih =>
    obtain ⟨n, t⟩ := f
    simp only [contentsOf, List.cons_append, List.mem_cons, List.mem_append, List.mem_map, ih,
      exists_eq_or_imp, or_assoc, eq_comm]

/-- What is listed below a folder is what names lead to from it. -/
theorem mem_contents (h : t.IsProper) :
    (names, u) ∈ t.contents ↔ names ≠ [] ∧ t.find? names = some u := by
  induction h generalizing names with
  | file text =>
    cases names with
    | nil => simp [contents]
    | cons n r => simp [contents, FileTree.find?, entry?]
  | @folder es distinct named entries ih =>
    have hes : IsProper (.folder es) := .folder distinct named entries
    rw [contents, mem_contentsOf]
    constructor
    · rintro ⟨⟨n, t⟩, hmem, heq | ⟨⟨r, v⟩, hv, heq⟩⟩
      · obtain ⟨rfl, rfl⟩ := Prod.mk.inj heq
        have hentry := (entry?_iff_mem hes).mpr hmem
        exact ⟨by simp, by rw [find?_cons, hentry]; rfl⟩
      · obtain ⟨rfl, rfl⟩ := Prod.mk.inj heq
        have hentry := (entry?_iff_mem hes).mpr hmem
        have hbelow := ((ih _ hmem).mp hv).2
        exact ⟨by simp, by rw [find?_cons, hentry]; exact hbelow⟩
    · rintro ⟨hne, hfind⟩
      obtain ⟨n, r, rfl⟩ := List.exists_cons_of_ne_nil hne
      obtain ⟨t, hentry, hfind⟩ := Option.bind_eq_some_iff.mp hfind
      have hmem := (entry?_iff_mem hes).mp hentry
      refine ⟨(n, t), hmem, ?_⟩
      cases r with
      | nil =>
        obtain rfl := Option.some.inj hfind
        exact .inl rfl
      | cons m r => exact .inr ⟨(m :: r, u), (ih _ hmem).mpr ⟨by simp, hfind⟩, rfl⟩

end Places

section Walks
variable {t : FileTree} {place names there : List String}

theorem walk_append (t : FileTree) (place a b : List String) :
    t.walk place (a ++ b) = t.walk place a >>= fun p => t.walk p b := by
  induction a generalizing place with
  | nil => rfl
  | cons n a ih =>
    rw [List.cons_append, walk, walk]
    split
    · rfl
    · rfl
    · exact ih _

theorem find?_walk (h : ".." ∉ names) (place : List String) :
    (t.walk place names).toOption.bind t.find? = (t.find? place).bind (·.find? names) := by
  induction names generalizing place with
  | nil => cases hplace : t.find? place <;> simp [walk, Except.toOption, hplace, FileTree.find?]
  | cons n r ih =>
    obtain ⟨hn, hr⟩ := not_or.mp (List.mem_cons.not.mp h)
    rw [walk]
    split
    · next hplace => rw [hplace]; rfl
    · next hplace => rw [hplace]; rfl
    · next es hplace =>
      rw [if_neg (by simpa using Ne.symm hn), ih hr, find?_append, hplace, Option.bind_some, Option.bind_some,
        find?_cons, find?_cons, Option.bind_assoc]
      rfl

theorem step_names {n : String} (hplace : ∀ m ∈ place, IsEntryName m) (hn : IsPart n) :
    ∀ m ∈ if n == ".." then place.dropLast else place ++ [n], IsEntryName m := by
  split
  · exact fun m hm => hplace m ((List.dropLast_sublist place).subset hm)
  · next hup =>
    refine List.forall_mem_append.mpr ⟨hplace, List.forall_mem_singleton.mpr ⟨hn, ?_⟩⟩
    simpa using hup

theorem walk_names (h : t.walk place names = .ok there) (hplace : ∀ n ∈ place, IsEntryName n)
    (hnames : ∀ n ∈ names, IsPart n) : ∀ n ∈ there, IsEntryName n := by
  induction names generalizing place with
  | nil =>
    cases h
    exact hplace
  | cons n r ih =>
    obtain ⟨hn, hr⟩ := List.forall_mem_cons.mp hnames
    rw [walk] at h
    split at h
    · cases h
    · cases h
    · exact ih h (step_names hplace hn) hr

theorem aim_names (hplace : ∀ n ∈ place, IsEntryName n) (hnames : ∀ n ∈ names, IsPart n) :
    ∀ n ∈ aim place names, IsEntryName n := by
  induction names generalizing place with
  | nil => exact hplace
  | cons n r ih =>
    obtain ⟨hn, hr⟩ := List.forall_mem_cons.mp hnames
    exact ih (step_names hplace hn) hr

end Walks

section Writes
variable {t t' u : FileTree} {place names : List String} {text : String}

theorem IsProper.put (hu : u.IsProper) (ht : t.IsProper) (hnames : ∀ n ∈ names, IsEntryName n) :
    (put u t names).IsProper := by
  induction names generalizing t with
  | nil => exact hu
  | cons n r ih =>
    obtain ⟨hn, hr⟩ := List.forall_mem_cons.mp hnames
    have hbelow : ((t.entry? n).getD empty).IsProper := by
      cases hentry : t.entry? n with
      | none => exact isProper_empty
      | some v => exact (ht.entry hentry).2
    obtain ⟨distinct, named, entries⟩ := ht.of_entries
    refine .folder ?_ (fun e he => ?_) (fun e he => ?_)
    · exact @Entries.names_foldl_put_nodup _ _ [(n, FileTree.put u ((t.entry? n).getD empty) r)] distinct
    · rcases Entries.mem_put he with he | rfl
      · exact named e he
      · exact hn
    · rcases Entries.mem_put he with he | rfl
      · exact entries e he
      · exact ih hbelow hr

theorem IsProper.writeAt (ht : t.IsProper) (hplace : ∀ n ∈ place, IsEntryName n)
    (hnames : ∀ n ∈ names, IsPart n) (h : t.writeAt place names text = .ok t') : t'.IsProper := by
  obtain ⟨there, hwalk, h⟩ := Except.of_bind_ok h
  split at h
  · cases h
  · cases h
    exact .put (.file text) ht (walk_names hwalk hplace hnames)

theorem IsProper.makeFolder (ht : t.IsProper) (hplace : ∀ n ∈ place, IsEntryName n)
    (hnames : ∀ n ∈ names, IsPart n) (h : t.makeFolder place names = .ok t') : t'.IsProper := by
  obtain ⟨there, hwalk, h⟩ := Except.of_bind_ok h
  split at h
  · cases h
    exact .put isProper_empty ht (walk_names hwalk hplace hnames)
  · cases h
    exact ht
  · cases h

theorem IsProper.makeFolders (ht : t.IsProper) (hplace : ∀ n ∈ place, IsEntryName n)
    (hnames : ∀ n ∈ names, IsPart n) (h : t.makeFolders place names = .ok t') : t'.IsProper := by
  induction names generalizing t' with
  | nil =>
    cases h
    exact ht
  | cons n above ih =>
    obtain ⟨hn, habove⟩ := List.forall_mem_cons.mp hnames
    have hall : ∀ m ∈ above.reverse ++ [n], IsPart m := by
      simpa [or_imp, forall_and] using And.intro habove hn
    rw [FileTree.makeFolders] at h
    split at h
    · obtain ⟨v, hv, h⟩ := Except.of_bind_ok h
      exact (ih habove hv).makeFolder hplace hall h
    · exact ht.makeFolder hplace hall h

end Writes
end FileTree

namespace Disk

/-- A proper tree, with a starting folder that has names of entries. -/
structure IsProper (d : Disk) : Prop where
  tree : d.tree.IsProper
  start : ∀ n ∈ d.start, IsEntryName n

section Proper
variable {d d' : Disk} {l : Location} {t : FileTree} {names : List String} {text : String}

theorem IsProper.base (h : d.IsProper) (l : Location) : ∀ n ∈ d.base l, IsEntryName n := by
  unfold Disk.base
  split
  · simp
  · exact h.start

theorem isProper_of_find? (h : d.tree.IsProper) (ht : d.find? l = some t) : t.IsProper := by
  obtain ⟨place, -, hfind⟩ := Option.bind_eq_some_iff.mp ht
  exact (FileTree.IsProper.find? h hfind).2

theorem find?_append (d : Disk) (l : Location) (h : ".." ∉ names) :
    d.find? (l.append names) = (d.find? l).bind (·.find? names) := by
  show (d.tree.walk (d.base l) (l.parts ++ names)).toOption.bind d.tree.find? = _
  rw [FileTree.walk_append, find?]
  cases hwalk : d.tree.walk (d.base l) l.parts with
  | error e => rfl
  | ok place => exact FileTree.find?_walk h place

theorem IsProper.write (h : d.IsProper) (hl : l.IsWritten) (hd : d.write l text = .ok d') : d'.IsProper := by
  obtain ⟨t, hfolders, hd⟩ := Except.of_bind_ok hd
  obtain ⟨t', hwrite, hd⟩ := Except.of_bind_ok hd
  cases hd
  have habove : ∀ p ∈ l.parts.dropLast.reverse, IsPart p := fun p hp =>
    hl p ((List.dropLast_sublist l.parts).subset (List.mem_reverse.mp hp))
  exact ⟨(h.tree.makeFolders (h.base l) habove hfolders).writeAt (h.base l) hl hwrite, h.start⟩

/-- Files that are written one after another make a proper disk. -/
theorem IsProper.writes {files : List (String × String)} (h : d.IsProper)
    (hd : files.foldlM (fun d f => d.write (.ofText f.1) f.2) d = .ok d') : d'.IsProper :=
  foldlM_keeps (I := IsProper) (fun f _ _ _ hb hwrite => hb.write (Location.isWritten_ofText f.1) hwrite) h hd

end Proper
end Disk
end Subgraph
