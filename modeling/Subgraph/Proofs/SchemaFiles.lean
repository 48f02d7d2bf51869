import Mathlib
import Subgraph.Command.Run
import Subgraph.Proofs.Conservative
import Subgraph.Proofs.FileLists

/-!
# Schema files

What is loaded and what a command does depends on the schema locations by the files that they are resolved
to. So neither depends on the order in which the locations are given nor on how often each is given, and where
no folder is named like a schema file it does not matter how often a list of them was resolved before.
-/

namespace Subgraph.Command
open Files

/-- Options and arguments that differ at most in the order and the repetition of the schema locations. -/
structure SameButSchemas (g h : Given) : Prop where
  schemas : ∀ s, s ∈ g.values "schemas" ↔ s ∈ h.values "schemas"
  others : (g.options.filter fun o => o.1 != "schemas") = h.options.filter fun o => o.1 != "schemas"
  arguments : g.arguments = h.arguments

/-- The schema locations that a command is given, or those of a variable. -/
def locationsOf (e : Environment) (c : CommandName) (g : Given) : List Location :=
  (valuesOf e g "schemas" (commandVariable c "schemas")).map .ofText

section Same
variable {α β : Type} {xs ys : List α}

theorem isEmpty_of_same (hmem : ∀ x, x ∈ xs ↔ x ∈ ys) : xs.isEmpty = ys.isEmpty := by
  rw [Bool.eq_iff_iff, List.isEmpty_iff, List.isEmpty_iff, List.eq_nil_iff_forall_not_mem,
    List.eq_nil_iff_forall_not_mem]
  exact forall_congr' fun x => not_congr (hmem x)

theorem all_of_same {p : α → Bool} (hmem : ∀ x, x ∈ xs ↔ x ∈ ys) : xs.all p = ys.all p := by
  rw [Bool.eq_iff_iff, List.all_eq_true, List.all_eq_true]
  exact forall_congr' fun x => imp_congr_left (hmem x)

theorem mem_map_of_same (f : α → β) (hmem : ∀ x, x ∈ xs ↔ x ∈ ys) (y : β) : y ∈ xs.map f ↔ y ∈ ys.map f := by
  simp only [List.mem_map, hmem]

end Same

section Options
variable {g h : Given} {e : Environment} {key : String}

theorem values_filter (g : Given) (hkey : key ≠ "schemas") :
    g.values key = (g.options.filter fun o => o.1 != "schemas").filterMap
      fun o => if o.1 == key then o.2 else none := by
  rw [Given.values, List.filterMap_filter]
  refine List.filterMap_congr fun o _ => ?_
  by_cases ho : o.1 = key
  · simp [ho, hkey]
  · simp [ho]

theorem SameButSchemas.values (hsame : SameButSchemas g h) (hkey : key ≠ "schemas") :
    g.values key = h.values key := by
  rw [values_filter g hkey, values_filter h hkey, hsame.others]

theorem find?_ending (g : Given) : g.options.find? (fun o => (endings.lookup o.1).isSome)
    = (g.options.filter fun o => o.1 != "schemas").find? fun o => (endings.lookup o.1).isSome := by
  rw [List.find?_filter]
  refine find?_eq_of_mem fun o _ => ?_
  by_cases ho : o.1 = "schemas"
  · rw [ho]
    rfl
  · simp [ho]

theorem SameButSchemas.early (hsame : SameButSchemas g h) (specs : List OptionSpec)
    (variableName : String → String) : early e g specs variableName = early e h specs variableName := by
  unfold Command.early
  rw [find?_ending g, find?_ending h, hsame.others]

theorem SameButSchemas.valueOf (hsame : SameButSchemas g h) (hkey : key ≠ "schemas") (name : String) :
    valueOf e g key name = valueOf e h key name := by
  rw [Command.valueOf, Command.valueOf, hsame.values hkey]

theorem SameButSchemas.mem_valuesOf (hsame : SameButSchemas g h) (name s : String) :
    s ∈ valuesOf e g "schemas" name ↔ s ∈ valuesOf e h "schemas" name := by
  unfold valuesOf
  simp only [isEmpty_of_same hsame.schemas]
  split
  · exact Iff.rfl
  · exact hsame.schemas s

theorem mapM_present (d : Disk) (ss : List String) : ss.mapM (present d)
    = if ss.all fun s => (d.findText? s).isSome then pure (ss.map .ofText) else throw .usage := by
  induction ss with
  | nil => rfl
  | cons s ss ih =>
    rw [List.mapM_cons, ih, present, List.all_cons]
    cases (d.findText? s).isSome with
    | false => rfl
    | true => cases ss.all fun s => (d.findText? s).isSome <;> rfl

end Options

section Calls
variable {d : Disk} {e : Environment} {c : CommandName} {args args' : List String} {g h : Given}

theorem readCall_congr (hd : d.tree.IsProper) (hsame : SameButSchemas g h)
    (hg : readArguments (commandOptions c) true none args = some g)
    (hh : readArguments (commandOptions c) true none args' = some h) :
    readCall d e c args' = readCall d e c args := by
  have hmem := fun s => hsame.mem_valuesOf (e := e) (commandVariable c "schemas") s
  have hlocations := mem_map_of_same Location.ofText hmem
  have hempty := isEmpty_of_same hlocations
  have hresolve := resolve_congr hd (Location.isWritten_ofTexts _) fun l => (hlocations l).symm
  unfold readCall
  rw [hg, hh]
  simp only [hsame.early, hsame.arguments, hsame.valueOf (show "config_path" ≠ "schemas" by decide),
    hsame.valueOf (show "output" ≠ "schemas" by decide), mapM_present]
  rw [all_of_same hmem]
  refine congrArg _ (funext fun _ => ?_)
  split
  · simp only [pure_bind, hempty, hresolve]
  · rfl

theorem written_writable? {s : Option String} {l? : Option Location} (h : writable? d s = .ok l?) :
    ∀ l ∈ l?, l.IsWritten := by
  cases s with
  | none =>
    cases h
    simp
  | some s =>
    obtain ⟨l, hl, rfl⟩ := Except.of_map_ok h
    rw [writable] at hl
    split at hl
    · cases hl
    · cases hl
      simpa using Location.isWritten_ofText s

theorem written_logFile {common : Common} {rest : List String}
    (h : readCommon d e args = .ok (common, c, rest)) : ∀ l ∈ common.logFile, l.IsWritten := by
  cases args with
  | nil => cases h
  | cons a args =>
    simp only [readCommon, List.isEmpty_cons, Bool.false_eq_true, if_false] at h
    split at h
    · obtain ⟨_, -, h⟩ := Except.of_bind_ok h
      obtain ⟨level, -, h⟩ := Except.of_bind_ok h
      obtain ⟨logFile, hlog, h⟩ := Except.of_bind_ok h
      split at h
      · cases h
      · split at h
        · cases h
          exact written_writable? hlog
        · cases h
    · cases h

theorem schemas_of_readCall {call : Call} (hg : readArguments (commandOptions c) true none args = some g)
    (h : readCall d e c args = .ok call) : call.schemas = resolve d (locationsOf e c g) := by
  unfold readCall at h
  rw [hg] at h
  simp only [mapM_present] at h
  obtain ⟨_, -, h⟩ := Except.of_bind_ok h
  obtain ⟨ls, hls, h⟩ := Except.of_bind_ok h
  split at hls
  · cases hls
    split at h
    · cases h
    · split at h
      · obtain ⟨config, -, h⟩ := Except.of_bind_ok h
        obtain ⟨output, -, h⟩ := Except.of_bind_ok h
        cases h
        rfl
      · cases h
  · cases hls

theorem openLog_proper {d' : Disk} {logFile : Option Location} {names : Option (List String)} (hd : d.IsProper)
    (hwritten : ∀ l ∈ logFile, l.IsWritten) (h : openLog d logFile = .ok (d', names)) : d'.IsProper := by
  cases logFile with
  | none =>
    cases h
    exact hd
  | some l =>
    rw [openLog] at h
    split at h
    · next t hwrite =>
      cases h
      have hnames := FileTree.aim_names (hd.base l) (hwritten l rfl)
      exact ⟨hd.tree.writeAt (by simp) (fun n hn => (hnames n hn).1) hwrite, hd.start⟩
    · cases h

/-- What a command line says: the options for every command, the command, and what is given to it. -/
def Says (d : Disk) (e : Environment) (args : List String) (common : Common) (c : CommandName) (g : Given) :
    Prop :=
  ∃ rest, readCommon d e args = .ok (common, c, rest)
    ∧ readArguments (commandOptions c) true none rest = some g

/-- Command lines that differ at most in the order and the repetition of their schema locations. -/
def SameRequest (d : Disk) (e : Environment) (args args' : List String) : Prop :=
  ∃ common c g h, Says d e args common c g ∧ Says d e args' common c h ∧ SameButSchemas g h

theorem run_congr (registry : Config.Registry) (hd : d.IsProper) (h : SameRequest d e args args') :
    run registry d e args' = run registry d e args := by
  obtain ⟨common, c, g, h, ⟨rest, hreads, hg⟩, ⟨rest', hreads', hh⟩, hsame⟩ := h
  unfold run
  rw [hreads, hreads']
  simp only
  split
  · rfl
  · next d' names hopen =>
    rw [readCall_congr (openLog_proper hd (written_logFile hreads) hopen).tree hsame hg hh]

end Calls

theorem load_congr {d : Disk} {ls ms : List Location} (h : resolve d ms = resolve d ls) :
    Schema.load d ms = Schema.load d ls := by
  unfold Schema.load readAll
  rw [h]

/-- Schema locations are resolved to an ordered list without repetitions, of the files that are given and of
what has the name of a schema file below the folders that are given. It does not depend on the order and the
repetition of the locations, and neither does the schema that is loaded nor what a command does. A command
loads from the list, which is then resolved once more. The list is the one of the files if and only if there
is no folder among what it holds, which is also when resolving it again leaves it as it is; then the loaded
schema is the same however often the list was resolved. In any case the files alone are left after some
rounds, and the loaded schema stays the same. -/
theorem schemaFiles_canonical {d : Disk} (hd : d.IsProper) {ls : List Location}
    (hls : ∀ l ∈ ls, l.IsWritten) :
    ((∀ l, l ∈ resolve d ls ↔ ∃ t, Offered d ls l t) ∧ Location.IsOrdered (resolve d ls)
      ∧ (resolve d ls).Nodup)
    ∧ (∀ ms, (∀ l, l ∈ ms ↔ l ∈ ls) → resolve d ms = resolve d ls ∧ Schema.load d ms = Schema.load d ls)
    ∧ (∀ registry e args args', SameRequest d e args args' → run registry d e args' = run registry d e args)
    ∧ (∀ e c args g call, readArguments (commandOptions c) true none args = some g → locationsOf e c g = ls →
      readCall d e c args = .ok call → call.schemas = resolve d ls)
    ∧ (IsFileList d ls (resolve d ls) ↔ ¬ OffersFolder d ls)
    ∧ (resolve d (resolve d ls) = resolve d ls ↔ ¬ OffersFolder d ls)
    ∧ (¬ OffersFolder d ls → ∀ n, Schema.load d ((resolve d)^[n] ls) = Schema.load d ls)
    ∧ ∃ n, ∀ k ≥ n, IsFileList d ls ((resolve d)^[k] ls)
      ∧ Schema.load d ((resolve d)^[k] ls) = Schema.load d ((resolve d)^[n] ls) := by
  have hordered := isOrdered_resolve hd.tree hls
  have hfixed := resolve_again_iff hd.tree hls
  refine ⟨⟨fun l => mem_resolve hd.tree, hordered, hordered.nodup⟩, fun ms hms => ?_,
    fun registry e args args' => run_congr registry hd, fun e c args g call hg hlocations hcall => ?_,
    isFileList_iff hd.tree hls, hfixed, fun hnone n => load_congr ?_, ?_⟩
  · have hsame := resolve_congr hd.tree hls hms
    exact ⟨hsame, load_congr hsame⟩
  · rw [schemas_of_readCall hg hcall, hlocations]
  · rw [← Function.iterate_succ_apply' (resolve d), Function.iterate_succ_apply]
    exact Function.iterate_fixed (hfixed.mpr hnone) n
  · obtain ⟨n, hn⟩ := rounds_settle hd.tree hls
    exact ⟨n, fun k hk => ⟨hn k hk, by rw [(hn k hk).unique (hn n le_rfl)]⟩⟩

section Shelf

theorem load_shelf : (Schema.load shelf wholeShelf).run.1.isOk = false
    ∧ (Schema.load shelf (resolve shelf wholeShelf)).run.1.isOk = true := by
  unfold Schema.load readAll
  rw [resolve_shelf.1, resolve_shelf.2.1]
  decide +kernel

/-- Two command lines for the same parts. -/
def shelfLine : List String := ["sdl", "-s", "schemas/nested", "-s", "schemas/b.graphql", "-c", "config.yaml"]

def shelfLine' : List String :=
  ["sdl", "-s", "schemas/b.graphql", "-c", "config.yaml", "-s", "schemas/nested", "-s", "schemas/b.graphql"]

def shelfOptions : List (String × Option String) :=
  [("schemas", some "schemas/nested"), ("schemas", some "schemas/b.graphql"),
    ("config_path", some "config.yaml")]

def shelfOptions' : List (String × Option String) :=
  [("schemas", some "schemas/b.graphql"), ("config_path", some "config.yaml"),
    ("schemas", some "schemas/nested"), ("schemas", some "schemas/b.graphql")]

theorem request_shelf : SameRequest shelf [] shelfLine shelfLine'
    ∧ readArguments (commandOptions .sdl) true none shelfLine.tail = some ⟨shelfOptions, []⟩
    ∧ ∃ call, readCall shelf [] .sdl shelfLine.tail = .ok call := by
  have hcommon : readArguments commonOptions false none shelfLine = some ⟨[], shelfLine⟩ := by cbv
  have hcommon' : readArguments commonOptions false none shelfLine' = some ⟨[], shelfLine'⟩ := by cbv
  have hgiven : readArguments (commandOptions .sdl) true none shelfLine.tail = some ⟨shelfOptions, []⟩ := by
    cbv
  have hgiven' : readArguments (commandOptions .sdl) true none shelfLine'.tail = some ⟨shelfOptions', []⟩ := by
    cbv
  have hok : (readCall shelf [] .sdl shelfLine.tail).isOk = true := by
    unfold readCall
    rw [hgiven]
    decide +kernel
  refine ⟨⟨⟨.info, none⟩, .sdl, _, _, ⟨_, ?_, hgiven⟩, ⟨_, ?_, hgiven'⟩, fun s => ?_, rfl, rfl⟩, hgiven, ?_⟩
  · rw [readCommon, hcommon]
    rfl
  · rw [readCommon, hcommon']
    rfl
  · simp [Given.values, shelfOptions, shelfOptions', or_comm]
  · cases h : readCall shelf [] .sdl shelfLine.tail with
    | ok call => exact ⟨call, rfl⟩
    | error refusal =>
      rw [h] at hok
      cases hok

/-- On the whole shelf a folder is listed, whose file is then loaded twice, unless the list is resolved once
more. On its parts the files are listed. -/
theorem schemaFiles_canonical_shelf : shelf.IsProper ∧ (∀ l ∈ wholeShelf, l.IsWritten)
    ∧ (∀ l ∈ plainShelf, l.IsWritten) ∧ OffersFolder shelf wholeShelf
    ∧ ¬ IsFileList shelf wholeShelf (resolve shelf wholeShelf)
    ∧ resolve shelf (resolve shelf wholeShelf) ≠ resolve shelf wholeShelf
    ∧ (Schema.load shelf wholeShelf).run.1.isOk = false
    ∧ (Schema.load shelf (resolve shelf wholeShelf)).run.1.isOk = true
    ∧ (∃ n, ∀ k ≥ n, IsFileList shelf wholeShelf ((resolve shelf)^[k] wholeShelf))
    ∧ IsFileList shelf plainShelf (resolve shelf plainShelf)
    ∧ resolve shelf plainShelf.reverse = resolve shelf plainShelf
    ∧ (∃ call, readCall shelf [] .sdl shelfLine.tail = .ok call
      ∧ Schema.load shelf call.schemas = Schema.load shelf plainShelf)
    ∧ run Federation.shopRegistry shelf [] shelfLine' = run Federation.shopRegistry shelf [] shelfLine := by
  have hwhole : ∀ l ∈ wholeShelf, l.IsWritten := Location.isWritten_ofTexts _
  have hplain : ∀ l ∈ plainShelf, l.IsWritten := Location.isWritten_ofTexts _
  obtain ⟨hfirst, hsecond, hnone⟩ := resolve_shelf
  obtain ⟨hsame, hgiven, call, hcall⟩ := request_shelf
  obtain ⟨-, -, -, -, hfiles, hagain, -, n, hsettled⟩ := schemaFiles_canonical isProper_shelf hwhole
  obtain ⟨-, horder, hrun, hcalls, hfiles', -, hloads, -⟩ := schemaFiles_canonical isProper_shelf hplain
  have hmoved : resolve shelf (resolve shelf wholeShelf) ≠ resolve shelf wholeShelf := by
    rw [hfirst, hsecond]
    exact fun h => absurd (congrArg List.length h) (by decide)
  have hfolder : OffersFolder shelf wholeShelf := not_not.mp fun hno => hmoved (hagain.mpr hno)
  have hschemas := hcalls [] .sdl _ _ call hgiven rfl hcall
  exact ⟨isProper_shelf, hwhole, hplain, hfolder, fun hlist => hfiles.mp hlist hfolder, hmoved, load_shelf.1,
    load_shelf.2, ⟨n, fun k hk => (hsettled k hk).1⟩, hfiles'.mpr hnone,
    (horder _ fun l => List.mem_reverse).1, ⟨call, hcall, hschemas ▸ hloads hnone 1⟩, hrun _ _ _ _ hsame⟩

end Shelf

end Subgraph.Command
