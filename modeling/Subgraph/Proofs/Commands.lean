import Subgraph.Command.Run
import Subgraph.Proofs.BuiltSchema
import Subgraph.Proofs.Indentation
import Subgraph.Proofs.Unmarked

/-!
# What the commands agree on

Every command loads a schema and a configuration and transforms the one by the other. Where this is
possible the complete schema is put out. The SDL is put out if the transformed schema has no problems
as well, and this is also what makes a check succeed, if only what it lists can be shown.
-/

namespace Subgraph.Command
open Config Federation

/-- The status that a stopped run ends with. -/
def Stop.code : Stop → Nat
  | .status n => n
  | .crash _ => 1

/-- The state after log records. -/
def State.after (s : State) (records : List LogRecord) : State :=
  let kept := keepFrom s.level records
  { s with
    records := s.records ++ kept
    disk := (s.logFile.map (s.disk.append · (String.join (kept.map logLine)))).getD s.disk }

section Runs
variable {α β ε : Type}

theorem log_run (records : List LogRecord) (s : State) :
    log records s = (.ok (), s.after records) := rfl

theorem run_bind (m : Run α) (f : α → Run β) (s : State) :
    (m >>= f) s = match m s with
      | (.ok a, s') => f a s'
      | (.error e, s') => (.error e, s') := by
  show (match m s with
    | (r, s') => ExceptT.bindCont f r s') = _
  cases m s with
  | mk r s' => cases r <;> rfl

theorem get_run (s : State) : (MonadState.get : Run State) s = (.ok s, s) := rfl

theorem run_bind_ok {m : Run α} {s s' : State} {a : α} (h : m s = (.ok a, s')) (f : α → Run β) :
    (m >>= f) s = f a s' := by
  rw [run_bind, h]

theorem of_bind_ok {m : Run α} {f : α → Run β} {s s'' : State} {b : β}
    (h : (m >>= f) s = (.ok b, s'')) : ∃ a s', m s = (.ok a, s') ∧ f a s' = (.ok b, s'') := by
  rw [run_bind] at h
  cases hm : m s with
  | mk r s' =>
    rw [hm] at h
    cases r with
    | error e => cases h
    | ok a => exact ⟨a, s', rfl, h⟩

/-- A run that puts nothing out, and ends with status 1 if it stops. -/
structure Quiet (m : Run α) : Prop where
  output : ∀ s, (m s).2.output = s.output
  code : ∀ s e, (m s).1 = .error e → e.code = 1

theorem Quiet.pure (a : α) : Quiet (Pure.pure a : Run α) := ⟨fun _ => rfl, fun _ _ h => nomatch h⟩

theorem Quiet.get : Quiet (MonadState.get : Run State) := ⟨fun _ => rfl, fun _ _ h => nomatch h⟩

theorem Quiet.throw {e : Stop} (h : e.code = 1) : Quiet (MonadExcept.throw e : Run α) :=
  ⟨fun _ => rfl, fun _ e' he => by cases he; exact h⟩

theorem Quiet.bind {m : Run α} {f : α → Run β} (h : Quiet m) (hf : ∀ a, Quiet (f a)) :
    Quiet (m >>= f) := by
  refine ⟨fun s => ?_, fun s e he => ?_⟩
  · have houtput := h.output s
    rw [run_bind]
    cases hm : m s with
    | mk r s' =>
      rw [hm] at houtput
      cases r with
      | error e => exact houtput
      | ok a => exact ((hf a).output s').trans houtput
  · rw [run_bind] at he
    cases hm : m s with
    | mk r s' =>
      rw [hm] at he
      cases r with
      | error e' =>
        cases he
        exact h.code s e (by rw [hm])
      | ok a => exact (hf a).code s' e he

theorem Quiet.log (records : List LogRecord) : Quiet (log records) :=
  ⟨fun _ => rfl, fun _ _ h => nomatch h⟩

theorem Quiet.giveUp (message : String) : Quiet (giveUp message : Run α) :=
  .bind (.log _) fun _ => .throw rfl

theorem Quiet.display (text : Console.Shown) : Quiet (display text) := by
  cases text with
  | ok text => exact ⟨fun _ => rfl, fun _ _ h => nomatch h⟩
  | error e => exact .throw rfl

theorem Quiet.forM {f : α → Run PUnit} (h : ∀ a, Quiet (f a)) (as : List α) : Quiet (as.forM f) := by
  induction as with
  | nil => exact .pure _
  | cons a as ih => exact .bind (h a) fun _ => ih

section Proceed
variable {m : Logged ε α} {onError : ε → Run α}

theorem proceed_eq : proceed m onError = (do
    log m.run.2
    match m.run.1 with
    | .ok a => return a
    | .error e => onError e) := by
  unfold proceed
  cases m.run with
  | mk r records => cases r <;> rfl

theorem Quiet.proceed (h : ∀ e, Quiet (onError e)) : Quiet (proceed m onError) := by
  rw [proceed_eq]
  refine .bind (.log _) fun _ => ?_
  cases m.run.1 with
  | ok a => exact .pure a
  | error e => exact h e

theorem proceed_ok {a : α} (h : m.run.1 = .ok a) (s : State) :
    proceed m onError s = (.ok a, s.after m.run.2) := by
  rw [proceed_eq]
  rw [run_bind_ok (log_run _ s), h]
  rfl

theorem of_proceed_ok (hstops : ∀ e s a s', onError e s ≠ (.ok a, s')) {s s' : State} {a : α}
    (h : proceed m onError s = (.ok a, s')) : m.run.1 = .ok a ∧ s' = s.after m.run.2 := by
  rw [proceed_eq] at h
  rw [run_bind_ok (log_run _ s)] at h
  cases hm : m.run.1 with
  | ok b =>
    rw [hm] at h
    cases h
    exact ⟨rfl, rfl⟩
  | error e =>
    rw [hm] at h
    exact absurd h (hstops e _ a s')

end Proceed

theorem giveUp_stops (message : String) (s : State) (a : α) (s' : State) :
    giveUp message s ≠ (.ok a, s') := fun h => nomatch h

/-- A run that stops ends with status 1 and has put nothing out. -/
def AllOrNothing (m : Run α) : Prop :=
  ∀ s e s', m s = (.error e, s') → e.code = 1 ∧ s'.output = s.output

theorem Quiet.allOrNothing {m : Run α} (h : Quiet m) : AllOrNothing m := by
  intro s e s' hm
  have houtput := h.output s
  have hcode := h.code s e
  rw [hm] at houtput hcode
  exact ⟨hcode rfl, houtput⟩

theorem AllOrNothing.bind {m : Run α} {f : α → Run β} (h : Quiet m) (hf : ∀ a, AllOrNothing (f a)) :
    AllOrNothing (m >>= f) := by
  intro s e s'' hm
  have houtput := h.output s
  have hcode := h.code s e
  rw [run_bind] at hm
  cases hs : m s with
  | mk r s' =>
    rw [hs] at hm houtput hcode
    cases r with
    | error e' =>
      cases hm
      exact ⟨hcode rfl, houtput⟩
    | ok a =>
      obtain ⟨hstop, hsame⟩ := hf a s' e s'' hm
      exact ⟨hstop, hsame.trans houtput⟩

theorem status_eq_zero_iff {m : Run Unit} (h : AllOrNothing m) {s : State} :
    (outcome (m.run s)).status = 0 ↔ ∃ s', m s = (.ok (), s') := by
  cases hm : m s with
  | mk r s' =>
    have hrun : m.run s = (r, s') := hm
    rw [hrun]
    cases r with
    | ok u => exact ⟨fun _ => ⟨s', rfl⟩, fun _ => rfl⟩
    | error e =>
      have hcode := (h s e s' hm).1
      refine ⟨fun hzero => ?_, fun ⟨_, hok⟩ => nomatch hok⟩
      cases e with
      | status n =>
        change n = 0 at hzero
        change n = 1 at hcode
        omega
      | crash f => cases hzero

theorem outcome_of_stopped {m : Run Unit} (h : AllOrNothing m) {s : State}
    (hstopped : ¬ ∃ s', m s = (.ok (), s')) :
    (outcome (m.run s)).status = 1 ∧ (outcome (m.run s)).output = s.output := by
  cases hm : m s with
  | mk r s' =>
    have hrun : m.run s = (r, s') := hm
    cases r with
    | ok u => exact absurd ⟨s', hm⟩ hstopped
    | error e =>
      obtain ⟨hcode, houtput⟩ := h s e s' hm
      rw [hrun]
      cases e with
      | status n => exact ⟨hcode, houtput⟩
      | crash f => exact ⟨rfl, houtput⟩

end Runs

section Loading
variable {registry : Registry} {st st' : State} {call : Call} {s : Schema} {config : Config}

/-- What is loaded from a schema and a configuration. The configuration is read after the log records
of the schema are written. -/
structure Loads (registry : Registry) (st : State) (schemas : List Location) (path : Location)
    (s : Schema) (config : Config) : Prop where
  schema : (Schema.load st.disk schemas).run.1 = .ok s
  config : (load registry (some (path.text,
    fileText (st.after (Schema.load st.disk schemas).run.2).disk path))).run.1 = .ok config

theorem quiet_configFailed {α : Type} (e : ConfigError) : Quiet (configFailed e : Run α) := by
  cases e with
  | badScalar f =>
    simp only [configFailed]
    split
    · exact .giveUp _
    · exact .throw rfl
  | _ => exact .giveUp _

theorem configFailed_stops {α : Type} (e : ConfigError) (s : State) (a : α) (s' : State) :
    configFailed e s ≠ (.ok a, s') := by
  cases e with
  | badScalar f =>
    simp only [configFailed]
    split
    · exact giveUp_stops _ s a s'
    · exact fun h => nomatch h
  | _ => exact giveUp_stops _ s a s'

theorem quiet_transformFailed {α : Type} (e : TransformError) : Quiet (transformFailed e : Run α) := by
  cases e with
  | classification e => exact .giveUp _
  | config e => exact quiet_configFailed e
  | unwritable e => exact .throw rfl
  | build e => exact .throw rfl

theorem transformFailed_stops {α : Type} (e : TransformError) (s : State) (a : α) (s' : State) :
    transformFailed e s ≠ (.ok a, s') := by
  cases e with
  | classification e => exact giveUp_stops _ s a s'
  | config e => exact configFailed_stops e s a s'
  | unwritable e => exact fun h => nomatch h
  | build e => exact fun h => nomatch h

theorem quiet_loadInputs (registry : Registry) (call : Call) : Quiet (loadInputs registry call) :=
  .bind .get fun _ => .bind (.proceed fun _ => .giveUp _) fun _ => .bind .get fun _ =>
    .bind (.proceed quiet_configFailed) fun _ => .pure _

theorem loadInputs_ok (h : Loads registry st call.schemas call.config s config) :
    ∃ st', loadInputs registry call st = (.ok (s, config), st') := by
  unfold loadInputs
  rw [run_bind_ok (get_run st), run_bind_ok (proceed_ok h.schema st),
    run_bind_ok (get_run _),
    run_bind_ok (proceed_ok h.config _)]
  exact ⟨_, rfl⟩

theorem of_loadInputs_ok (h : loadInputs registry call st = (.ok (s, config), st')) :
    Loads registry st call.schemas call.config s config := by
  unfold loadInputs at h
  rw [run_bind_ok (get_run st)] at h
  obtain ⟨s₀, st₁, hfirst, h⟩ := of_bind_ok h
  obtain ⟨hschema, rfl⟩ := of_proceed_ok (fun _ => giveUp_stops _) hfirst
  rw [run_bind_ok (get_run _)] at h
  obtain ⟨config₀, st₂, hsecond, h⟩ := of_bind_ok h
  obtain ⟨hconfig, rfl⟩ := of_proceed_ok configFailed_stops hsecond
  cases h
  exact ⟨hschema, hconfig⟩

theorem quiet_federate (s : Schema) (config : Config) : Quiet (federate s config) :=
  .proceed quiet_transformFailed

variable {c : Classification} {sdl : String} {y : Service}

theorem federate_ok (h : Transforms (.ofSchema s) config c sdl y) (st : State) :
    ∃ st', federate s config st = (.ok y, st') :=
  ⟨_, proceed_ok ((Logged.Yields.say _).bind h.yields []) st⟩

theorem of_federate_ok (h : federate s config st = (.ok y, st')) :
    ∃ c sdl, Transforms (.ofSchema s) config c sdl y := by
  obtain ⟨h, -⟩ := of_proceed_ok transformFailed_stops h
  obtain ⟨_, _, -, h⟩ := Logged.of_bind_ok h
  exact transformBy_ok h

theorem quiet_classified (s : Schema) (config : Config) :
    Quiet (proceed (classified s config) transformFailed) := .proceed quiet_transformFailed

theorem classified_ok (h : classify s config = .ok c) (st : State) :
    ∃ st', proceed (classified s config) transformFailed st = (.ok c, st') :=
  ⟨_, proceed_ok ((Logged.Yields.ofExcept h).bind (.bind (.say _) (.pure c)) []) st⟩

theorem of_classified_ok
    (h : proceed (classified s config) transformFailed st = (.ok c, st')) :
    classify s config = .ok c := by
  obtain ⟨h, -⟩ := of_proceed_ok transformFailed_stops h
  obtain ⟨c', _, hclassify, h⟩ := Logged.of_bind_ok h
  obtain ⟨_, _, -, h⟩ := Logged.of_bind_ok h
  obtain rfl : c' = c := Except.ok.inj h
  exact Logged.of_ofExcept_ok hclassify

theorem of_load_ok {d : Disk} {schemas : List Location} (h : (Schema.load d schemas).run.1 = .ok s) :
    ∃ text, Files.readAll d schemas = .ok text ∧ Schema.read text false = .ok s := by
  obtain ⟨text, _, htext, h⟩ := Logged.of_bind_ok h
  obtain ⟨s', _, hread, h⟩ := Logged.of_bind_ok h
  obtain ⟨_, _, -, h⟩ := Logged.of_bind_ok h
  obtain ⟨_, _, -, h⟩ := Logged.of_bind_ok h
  obtain ⟨_, _, -, h⟩ := Logged.of_bind_ok h
  obtain rfl : s' = s := Except.ok.inj h
  exact ⟨text, Logged.of_ofExcept_ok htext, Logged.of_ofExcept_ok hread⟩

theorem Loads.unique {schemas : List Location} {path : Location} {s' : Schema} {config' : Config}
    (h : Loads registry st schemas path s config) (h' : Loads registry st schemas path s' config') :
    s' = s ∧ config' = config :=
  ⟨Except.ok.inj (h'.schema.symm.trans h.schema), Except.ok.inj (h'.config.symm.trans h.config)⟩

theorem Loads.built {schemas : List Location} {path : Location}
    (h : Loads registry st schemas path s config) : s.Built := by
  obtain ⟨text, -, hread⟩ := of_load_ok h.schema
  obtain ⟨doc, -, -, hbuild⟩ := Schema.of_read_ok hread
  exact Build.built hbuild

end Loading

section Showing
variable {s : Schema} {config : Config} {c : Classification} {sdl : String} {y : Service}

theorem shownSdl_ok (hb : s.Built) (h : Transforms (.ofSchema s) config c sdl y)
    (hvalid : y.schema.problems = []) : shownSdl y = .ok sdl := by
  obtain ⟨t, u, hholds⟩ := h.shows_sdl hb
  have hanswer : y.answerPlain sdlQuery
      = ⟨.record [(serviceField, .record [("sdl", .text sdl)])], [], [], [], 0⟩ := by
    rw [Service.answerPlain, hholds.answer_sdl hvalid rfl (.inl rfl) 0]
  rw [shownSdl, hanswer]
  rfl

theorem of_shownSdl_ok {text : String} (h : shownSdl y = .ok text) : y.schema.problems = [] := by
  by_contra hproblems
  cases hp : y.schema.problems with
  | nil => exact hproblems hp
  | cons p ps =>
    have hanswer : y.answerPlain sdlQuery = .refused ((p :: ps).map .ofMessage) := by
      rw [Service.answerPlain, Service.answer, hp]
      rfl
    rw [shownSdl, hanswer] at h
    cases h

end Showing

section Listing
open Console

/-- A step that gives its result in every state. -/
def Goes (m : Run Unit) : Prop := ∀ s, ∃ s', m s = (.ok (), s')

theorem Goes.pure : Goes (Pure.pure ()) := fun s => ⟨s, rfl⟩

theorem Goes.bind {m : Run Unit} {f : Unit → Run Unit} (h : Goes m) (hf : Goes (f ())) :
    Goes (m >>= f) := by
  intro s
  obtain ⟨s', hs⟩ := h s
  rw [run_bind_ok hs]
  exact hf s'

theorem Goes.display {text : Shown} (h : text.isOk = true) : Goes (display text) := by
  cases text with
  | ok text => exact fun s => ⟨_, rfl⟩
  | error e => cases h

theorem Goes.forM {α : Type} {f : α → Run PUnit} {as : List α} (h : ∀ a ∈ as, Goes (f a)) :
    Goes (as.forM f) := by
  induction as with
  | nil => exact .pure
  | cons a as ih =>
    exact .bind (h a List.mem_cons_self) (ih fun b hb => h b (List.mem_cons_of_mem a hb))

/-- A configured type with no mark in its name or in a key. -/
structure Listable (t : FederatedType) : Prop where
  name : Unmarked t.name
  keys : ∀ k ∈ t.settings.keySets, Unmarked k.joined

/-- The line with the directives of a type. -/
def directivesLine (t : FederatedType) : Shown :=
  keyValue "  directives" (" ".intercalate (t.settings.directives.map Directive.print)) keyStyle

theorem quote_unmarked {s : String} (h : Unmarked s) : Unmarked (Text.quote s) := by
  intro hmem
  rw [Text.quote, String.toList_ofList, List.cons_append, List.mem_cons, List.mem_append] at hmem
  rcases hmem with hmem | hmem | hmem
  · exact absurd hmem (by decide)
  · obtain ⟨c, hc, hmem⟩ := List.mem_flatMap.mp hmem
    rcases Text.mem_escapeChar hmem with hmem | ⟨rfl, -⟩
    · exact absurd hmem (by decide)
    · exact h hc
  · exact absurd (List.mem_singleton.mp hmem) (by decide)

theorem directive_unmarked {t : FederatedType} (h : Listable t) :
    ∀ d ∈ t.settings.directives, Unmarked d.print := by
  intro d hd
  rcases List.mem_append.mp hd with hd | hd
  · obtain ⟨k, hk, rfl⟩ := List.mem_map.mp hd
    rw [keyApplication_print]
    exact .append (.append (by decide) (quote_unmarked (h.keys k hk))) (by decide)
  · split at hd
    · rw [List.mem_singleton.mp hd]
      exact (by decide : Unmarked "@extends")
    · cases hd

theorem describeType_goes {t : FederatedType} (h : Listable t) : Goes (describeType t) := by
  have hdirectives : Unmarked (" ".intercalate (t.settings.directives.map Directive.print)) :=
    .intercalate (by decide) fun text htext => by
      obtain ⟨d, hd, rfl⟩ := List.mem_map.mp htext
      exact directive_unmarked h d hd
  have hitem : Unmarked (t.name ++ " (" ++ (if t.isEntity then "entity" else "type") ++ ", "
      ++ (if t.settings.reference.isSome then "resolveReference" else "default resolution")
      ++ ")") := by
    refine .append (.append (.append (.append (.append h.name (by decide)) ?_) (by decide)) ?_)
      (by decide)
    · split <;> decide
    · split <;> decide
  refine .bind (.display (listItem_unmarked hitem)) ?_
  dsimp only
  split
  · exact .display (keyValue_unmarked hdirectives)
  · exact .pure

theorem describe_goes {c : Classification} (h : ∀ t ∈ c.types, Listable t) : Goes (describe c) := by
  refine .bind (.display (by decide +kernel)) ?_
  split
  · exact .display (by decide +kernel)
  · exact .forM fun t ht => describeType_goes (h t ht)

theorem of_display_ok {text : Shown} {s s' : State} (h : display text s = (.ok (), s')) :
    text.isOk = true := by
  cases text with
  | ok text => rfl
  | error e => cases h

theorem of_run_forM_ok {α : Type} {f : α → Run PUnit} {as : List α} {s s' : State}
    (h : as.forM f s = (.ok (), s')) {a : α} (ha : a ∈ as) : ∃ s₁ s₂, f a s₁ = (.ok (), s₂) := by
  induction as generalizing s with
  | nil => cases ha
  | cons b as ih =>
    obtain ⟨_, s₁, hfirst, hrest⟩ := of_bind_ok h
    rcases List.mem_cons.mp ha with rfl | ha
    · exact ⟨s, s₁, hfirst⟩
    · exact ih hrest ha

theorem of_describe_ok {c : Classification} {s s' : State} (h : describe c s = (.ok (), s'))
    {t : FederatedType} (ht : t ∈ c.types) : (directivesLine t).isOk = true := by
  obtain ⟨_, s₁, -, h⟩ := of_bind_ok h
  have hnonempty : c.types.isEmpty = false := by
    rw [Bool.eq_false_iff]
    exact fun hempty => List.ne_nil_of_mem ht (List.isEmpty_iff.mp hempty)
  rw [hnonempty] at h
  obtain ⟨s₂, s₃, h⟩ := of_run_forM_ok h ht
  obtain ⟨_, s₄, -, h⟩ := of_bind_ok h
  dsimp only at h
  split at h
  · exact of_display_ok h
  · next hnone =>
    have hempty : " ".intercalate (t.settings.directives.map Directive.print) = "" := by
      simpa using hnone
    rw [directivesLine, hempty]
    exact keyValue_unmarked (by decide)

theorem quiet_describe (c : Classification) : Quiet (describe c) := by
  refine .bind (.display _) fun _ => ?_
  split
  · exact .display _
  · refine .forM (fun t => .bind (.display _) fun _ => ?_) _
    dsimp only
    split
    · exact .display _
    · exact .pure _

end Listing

section Commands
variable {registry : Registry} {st st' : State} {call : Call}

theorem runSdl_allOrNothing (registry : Registry) (call : Call) (h : call.output = none) :
    AllOrNothing (runSdl registry call) := by
  refine .bind (quiet_loadInputs registry call) fun loaded => ?_
  refine .bind (quiet_federate loaded.1 loaded.2) fun y => ?_
  cases shownSdl y with
  | ok sdl =>
    rw [h]
    exact fun _ _ _ hstops => nomatch hstops
  | error errors => exact (Quiet.bind (.log _) fun _ => .throw rfl).allOrNothing

theorem runSchema_allOrNothing (registry : Registry) (call : Call) (h : call.output = none) :
    AllOrNothing (runSchema registry call) := by
  refine .bind (quiet_loadInputs registry call) fun loaded => ?_
  refine .bind (quiet_federate loaded.1 loaded.2) fun y => ?_
  rw [h]
  exact fun _ _ _ hstops => nomatch hstops

theorem quiet_runCheck (registry : Registry) (call : Call) : Quiet (runCheck registry call) := by
  refine .bind (quiet_loadInputs registry call) fun loaded => ?_
  refine .bind (quiet_classified loaded.1 loaded.2) fun c => ?_
  refine .bind (quiet_describe c) fun _ => ?_
  refine .bind (quiet_federate loaded.1 loaded.2) fun y => ?_
  dsimp only
  split
  · exact .display _
  · exact .bind (.log _) fun _ => .throw rfl

theorem runCall_allOrNothing (registry : Registry) (call : Call) (h : call.output = none) :
    AllOrNothing (runCall registry call) := by
  unfold runCall
  split
  · exact runSdl_allOrNothing registry call h
  · exact runSchema_allOrNothing registry call h
  · exact (quiet_runCheck registry call).allOrNothing

/-- A schema and a configuration are loaded, and the schema is transformed. -/
structure Serves (registry : Registry) (st : State) (schemas : List Location) (path : Location)
    (s : Schema) (config : Config) (c : Classification) (y : Service) : Prop where
  loads : Loads registry st schemas path s config
  transforms : Transforms (.ofSchema s) config c (printSdl s c) y

variable {s : Schema} {config : Config} {c : Classification} {y : Service}

theorem Quiet.output_of_ok {α : Type} {m : Run α} (h : Quiet m) {a : α} (hm : m st = (.ok a, st')) :
    st'.output = st.output := by
  rw [← h.output st, hm]

theorem of_inputs_ok {α : Type} {f : Service → Run α} {a : α}
    (h : (loadInputs registry call >>= fun loaded => federate loaded.1 loaded.2 >>= f) st
      = (.ok a, st')) :
    ∃ s config c y st₁, Serves registry st call.schemas call.config s config c y
      ∧ f y st₁ = (.ok a, st') ∧ st₁.output = st.output := by
  obtain ⟨⟨s, config⟩, st₀, hload, h⟩ := of_bind_ok h
  obtain ⟨y, st₁, hfederate, h⟩ := of_bind_ok h
  obtain ⟨c, sdl, htransforms⟩ := of_federate_ok hfederate
  obtain rfl := htransforms.sdl_eq
  refine ⟨s, config, c, y, st₁, ⟨of_loadInputs_ok hload, htransforms⟩, h, ?_⟩
  rw [(quiet_federate s config).output_of_ok hfederate,
    (quiet_loadInputs registry call).output_of_ok hload]

theorem Serves.inputs_ok (h : Serves registry st call.schemas call.config s config c y) :
    ∃ st₀ st₁, loadInputs registry call st = (.ok (s, config), st₀)
      ∧ federate s config st₀ = (.ok y, st₁) := by
  obtain ⟨st₀, hload⟩ := loadInputs_ok h.loads
  obtain ⟨st₁, hfederate⟩ := federate_ok h.transforms st₀
  exact ⟨st₀, st₁, hload, hfederate⟩

theorem of_runSdl_ok (hnone : call.output = none) (h : runSdl registry call st = (.ok (), st')) :
    ∃ s config c y, Serves registry st call.schemas call.config s config c y
      ∧ y.schema.problems = [] ∧ st'.output = st.output ++ printSdl s c := by
  obtain ⟨s, config, c, y, st₁, hserves, h, houtput⟩ := of_inputs_ok h
  cases hshown : shownSdl y with
  | error errors =>
    rw [hshown] at h
    exact nomatch h
  | ok sdl =>
    have hvalid := of_shownSdl_ok hshown
    obtain rfl : printSdl s c = sdl := by
      rw [shownSdl_ok hserves.loads.built hserves.transforms hvalid] at hshown
      exact Except.ok.inj hshown
    rw [hshown, hnone] at h
    cases h
    exact ⟨s, config, c, y, hserves, hvalid, by rw [← houtput]⟩

theorem runSdl_ok (hnone : call.output = none)
    (h : Serves registry st call.schemas call.config s config c y)
    (hvalid : y.schema.problems = []) : ∃ st', runSdl registry call st = (.ok (), st') := by
  obtain ⟨st₀, st₁, hload, hfederate⟩ := h.inputs_ok
  unfold runSdl
  rw [run_bind_ok hload]
  dsimp only
  rw [run_bind_ok hfederate, shownSdl_ok h.loads.built h.transforms hvalid, hnone]
  exact ⟨_, rfl⟩

theorem runSchema_ok (hnone : call.output = none)
    (h : Serves registry st call.schemas call.config s config c y) :
    ∃ st', runSchema registry call st = (.ok (), st') := by
  obtain ⟨st₀, st₁, hload, hfederate⟩ := h.inputs_ok
  unfold runSchema
  rw [run_bind_ok hload]
  dsimp only
  rw [run_bind_ok hfederate, hnone]
  exact ⟨_, rfl⟩

theorem runCheck_ok (h : Serves registry st call.schemas call.config s config c y)
    (hvalid : y.schema.problems = []) (hlisted : ∀ t ∈ c.types, Listable t) :
    ∃ st', runCheck registry call st = (.ok (), st') := by
  obtain ⟨st₀, hload⟩ := loadInputs_ok h.loads
  have hfits : classify s config = .ok c := h.transforms.fits
  obtain ⟨st₁, hclassified⟩ := classified_ok hfits st₀
  obtain ⟨st₂, hdescribe⟩ := describe_goes hlisted st₁
  obtain ⟨st₃, hfederate⟩ := federate_ok h.transforms st₂
  have hshown : (Console.success "Federation config is valid.").isOk = true := by decide +kernel
  obtain ⟨st₄, hlast⟩ := Goes.display hshown st₃
  refine ⟨st₄, ?_⟩
  unfold runCheck
  rw [run_bind_ok hload]
  dsimp only
  rw [run_bind_ok hclassified, run_bind_ok hdescribe, run_bind_ok hfederate, hvalid]
  exact hlast

theorem of_runCheck_ok (h : runCheck registry call st = (.ok (), st')) :
    ∃ s config c y, Serves registry st call.schemas call.config s config c y
      ∧ y.schema.problems = [] ∧ ∀ t ∈ c.types, (directivesLine t).isOk = true := by
  obtain ⟨⟨s, config⟩, st₀, hload, h⟩ := of_bind_ok h
  obtain ⟨c, st₁, hclassified, h⟩ := of_bind_ok h
  obtain ⟨_, st₂, hdescribe, h⟩ := of_bind_ok h
  obtain ⟨y, st₃, hfederate, h⟩ := of_bind_ok h
  have hvalid : y.schema.problems = [] := by
    cases hproblems : y.schema.problems with
    | nil => rfl
    | cons p ps =>
      rw [hproblems] at h
      exact nomatch h
  obtain ⟨c', sdl, htransforms⟩ := of_federate_ok hfederate
  have hfits : classify s config = .ok c' := htransforms.fits
  obtain rfl : c' = c := Except.ok.inj (hfits.symm.trans (of_classified_ok hclassified))
  obtain rfl := htransforms.sdl_eq
  exact ⟨s, config, c', y, ⟨of_loadInputs_ok hload, htransforms⟩, hvalid,
    fun t ht => of_describe_ok hdescribe ht⟩

theorem of_runCall_ok (hnone : call.output = none) (h : runCall registry call st = (.ok (), st')) :
    ∃ s config c y, Serves registry st call.schemas call.config s config c y := by
  cases hname : call.name <;> rw [runCall, hname] at h
  · obtain ⟨s, config, c, y, hserves, -⟩ := of_runSdl_ok hnone h
    exact ⟨s, config, c, y, hserves⟩
  · obtain ⟨s, config, c, y, _, hserves, -⟩ := of_inputs_ok h
    exact ⟨s, config, c, y, hserves⟩
  · obtain ⟨s, config, c, y, hserves, -⟩ := of_runCheck_ok h
    exact ⟨s, config, c, y, hserves⟩

/-- What a command comes to with a schema and a configuration, and without a file to write to. -/
def outcomeOf (registry : Registry) (st : State) (schemas : List Location) (path : Location)
    (name : CommandName) : Outcome :=
  outcome ((runCall registry ⟨name, schemas, path, none⟩).run st)

/-- The commands agree: where a check succeeds, the SDL is put out. Where the SDL is put out, it is the
one of the loaded schema and configuration, the complete schema is put out as well, and a check succeeds
if nothing that it lists can be taken for a mark; but it fails if the directives of a type are no marked
text. And without a schema and a configuration that fits it, every command fails and puts nothing
out. -/
theorem commands_agree (registry : Registry) (level : LogLevel) (logFile : Option (List String))
    (d : Disk) (schemas : List Location) (path : Location) :
    let st := State.start level logFile d
    let ran := outcomeOf registry st schemas path
    ((ran .check).status = 0 → (ran .sdl).status = 0)
    ∧ ((ran .sdl).status = 0 → (ran .schema).status = 0
      ∧ ∃ s config c, Loads registry st schemas path s config ∧ classify s config = .ok c
        ∧ (ran .sdl).output = printSdl s c
        ∧ ((∀ t ∈ c.types, Listable t) → (ran .check).status = 0)
        ∧ ((∃ t ∈ c.types, (directivesLine t).isOk = false) → (ran .check).status = 1))
    ∧ ((∀ s config c, Loads registry st schemas path s config → classify s config ≠ .ok c) →
      ∀ name, (ran name).status = 1 ∧ (ran name).output = "") := by
  intro st ran
  have hwhole := fun name => runCall_allOrNothing registry ⟨name, schemas, path, none⟩ rfl
  have hzero : ∀ name, (ran name).status = 0
      ↔ ∃ st', runCall registry ⟨name, schemas, path, none⟩ st = (.ok (), st') := fun name =>
    status_eq_zero_iff (hwhole name)
  refine ⟨fun hcheck => ?_, fun hsdl => ?_, fun hunfit name => ?_⟩
  · obtain ⟨st', hrun⟩ := (hzero .check).mp hcheck
    obtain ⟨s, config, c, y, hserves, hvalid, -⟩ := of_runCheck_ok hrun
    exact (hzero .sdl).mpr (runSdl_ok rfl hserves hvalid)
  · obtain ⟨st', hrun⟩ := (hzero .sdl).mp hsdl
    obtain ⟨s, config, c, y, hserves, hvalid, houtput⟩ := of_runSdl_ok rfl hrun
    have hfits : classify s config = .ok c := hserves.transforms.fits
    refine ⟨(hzero .schema).mpr (runSchema_ok rfl hserves), s, config, c, hserves.loads, hfits, ?_,
      fun hlisted => (hzero .check).mpr (runCheck_ok hserves hvalid hlisted),
      fun ⟨t, ht, hmarked⟩ => (outcome_of_stopped (hwhole .check) fun ⟨st'', hcheck⟩ => ?_).1⟩
    · have hsame : (ran .sdl).output = st'.output := by
        show (outcome (runSdl registry ⟨.sdl, schemas, path, none⟩ st)).output = _
        rw [show runSdl registry ⟨.sdl, schemas, path, none⟩ st = (.ok (), st') from hrun]
        rfl
      rw [hsame, houtput]
      exact String.empty_append
    · obtain ⟨s', config', c', y', hserves', -, hlines⟩ := of_runCheck_ok hcheck
      obtain ⟨rfl, rfl⟩ := hserves.loads.unique hserves'.loads
      have hfits' : classify s' config' = .ok c' := hserves'.transforms.fits
      obtain rfl : c = c' := Except.ok.inj (hfits.symm.trans hfits')
      rw [hlines t ht] at hmarked
      cases hmarked
  · refine outcome_of_stopped (hwhole name) fun ⟨st', hrun⟩ => ?_
    obtain ⟨s, config, c, y, hserves⟩ := of_runCall_ok rfl hrun
    exact hunfit s config c hserves.loads hserves.transforms.fits

/-- A key that ends a style can be written to the SDL, but it is no marked text. -/
example : (directivesLine ⟨"Product", ⟨none, "Product", .object [] [], []⟩,
    ⟨[["id [/]"]], false, none⟩⟩).isOk = false := by decide +kernel

end Commands

end Subgraph.Command
