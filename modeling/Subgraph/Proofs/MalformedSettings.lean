import Subgraph.Proofs.KeyShapes

/-!
# How malformed settings fail

Settings that are malformed have faults, and the first type with such settings is the one that is reported.
But there are two ways to fail before faults are looked for: reading key fields breaks off where items are
asked for of what cannot have any, and a reference by a relative path has no package to start from.
-/

namespace Subgraph.Federation
open Config Text

/-- A reference by text, and its path. -/
inductive WritesPath : Raw → Points → Prop where
  | text (s : String) : WritesPath (.text s) (Points.ofString s)
  | unpaired (ps : Points) : WritesPath (.unpaired ps) ps

/-- A path to a module whose name begins with a dot. -/
def LeadsRelative (path name : Points) : Prop :=
  ∃ rest, splitAt (· == colon) (Registry.stripped path) = name :: rest ∧ rest.length ≤ 1
    ∧ name.head? = some dot

/-- Settings with key fields at which reading breaks off. -/
def KeysBreakOff (v : Raw) (kind : String) : Prop :=
  ∃ entries key w, v.unfolded = .record entries ∧ namedField? entries keySetNames = some (key, w)
    ∧ BreaksOff w kind

/-- Settings with a reference by a relative path. -/
def RefersRelatively (v : Raw) (name : Points) : Prop :=
  ∃ entries key w path, v.unfolded = .record entries
    ∧ namedField? entries referenceNames = some (key, w) ∧ WritesPath w path ∧ LeadsRelative path name

/-- How malformed settings fail: by their faults, if nothing fails before they are looked for. -/
inductive Fails (v : Raw) : ConfigError → Prop where
  | breaksOff {kind : String} (keys : KeysBreakOff v kind) : Fails v (.notIterable kind)
  | relative {name : Points} (keys : ∀ kind, ¬ KeysBreakOff v kind) (reference : RefersRelatively v name) :
      Fails v (.relativeImport (.relative name))
  | faults {fs : List Fault} (keys : ∀ kind, ¬ KeysBreakOff v kind)
      (reference : ∀ name, ¬ RefersRelatively v name) (some : fs ≠ []) : Fails v (.faults fs)

/-- The settings of an entry are accepted. -/
def Readable (registry : Registry) (e : Raw × Raw) : Prop := ∃ t, checkSettings registry e.2 = .ok t

/-- One type among others has a value as its key fields, and all else that is given is accepted. Then what
is read depends on the key sets that the value stands for. -/
inductive GivesKeys (registry : Registry) (v : Raw) : Raw → (List KeySet → Config) → Prop where
  | type {front back : List (Raw × Raw)} {k : Raw} {n key : String} {entries : List (Raw × Raw)}
      {extend : Bool} {reference : Option Reference} {before after : Config}
      (front_read : List.Forall₂ (ReadsEntry registry) front before)
      (back_read : List.Forall₂ (ReadsEntry registry) back after)
      (name : nameOfKey? k = some n) (keys : namedField? entries keySetNames = some (key, v))
      (extend_read : checkField entries extendNames false checkBool = .ok (.ok extend))
      (reference_read :
        checkField entries referenceNames none (checkReference registry) = .ok (.ok reference))
      (known : unknownFaults entries = []) :
      GivesKeys registry v (.record (front ++ (k, .record entries) :: back))
        fun ks => before ++ (n, ⟨ks, extend, reference⟩) :: after

section Paths
variable {registry : Registry} {module path n : Points} {name : Option Points} {e : ImportError}

theorem member_not_relative (h : registry.member n = .error e) (m : Points) : e ≠ .relative m := by
  unfold Registry.member at h
  split at h
  · cases h
  · rintro rfl
    cases h

theorem missing_not_relative (m : Points) : registry.missing n ≠ .relative m := by
  unfold Registry.missing
  split
  · split <;> simp
  · simp

theorem load_relative_iff : registry.load module name = .error (.relative n)
    ↔ module.head? = some dot ∧ n = module := by
  unfold Registry.load
  split
  · next hdot => simp [hdot, eq_comm]
  · next hdot =>
    simp only [hdot, false_and, iff_false]
    intro h
    split at h
    · split at h
      · exact member_not_relative h n rfl
      · cases h
    · exact missing_not_relative n (Except.error.inj h)

theorem load_first_iff {rest : List Points} (hrest : rest.length ≤ 1) :
    registry.load module name = .error (.relative n)
      ↔ ∃ rest', module :: rest = n :: rest' ∧ rest'.length ≤ 1 ∧ n.head? = some dot := by
  rw [load_relative_iff]
  constructor
  · rintro ⟨hdot, rfl⟩
    exact ⟨rest, rfl, hrest, hdot⟩
  · rintro ⟨rest', hparts, -, hdot⟩
    obtain ⟨rfl, -⟩ := List.cons.inj hparts
    exact ⟨hdot, rfl⟩

theorem not_relative_of_empty (hempty : module = []) {rest : List Points} :
    ¬ ∃ rest', module :: rest = n :: rest' ∧ rest'.length ≤ 1 ∧ n.head? = some dot := by
  rintro ⟨rest', hparts, -, hdot⟩
  obtain ⟨rfl, -⟩ := List.cons.inj hparts
  simp [hempty] at hdot

theorem find_relative_iff : registry.find path = .error (.relative n) ↔ LeadsRelative path n := by
  unfold Registry.find LeadsRelative
  rcases splitAt (· == colon) (Registry.stripped path) with _ | ⟨m, _ | ⟨name, _ | ⟨x, rest⟩⟩⟩
  · simp
  · simp only
    split
    · next hempty => exact iff_of_false (by simp) (not_relative_of_empty (List.isEmpty_iff.mp hempty))
    · rw [← @load_first_iff registry m n none [] (by simp)]
      split
      · next hload => simp [hload]
      · next hload => rw [hload]
      · next e' hrelative hload =>
        -- Whatever else the last dot stands for, what failed first is reported.
        refine iff_of_false (fun h => ?_) fun h => hrelative n (Except.error.inj (hload.symm.trans h))
        split at h
        · next m' n' _ =>
          split at h
          · cases hmember : registry.member n' with
            | ok i => simp [hmember, Except.mapError] at h
            | error e'' =>
              rw [hmember] at h
              exact hrelative n (Except.error.inj h)
          · exact hrelative n (Except.error.inj h)
        · exact hrelative n (Except.error.inj h)
  · simp only
    split
    · next hempty => exact iff_of_false (by simp) (not_relative_of_empty (List.isEmpty_iff.mp hempty))
    · exact load_first_iff (by simp)
  · simp

end Paths

section Fields
variable {registry : Registry} {place : List Step} {v : Raw} {entries : List (Raw × Raw)}
  {e : ConfigError} {fs : List Fault}

theorem named_error_iff {path : Points} : checkReference.named registry place v path = .error e
    ↔ ∃ n, LeadsRelative path n ∧ e = .relativeImport (.relative n) := by
  simp only [← @find_relative_iff registry path]
  unfold checkReference.named
  split
  · next hfind => simp [hfind, accept]
  · next hfind => simp [hfind, reject]
  · next n hfind => simp [hfind, eq_comm]
  · next e' hrelative hfind =>
    have hother : ∀ n, ¬ e' = .relative n := hrelative
    simp [hfind, reject, hother]

theorem checkReference_error_iff : checkReference registry place v = .error e
    ↔ ∃ path n, WritesPath v path ∧ LeadsRelative path n ∧ e = .relativeImport (.relative n) := by
  constructor
  · intro h
    unfold checkReference at h
    split at h
    case h_3 s =>
      obtain ⟨n, hn, rfl⟩ := named_error_iff.mp h
      exact ⟨_, n, .text s, hn, rfl⟩
    case h_4 ps =>
      obtain ⟨n, hn, rfl⟩ := named_error_iff.mp h
      exact ⟨_, n, .unpaired ps, hn, rfl⟩
    all_goals cases h
  · rintro ⟨path, n, hpath, hn, rfl⟩
    cases hpath <;> exact named_error_iff.mpr ⟨n, hn, rfl⟩

theorem reject_faults {α : Type} {cause : FaultCause} (h : (reject place cause v : Checked α) = .ok (.error fs)) :
    fs ≠ [] := by
  obtain rfl := Except.error.inj (Except.ok.inj h)
  simp

theorem checkReference_faults (h : checkReference registry place v = .ok (.error fs)) : fs ≠ [] := by
  have hnamed : ∀ path, checkReference.named registry place v path = .ok (.error fs) → fs ≠ [] := by
    intro path h
    unfold checkReference.named at h
    split at h
    case h_2 => exact reject_faults h
    case h_4 => exact reject_faults h
    all_goals cases h
  unfold checkReference at h
  split at h
  case h_3 => exact hnamed _ h
  case h_4 => exact hnamed _ h
  case h_5 => exact reject_faults h
  all_goals cases h

theorem checkBool_read : ∃ r, checkBool place v = .ok r := by
  unfold checkBool
  split <;> exact ⟨_, rfl⟩

theorem checkBool_faults (h : checkBool place v = .ok (.error fs)) : fs ≠ [] := by
  unfold checkBool at h
  split at h
  case h_1 => cases h
  all_goals exact reject_faults h

section Any
variable {α : Type} {names : List String} {absent : α} {check : List Step → Raw → Checked α}

theorem checkField_of_named {n : String} (h : namedField? entries names = some (n, v)) :
    checkField entries names absent check = check [.key n] v := by
  unfold checkField
  rw [h]

theorem checkField_error_iff : checkField entries names absent check = .error e
    ↔ ∃ n v, namedField? entries names = some (n, v) ∧ check [.key n] v = .error e := by
  unfold checkField
  cases namedField? entries names with
  | none => simp [accept]
  | some field =>
    obtain ⟨n, v⟩ := field
    simp

theorem checkField_faults (hcheck : ∀ {place v fs}, check place v = .ok (.error fs) → fs ≠ [])
    (h : checkField entries names absent check = .ok (.error fs)) : fs ≠ [] := by
  unfold checkField at h
  split at h
  · cases h
  · exact hcheck h

end Any

theorem read_of_faultsOf {α : Type} {r : Except (List Fault) α} (hsome : ∀ fs, r = .error fs → fs ≠ [])
    (h : faultsOf r = []) : ∃ a, r = .ok a := by
  cases r with
  | error fs => exact absurd h (hsome fs rfl)
  | ok a => exact ⟨a, rfl⟩

theorem checkEntries_error (h : checkEntries registry entries = .error e) :
    checkField entries keySetNames [] checkKeySets = .error e
    ∨ (∃ r, checkField entries keySetNames [] checkKeySets = .ok r)
      ∧ (checkField entries referenceNames none (checkReference registry) = .error e
        ∨ (∃ r, checkField entries referenceNames none (checkReference registry) = .ok r)
          ∧ ∃ fs, fs ≠ [] ∧ e = .faults fs) := by
  unfold checkEntries at h
  cases hks : checkField entries keySetNames [] checkKeySets with
  | error e' =>
    rw [hks] at h
    obtain rfl := Except.error.inj h
    exact .inl rfl
  | ok ks =>
    obtain ⟨ex, hex⟩ : ∃ r, checkField entries extendNames false checkBool = .ok r := by
      unfold checkField
      split
      · exact ⟨_, rfl⟩
      · exact checkBool_read
    refine .inr ⟨⟨ks, rfl⟩, ?_⟩
    rw [hks, hex] at h
    cases hrf : checkField entries referenceNames none (checkReference registry) with
    | error e' =>
      rw [hrf] at h
      obtain rfl := Except.error.inj h
      exact .inl rfl
    | ok rf =>
      rw [hrf] at h
      refine .inr ⟨⟨rf, rfl⟩, ?_⟩
      simp only [bind, Except.bind] at h
      split at h
      · cases h
      · next hnone =>
        refine ⟨_, fun hfaults => ?_, (Except.error.inj h).symm⟩
        -- Without a fault every field would have been read.
        simp only [List.append_eq_nil_iff] at hfaults
        obtain ⟨⟨⟨hks₀, hex₀⟩, hrf₀⟩, hunknown⟩ := hfaults
        obtain ⟨ks', rfl⟩ :=
          read_of_faultsOf (fun _ hfs => checkField_faults checkKeySets_faults (hfs ▸ hks)) hks₀
        obtain ⟨ex', rfl⟩ :=
          read_of_faultsOf (fun _ hfs => checkField_faults checkBool_faults (hfs ▸ hex)) hex₀
        obtain ⟨rf', rfl⟩ :=
          read_of_faultsOf (fun _ hfs => checkField_faults checkReference_faults (hfs ▸ hrf)) hrf₀
        exact hnone ks' ex' rf' rfl rfl rfl (by simpa [faultsOf] using hunknown)

/-- Entries are accepted exactly if each field is and nothing else is given. -/
theorem checkEntries_ok_iff {t : TypeSettings} : checkEntries registry entries = .ok t
    ↔ checkField entries keySetNames [] checkKeySets = .ok (.ok t.keySets)
      ∧ checkField entries extendNames false checkBool = .ok (.ok t.extend)
      ∧ checkField entries referenceNames none (checkReference registry) = .ok (.ok t.reference)
      ∧ unknownFaults entries = [] := by
  constructor
  · intro h
    obtain ⟨ks, hks, h⟩ := Except.of_bind_ok h
    obtain ⟨ex, hex, h⟩ := Except.of_bind_ok h
    obtain ⟨rf, hrf, h⟩ := Except.of_bind_ok h
    rw [hks, hex, hrf]
    simp only at h
    split at h
    · next hnone =>
      obtain rfl := Except.ok.inj h
      exact ⟨rfl, rfl, rfl, by simpa [faultsOf] using hnone⟩
    · cases h
  · rintro ⟨hks, hex, hrf, hnone⟩
    unfold checkEntries
    rw [hks, hex, hrf, hnone]
    rfl

end Fields

section Settings
variable {registry : Registry} {v : Raw} {entries : List (Raw × Raw)} {e : ConfigError} {kind : String}
  {name : Points}

theorem keysBreakOff_iff (hv : v.unfolded = .record entries) : KeysBreakOff v kind
    ↔ checkField entries keySetNames [] checkKeySets = .error (.notIterable kind) := by
  simp [KeysBreakOff, hv, checkField_error_iff, checkKeySets_error_iff]

theorem refersRelatively_iff (hv : v.unfolded = .record entries) : RefersRelatively v name
    ↔ checkField entries referenceNames none (checkReference registry)
      = .error (.relativeImport (.relative name)) := by
  simp [RefersRelatively, hv, checkField_error_iff, checkReference_error_iff]

theorem checkSettings_record (hv : v.unfolded = .record entries) :
    checkSettings registry v = checkEntries registry entries := by
  unfold checkSettings
  rw [hv]

theorem checkSettings_error (h : checkSettings registry v = .error e) : Fails v e := by
  unfold checkSettings at h
  split at h
  · cases h
  · next entries hv =>
    have hkeys := @keysBreakOff_iff v entries
    have hreference := @refersRelatively_iff registry v entries
    rcases checkEntries_error h with hks | ⟨⟨ks, hks⟩, hrf | ⟨⟨rf, hrf⟩, fs, hsome, rfl⟩⟩
    · obtain ⟨key, w, hfield, hw⟩ := checkField_error_iff.mp hks
      obtain ⟨kind, hbreaks, rfl⟩ := checkKeySets_error_iff.mp hw
      exact .breaksOff ⟨entries, key, w, hv, hfield, hbreaks⟩
    · obtain ⟨key, w, hfield, hw⟩ := checkField_error_iff.mp hrf
      obtain ⟨path, n, hpath, hn, rfl⟩ := checkReference_error_iff.mp hw
      exact .relative (by simp [hkeys hv, hks]) ⟨entries, key, w, path, hv, hfield, hpath, hn⟩
    · exact .faults (by simp [hkeys hv, hks]) (by simp [hreference hv, hrf]) hsome
  · next hrecord =>
    split at h
    · cases h
    · obtain rfl := Except.error.inj h
      exact .faults (fun _ ⟨entries, _, _, hv, _⟩ => hrecord entries hv)
        (fun _ ⟨entries, _, _, _, hv, _⟩ => hrecord entries hv) (by simp)

theorem checkSettings_ok {t : TypeSettings} (h : checkSettings registry v = .ok t) :
    (∀ kind, ¬ KeysBreakOff v kind) ∧ ∀ name, ¬ RefersRelatively v name := by
  constructor
  · intro kind hbreaks
    obtain ⟨entries, key, w, hv, -⟩ := id hbreaks
    obtain ⟨hks, -⟩ := checkEntries_ok_iff.mp ((checkSettings_record hv).symm.trans h)
    rw [keysBreakOff_iff hv, hks] at hbreaks
    cases hbreaks
  · intro name hrelative
    obtain ⟨entries, key, w, path, hv, -⟩ := id hrelative
    obtain ⟨-, -, hrf, -⟩ := checkEntries_ok_iff.mp ((checkSettings_record hv).symm.trans h)
    rw [@refersRelatively_iff registry v entries _ hv, hrf] at hrelative
    cases hrelative

end Settings

section Types
variable {registry : Registry} {raw v : Raw} {es : List (Raw × Raw)} {entry : Raw × Raw} {e : ConfigError}
  {read : List KeySet → Config}

theorem checkAll_error (hfirst : FirstWithout (Readable registry) es entry)
    (h : checkSettings registry entry.2 = .error e) : checkAll registry es = .error e := by
  induction es with
  | nil => exact absurd hfirst not_firstWithout_nil
  | cons head es ih =>
    unfold checkAll
    rcases firstWithout_cons.mp hfirst with ⟨-, rfl⟩ | ⟨⟨t, ht⟩, hrest⟩
    · rw [h]
      rfl
    · rw [ht, ih hrest]
      rfl

theorem named_of_read {config : Config} (h : List.Forall₂ (ReadsEntry registry) es config)
    (hentry : entry ∈ es) : (∃ n, nameOfKey? entry.1 = some n) ∧ Readable registry entry := by
  obtain ⟨f, hf⟩ := exists_of_forall₂ h hentry
  exact ⟨⟨f.1, hf.name⟩, f.2, hf.settings⟩

theorem parse_error_iff (hraw : raw.unfolded = .record es) (hnames : ∀ e ∈ es, ∃ n, nameOfKey? e.1 = some n) :
    parse registry raw = .error e
      ↔ ∃ entry, FirstWithout (Readable registry) es entry ∧ checkSettings registry entry.2 = .error e := by
  have hfail : ∀ {entry e}, FirstWithout (Readable registry) es entry →
      checkSettings registry entry.2 = .error e → parse registry raw = .error e := by
    intro entry e hfirst hentry
    unfold parse
    rw [hraw]
    simp only
    rw [checkAll_error hfirst hentry]
    rfl
  refine ⟨fun h => ?_, fun ⟨entry, hfirst, hentry⟩ => hfail hfirst hentry⟩
  rcases forall_or_firstWithout (Readable registry) es with hall | ⟨entry, hfirst⟩
  -- If every entry can be read, all of them are.
  · have hread : ∃ config, List.Forall₂ (ReadsEntry registry) es config := by
      clear h hraw hfail
      induction es with
      | nil => exact ⟨[], .nil⟩
      | cons entry es ih =>
        obtain ⟨⟨t, ht⟩, hall⟩ := List.forall_mem_cons.mp hall
        obtain ⟨⟨n, hn⟩, hnames⟩ := List.forall_mem_cons.mp hnames
        obtain ⟨config, hconfig⟩ := ih hnames hall
        exact ⟨(n, t) :: config, .cons ⟨hn, ht⟩ hconfig⟩
    obtain ⟨config, hconfig⟩ := hread
    rw [parse_ok_iff.mpr ⟨es, hraw, hconfig⟩] at h
    cases h
  · cases hentry : checkSettings registry entry.2 with
    | ok t => exact absurd ⟨t, hentry⟩ hfirst.lacks
    | error e' =>
      rw [hfail hfirst hentry] at h
      obtain rfl := Except.error.inj h
      exact ⟨entry, hfirst, hentry⟩

theorem GivesKeys.accepted_iff (h : GivesKeys registry v raw read) (hv : IsPlain v) {config : Config} :
    parse registry raw = .ok config ↔ ∃ ks, (KeyShape v ks ∨ StrayShape v ks) ∧ config = read ks := by
  cases h with
  | @type front back k n key entries extend reference before after hfront hback hn hkeys hextend hreference
      hknown =>
    have hsettings : ∀ t, checkSettings registry (.record entries) = .ok t
        ↔ ∃ ks, (KeyShape v ks ∨ StrayShape v ks) ∧ t = ⟨ks, extend, reference⟩ := by
      intro t
      rw [checkSettings_record rfl, checkEntries_ok_iff, checkField_of_named hkeys, checkKeySets_ok_iff hv,
        hextend, hreference]
      constructor
      · rintro ⟨hks, hex, hrf, -⟩
        refine ⟨t.keySets, hks, ?_⟩
        rw [Except.ok.inj (Except.ok.inj hex), Except.ok.inj (Except.ok.inj hrf)]
      · rintro ⟨ks, hks, rfl⟩
        exact ⟨hks, rfl, rfl, hknown⟩
    have hread : ∀ ks, KeyShape v ks ∨ StrayShape v ks →
        parse registry (.record (front ++ (k, .record entries) :: back))
          = .ok (before ++ (n, ⟨ks, extend, reference⟩) :: after) := fun ks hks =>
      parse_ok_iff.mpr ⟨_, rfl, List.rel_append hfront (.cons ⟨hn, (hsettings _).mpr ⟨ks, hks, rfl⟩⟩ hback)⟩
    constructor
    · intro hparse
      obtain ⟨es, hes, hall⟩ := parse_ok_iff.mp hparse
      obtain rfl := Raw.record.inj hes
      obtain ⟨f, hf⟩ := exists_of_forall₂ hall (x := (k, .record entries)) (by simp)
      obtain ⟨ks, hks, -⟩ := (hsettings f.2).mp hf.settings
      exact ⟨ks, hks, Except.ok.inj (hparse.symm.trans (hread ks hks))⟩
    · rintro ⟨ks, hks, rfl⟩
      exact hread ks hks

theorem GivesKeys.error_iff (h : GivesKeys registry v raw read) : ∃ entries key reference,
    namedField? entries keySetNames = some (key, v)
    ∧ checkField entries referenceNames none (checkReference registry) = .ok (.ok reference)
    ∧ ∀ e, parse registry raw = .error e ↔ checkEntries registry entries = .error e := by
  cases h with
  | @type front back k n key entries extend reference before after hfront hback hn hkeys hextend hreference
      hknown =>
    refine ⟨entries, key, reference, hkeys, hreference, fun e => ?_⟩
    have hcheck := @checkSettings_record registry (.record entries) entries rfl
    have hcases : ∀ entry ∈ front ++ (k, .record entries) :: back,
        (∃ n, nameOfKey? entry.1 = some n)
          ∧ (Readable registry entry ∨ entry = (k, .record entries)) := by
      intro entry hentry
      rcases List.mem_append.mp hentry with hentry | hentry
      · exact (named_of_read hfront hentry).imp_right .inl
      · rcases List.mem_cons.mp hentry with rfl | hentry
        · exact ⟨⟨n, hn⟩, .inr rfl⟩
        · exact (named_of_read hback hentry).imp_right .inl
    rw [parse_error_iff rfl fun entry hentry => (hcases entry hentry).1]
    constructor
    · rintro ⟨entry, ⟨front', back', hsplit, -, hunread⟩, he⟩
      have hentry : entry ∈ front ++ (k, .record entries) :: back := by simp [hsplit]
      obtain rfl := (hcases entry hentry).2.resolve_left hunread
      exact hcheck.symm.trans he
    · intro he
      have hsettings := hcheck.trans he
      refine ⟨(k, .record entries), ⟨front, back, rfl, fun y hy => (named_of_read hfront hy).2, ?_⟩, hsettings⟩
      rintro ⟨t, ht⟩
      rw [hsettings] at ht
      cases ht

theorem GivesKeys.breaksOff_iff (h : GivesKeys registry v raw read) {kind : String} :
    parse registry raw = .error (.notIterable kind) ↔ BreaksOff v kind := by
  obtain ⟨entries, key, reference, hkeys, hreference, herror⟩ := h.error_iff
  have hkeys' : checkField entries keySetNames [] checkKeySets = .error (.notIterable kind)
      ↔ BreaksOff v kind := by
    rw [checkField_of_named hkeys, checkKeySets_error_iff]
    simp
  rw [herror, ← hkeys']
  constructor
  · intro he
    rcases checkEntries_error he with hks | ⟨-, hrf | ⟨-, fs, -, hfs⟩⟩
    · exact hks
    · rw [hreference] at hrf
      cases hrf
    · cases hfs
  · intro hks
    unfold checkEntries
    rw [hks]
    rfl

theorem GivesKeys.error_cases (h : GivesKeys registry v raw read) (he : parse registry raw = .error e) :
    (∃ fs, fs ≠ [] ∧ e = .faults fs) ∨ ∃ kind, e = .notIterable kind := by
  obtain ⟨entries, key, reference, hkeys, hreference, herror⟩ := h.error_iff
  rcases checkEntries_error ((herror e).mp he) with hks | ⟨-, hrf | ⟨-, hfaults⟩⟩
  · rw [checkField_of_named hkeys] at hks
    obtain ⟨kind, -, rfl⟩ := checkKeySets_error_iff.mp hks
    exact .inr ⟨kind, rfl⟩
  · rw [hreference] at hrf
    cases hrf
  · exact .inl hfaults

end Types

/-- Plain key fields are accepted exactly in their shapes, or with records that stand for their keys next
to a list. They are refused with faults, but for those at which reading breaks off. Wherever types are
named by texts, what fails is the first type with malformed settings. It fails with faults, but for key
fields that break off and for references by a relative path, and neither of these is ever accepted. -/
theorem parse_keyFields (registry : Registry) :
    (∀ v raw read, GivesKeys registry v raw read → IsPlain v →
      (∀ config, parse registry raw = .ok config
        ↔ ∃ ks, (KeyShape v ks ∨ StrayShape v ks) ∧ config = read ks)
      ∧ (∀ kind, parse registry raw = .error (.notIterable kind) ↔ BreaksOff v kind)
      ∧ ∀ e, parse registry raw = .error e →
        (∃ fs, fs ≠ [] ∧ e = .faults fs) ∨ ∃ kind, e = .notIterable kind)
    ∧ ∀ raw es, raw.unfolded = .record es → (∀ e ∈ es, ∃ n, nameOfKey? e.1 = some n) →
      (∀ e, parse registry raw = .error e →
        ∃ entry, FirstWithout (Readable registry) es entry ∧ Fails entry.2 e)
      ∧ ∀ config, parse registry raw = .ok config → ∀ entry ∈ es,
        (∀ kind, ¬ KeysBreakOff entry.2 kind) ∧ ∀ name, ¬ RefersRelatively entry.2 name := by
  refine ⟨fun v raw read h hv => ⟨fun config => h.accepted_iff hv, fun kind => h.breaksOff_iff,
    fun e => h.error_cases⟩, fun raw es hraw hnames => ⟨fun e he => ?_, fun config hparse entry hentry => ?_⟩⟩
  · obtain ⟨entry, hfirst, hentry⟩ := (parse_error_iff hraw hnames).mp he
    exact ⟨entry, hfirst, checkSettings_error hentry⟩
  · obtain ⟨es', hraw', hread⟩ := parse_ok_iff.mp hparse
    obtain rfl := Raw.record.inj (hraw.symm.trans hraw')
    obtain ⟨-, t, ht⟩ := named_of_read hread hentry
    exact checkSettings_ok ht

section Users

def userWith (name : String) (v : Raw) : Raw := .record [(.text "User", .record [(.text name, v)])]

def userKeyed (ks : List KeySet) : Config := [("User", ⟨ks, false, none⟩)]

/-- A list and a record as key sets. -/
def strayKeys : Raw := .list [.list [.text "id"], .record [(.text "sku", .int 1)]]

/-- A list and a number as key sets. -/
def brokenKeys : Raw := .list [.list [.text "id"], .int 5]

theorem givesKeys_user (v : Raw) : GivesKeys shopRegistry v (userWith "keyFields" v) userKeyed :=
  @GivesKeys.type shopRegistry v [] [] (.text "User") "User" "keyFields" [(.text "keyFields", v)] false none
    [] [] .nil .nil rfl rfl rfl rfl rfl

theorem isPlain_strayKeys : IsPlain strayKeys := by
  have hid : IsPlain (.text "id") := .text (.text "id")
  have hrecord : IsPlain (.record [(.text "sku", .int 1)]) :=
    .record (by simpa using ⟨"sku", .text "sku"⟩) (by simpa using IsPlain.int 1)
  exact .list (by simpa using ⟨.list (by simpa using hid), hrecord⟩)

theorem isPlain_brokenKeys : IsPlain brokenKeys := by
  have hid : IsPlain (.text "id") := .text (.text "id")
  exact .list (by simpa using ⟨.list (by simpa using hid), .int 5⟩)

/-- The error for a relative path. -/
def relativeRefs : ConfigError := .relativeImport (.relative (Points.ofString ".refs.echo"))

/-- Next to a list a record stands for its keys, and a number is where reading breaks off. A reference by a
relative path fails too. -/
theorem parse_keyFields_users :
    parse shopRegistry (userWith "keyFields" strayKeys) = .ok (userKeyed [["id"], ["sku"]])
    ∧ parse shopRegistry (userWith "keyFields" brokenKeys) = .error (.notIterable "int")
    ∧ parse shopRegistry (userWith "resolveReference" (.text ".refs.echo")) = .error relativeRefs
    ∧ Fails (.record [(.text "resolveReference", .text ".refs.echo")]) relativeRefs := by
  obtain ⟨hkeys, hfails⟩ := parse_keyFields shopRegistry
  refine ⟨?_, ?_, ?_⟩
  · obtain ⟨haccepted, -⟩ := hkeys _ _ _ (givesKeys_user strayKeys) isPlain_strayKeys
    refine (haccepted _).mpr ⟨[["id"], ["sku"]], .inr ⟨_, rfl, ⟨[.text "id"], by simp⟩,
      ⟨[(.text "sku", .int 1)], by simp⟩, ?_⟩, rfl⟩
    exact .cons (.inl (.list (by simp) (.cons (.text "id") .nil)))
      (.cons (.inr (.record (by simp) (.cons (.text "sku") .nil))) .nil)
  · obtain ⟨-, hbreaks, -⟩ := hkeys _ _ _ (givesKeys_user brokenKeys) isPlain_brokenKeys
    refine (hbreaks "int").mpr ⟨_, .int 5, .inl rfl, ⟨.list [.text "id"], by simp, rfl⟩,
      ⟨[.list [.text "id"]], [], rfl, ?_, ?_⟩, ?_, rfl⟩
    · simpa using ⟨_, .list _, by simp⟩
    · rintro ⟨items, hitems, -⟩
      cases hitems
    · rintro items hitems
      cases hitems
  · have he : parse shopRegistry (userWith "resolveReference" (.text ".refs.echo")) = .error relativeRefs := rfl
    obtain ⟨hfirst, -⟩ := hfails (userWith "resolveReference" (.text ".refs.echo")) _ rfl
      (by simpa using ⟨"User", rfl⟩)
    obtain ⟨entry, ⟨front, back, hsplit, -⟩, hentry⟩ := hfirst _ he
    have hmem : entry ∈ front ++ entry :: back := by simp
    rw [← hsplit] at hmem
    obtain rfl := List.mem_singleton.mp hmem
    exact ⟨he, hentry⟩

end Users

end Subgraph.Federation
