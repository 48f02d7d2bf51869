import Subgraph.Proofs.ShownDirectives

/-!
# No other directive is lost

A directive that a document applies is shown where it is applied, with the same arguments, unless it is
one of the few that are dropped: those that an extension makes of a scalar or of an input type about what
specifies it or whether it takes one of its fields, and deprecations whose reason is no text.
-/

namespace Subgraph

/-- A text is the same however it is written. -/
def Literal.unblocked : Constant → Constant
  | .string m text _ => .string m text false
  | l => l

def specifiedDefault (directive argument : String) : Option Constant := do
  let d ← Builtin.directives.find? (·.name == directive)
  let v ← d.arguments.find? (·.name == argument)
  match v.default? with
  | some (.written l) => some l
  | _ => none

/-- The value that an argument of a directive has, which may be its default. -/
def Directive.valueOf (a : Applied) (n : String) : Option Constant :=
  (((a.arguments.find? (·.name == n)).map (·.value)).or (specifiedDefault a.name n)).map
    Literal.unblocked

/-- Directives of one name whose arguments have the same values. -/
structure SameApplication (a b : Applied) : Prop where
  name : a.name = b.name
  values : ∀ n, a.valueOf n = b.valueOf n

theorem SameApplication.refl (a : Applied) : SameApplication a a := ⟨rfl, fun _ => rfl⟩

section Texts
variable (directive argument text : String) (block : Bool)

theorem textDirective_same (block' : Bool) :
    SameApplication (textDirective directive argument text block)
      (textDirective directive argument text block') where
  name := rfl
  values := by
    intro n
    unfold Directive.valueOf textDirective
    rw [List.find?_cons, List.find?_cons]
    cases argument == n <;> rfl

theorem deprecationApplied_same : ∃ e ∈ Federation.deprecationApplied (some text),
    SameApplication e (textDirective "deprecated" "reason" text block) := by
  have hshown : Federation.deprecationApplied (some text) = if text = Builtin.noReason
      then [⟨(), "deprecated", []⟩] else [textDirective "deprecated" "reason" text false] := rfl
  rw [hshown]
  by_cases htext : text = Builtin.noReason
  · rw [if_pos htext]
    refine ⟨_, List.mem_singleton_self _, rfl, fun n => ?_⟩
    unfold Directive.valueOf textDirective
    rw [List.find?_cons]
    by_cases hn : n = "reason"
    · subst hn
      rw [htext]
      rfl
    · rw [beq_eq_false_iff_ne.mpr (Ne.symm hn)]
  · rw [if_neg htext]
    exact ⟨_, List.mem_singleton_self _, textDirective_same _ _ _ false block⟩

end Texts

section Governed
variable {doc : Document Unit} {location : String} {a : Applied}

theorem arguments_of_one {as : List (Argument Unit)} {n : String} (hall : ∀ x ∈ as, x.name ∈ [n])
    (hdistinct : (as.map (·.name)).Nodup) : as = [] ∨ ∃ v, as = [⟨(), n, v⟩] := by
  cases as with
  | nil => exact .inl rfl
  | cons x as =>
    have hx : x.name = n := List.mem_singleton.mp (hall x List.mem_cons_self)
    cases as with
    | nil => exact .inr ⟨x.value, by rw [← hx]⟩
    | cons y as =>
      have hy : y.name = n := List.mem_singleton.mp (hall y (by simp))
      rw [List.map_cons, List.map_cons, List.nodup_cons, hx, hy] at hdistinct
      exact absurd List.mem_cons_self hdistinct.1

theorem eq_of_parts {n : String} {as : List (Argument Unit)} (hname : a.name = n)
    (hargs : a.arguments = as) : a = ⟨(), n, as⟩ := by
  subst hname hargs
  rfl

variable (hnew : ∀ e ∈ (Build.parts doc).directives, e.name ≠ a.name)
  (h : (RuleContext.ofDocument doc).Governs location a)
include hnew h

theorem oneOf_governed (hname : a.name = "oneOf") :
    location = "INPUT_OBJECT" ∧ a = ⟨(), "oneOf", []⟩ := by
  obtain ⟨hlocation, hknown, -⟩ := arguments_of_governs hnew h
    (k := ⟨"oneOf", false, ["INPUT_OBJECT"], [], []⟩) (by rw [hname]; rfl)
  refine ⟨List.mem_singleton.mp hlocation, eq_of_parts hname ?_⟩
  exact List.eq_nil_iff_forall_not_mem.mpr fun x hx => List.not_mem_nil (hknown x hx)

theorem specifiedBy_governed (hname : a.name = "specifiedBy") :
    location = "SCALAR" ∧ ∃ v, a = ⟨(), "specifiedBy", [⟨(), "url", v⟩]⟩ := by
  obtain ⟨hlocation, hknown, hrequired⟩ := arguments_of_governs hnew h
    (k := ⟨"specifiedBy", false, ["SCALAR"], ["url"], [("url", .nonNull (.named "String"))]⟩)
    (by rw [hname]; rfl)
  refine ⟨List.mem_singleton.mp hlocation, ?_⟩
  rcases arguments_of_one hknown h.distinct with hargs | ⟨v, hargs⟩
  · obtain ⟨x, hx, -⟩ := hrequired _ List.mem_cons_self
    rw [hargs] at hx
    cases hx
  · exact ⟨v, eq_of_parts hname hargs⟩

theorem deprecated_governed (hname : a.name = "deprecated") :
    location ∈ "DIRECTIVE_DEFINITION" :: memberLocations
      ∧ (a = ⟨(), "deprecated", []⟩ ∨ ∃ v, a = ⟨(), "deprecated", [⟨(), "reason", v⟩]⟩) := by
  obtain ⟨hlocation, hknown, -⟩ := arguments_of_governs hnew h
    (k := ⟨"deprecated", false, ["FIELD_DEFINITION", "ARGUMENT_DEFINITION",
      "INPUT_FIELD_DEFINITION", "ENUM_VALUE", "DIRECTIVE_DEFINITION"], ["reason"], []⟩)
    (by rw [hname]; rfl)
  have hwhere : ∀ l ∈ ["FIELD_DEFINITION", "ARGUMENT_DEFINITION", "INPUT_FIELD_DEFINITION",
      "ENUM_VALUE", "DIRECTIVE_DEFINITION"], l ∈ "DIRECTIVE_DEFINITION" :: memberLocations := by decide
  refine ⟨hwhere location hlocation, ?_⟩
  rcases arguments_of_one hknown h.distinct with hargs | ⟨v, hargs⟩
  · exact .inl (eq_of_parts hname hargs)
  · exact .inr ⟨v, eq_of_parts hname hargs⟩

end Governed
open Federation (Coordinate printedNames)

/-- The directives that a document applies to a type, or to a member of it, where it defines or extends
the type. -/
def Document.appliedAt (doc : Document Unit) (c : Coordinate) : List Applied :=
  match c.member with
  | none => (nodes doc c.type).flatMap (·.directives)
  | some member => (nodes doc c.type).flatMap fun d =>
      (d.body.applications.filter (·.1 == member)).flatMap (·.2)

/-- The directives that are dropped. -/
inductive Document.Drops (doc : Document Unit) : Coordinate → Applied → Prop where
  | extended {d : TypeDefinition Unit} {a : Applied} (hd : .extendType d ∈ doc)
      (ha : a ∈ d.directives) (hname : a.name = "specifiedBy" ∨ a.name = "oneOf") :
      Drops doc ⟨d.name, none⟩ a
  | unreasoned {c : Coordinate} {a : Applied} {x : Argument Unit} (hname : a.name = "deprecated")
      (hx : x ∈ a.arguments) (hreason : x.name = "reason")
      (hvalue : ∀ text block, x.value ≠ .string () text block) : Drops doc c a

section Inversion
variable {doc : Document Unit} {n : String} {a : Applied}

theorem mem_nodes {d : TypeDefinition Unit} :
    d ∈ Document.nodes doc n ↔ (∃ e ∈ doc, e.type? = some d) ∧ d.name = n := by
  rw [Document.nodes, List.mem_filter, List.mem_filterMap, beq_iff_eq]

theorem mem_appliedAt_type : a ∈ doc.appliedAt ⟨n, none⟩
    ↔ ∃ d ∈ Document.nodes doc n, a ∈ d.directives := List.mem_flatMap

theorem mem_appliedAt_member {member : String} : a ∈ doc.appliedAt ⟨n, some member⟩
    ↔ ∃ d ∈ Document.nodes doc n, ∃ m ∈ d.body.applications, m.1 = member ∧ a ∈ m.2 := by
  refine List.mem_flatMap.trans (exists_congr fun d => and_congr_right fun _ => ?_)
  rw [List.mem_flatMap]
  simp only [List.mem_filter, beq_iff_eq, and_assoc]

theorem Document.Drops.of_type (h : doc.Drops ⟨n, none⟩ a) :
    (∃ d, .extendType d ∈ doc ∧ d.name = n ∧ a ∈ d.directives) ∨ a.name = "deprecated" := by
  generalize hc : (⟨n, none⟩ : Coordinate) = c at h
  cases h with
  | extended hd ha _ => exact .inl ⟨_, hd, (Coordinate.mk.inj hc).1.symm, ha⟩
  | unreasoned hname => exact .inr hname

theorem Document.Drops.of_member {member : String} (h : doc.Drops ⟨n, some member⟩ a) :
    ∃ x ∈ a.arguments, x.name = "reason" ∧ ∀ text block, x.value ≠ .string () text block := by
  generalize hc : (⟨n, some member⟩ : Coordinate) = c at h
  cases h with
  | extended => cases (Coordinate.mk.inj hc).2
  | unreasoned _ hx hreason hvalue => exact ⟨_, hx, hreason, hvalue⟩

end Inversion

section Places
variable {doc : Document Unit} {e : Definition Unit} {d : TypeDefinition Unit} {a : Applied}

theorem visits_of_type (he : e ∈ doc) (hd : e.type? = some d) :
    ∃ isExtension, ∀ v ∈ Visit.ofType isExtension d, v ∈ doc.visits := by
  have hinside : ∃ isExtension, Visit.ofDefinition e = Visit.ofType isExtension d := by
    cases e with
    | type _ d' => cases hd; exact ⟨false, rfl⟩
    | extendType d' => cases hd; exact ⟨true, rfl⟩
    | _ => cases hd
  obtain ⟨isExtension, hsame⟩ := hinside
  exact ⟨isExtension, fun v hv => Document.mem_visits_of_definition he (hsame ▸ hv)⟩

theorem governs_type (hfaults : doc.faults = []) (he : e ∈ doc) (hd : e.type? = some d)
    (ha : a ∈ d.directives) : (RuleContext.ofDocument doc).Governs d.body.location a := by
  obtain ⟨isExtension, hinside⟩ := visits_of_type he hd
  exact Document.governs hfaults
    (fun v hv => hinside v (Visit.mem_ofType_directives isExtension v hv)) ha

theorem governs_member (hfaults : doc.faults = []) (he : e ∈ doc) (hd : e.type? = some d)
    {m : String × List Applied} (hm : m ∈ d.body.applications) (ha : a ∈ m.2) :
    (∃ location ∈ memberLocations, (RuleContext.ofDocument doc).Governs location a)
      ∧ ((RuleContext.ofDocument doc).onlyOnce a.name = true →
        m.2.find? (·.name == a.name) = some a) := by
  obtain ⟨isExtension, hinside⟩ := visits_of_type he hd
  obtain ⟨location, hlocation, hmeets⟩ := Visit.mem_ofType_member isExtension hm
  refine ⟨⟨location, hlocation, Document.governs hfaults
    (fun v hv => hinside v (hmeets.each v hv)) ha⟩, fun honce => ?_⟩
  have hcarrier := Document.faults_of_visit hfaults (hinside _ hmeets.carrier)
  exact find?_of_once (List.map_eq_nil_iff.mp hcarrier) ha honce

end Places

namespace Build
variable {doc : Document Unit} {t : NamedType} {d : TypeDefinition Unit}
  {es : List (TypeDefinition Unit)} {a : Applied}

theorem MadeOf.mem_rows (hmade : MadeOf doc t d es) {d' : TypeDefinition Unit}
    (hnode : d' ∈ Document.nodes doc t.name) {m : String × List Applied}
    (hm : m ∈ d'.body.applications) : rowOf m ∈ t.shape.rows := by
  rw [hmade.rows]
  exact List.mem_flatMap.mpr ⟨d', hmade.nodes.mem_iff.mp hnode, List.mem_map_of_mem hm⟩

section Once
variable (hmade : MadeOf doc t d es) (hfaults : doc.faults = [])
  (honce : (RuleContext.ofDocument doc).onlyOnce a.name = true)
include hmade hfaults honce

theorem MadeOf.find?_definition (ha : a ∈ d.directives) :
    d.directives.find? (·.name == a.name) = some a := by
  have hall := (hmade.nodes.flatMap_right _).nodup_iff.mp (Document.onceNames_distinct hfaults t.name)
  rw [List.flatMap_cons, List.nodup_append] at hall
  refine find?_of_count ha ?_
  have hcount := List.nodup_iff_count.mp hall.1 a.name
  rwa [onceNames, List.count_filter honce] at hcount

theorem MadeOf.not_definition {e : TypeDefinition Unit} (he : e ∈ es) (ha : a ∈ e.directives)
    {b : Applied} (hb : b ∈ d.directives) : b.name ≠ a.name := by
  intro hname
  have hall := (hmade.nodes.flatMap_right _).nodup_iff.mp (Document.onceNames_distinct hfaults t.name)
  rw [List.flatMap_cons, List.nodup_append] at hall
  have hnames : ∀ {e' : TypeDefinition Unit} {c : Applied}, c ∈ e'.directives → c.name = a.name →
      a.name ∈ onceNames doc e' := fun hc hcname =>
    List.mem_filter.mpr ⟨hcname ▸ List.mem_map_of_mem hc, honce⟩
  exact hall.2.2 a.name (hnames hb hname) a.name
    (List.mem_flatMap.mpr ⟨e, he, hnames ha rfl⟩) rfl

end Once

theorem attributes_definition {x : Applied} (hx : x ∈ (shape d).attributes) :
    ∃ b ∈ d.directives, b.name = x.name := by
  unfold shape at hx
  cases hb : d.body with
  | scalar =>
    rw [hb] at hx
    cases hurl : orNone (specifiedBy d.directives) with
    | none => simp [hurl, TypeShape.attributes] at hx
    | some url =>
      simp only [hurl, TypeShape.attributes, List.mem_singleton] at hx
      subst hx
      unfold specifiedBy textArgument at hurl
      cases hfind : d.directives.find? (·.name == "specifiedBy") with
      | none => simp [hfind, orNone, Except.toOption] at hurl
      | some b =>
        have hname := List.find?_some hfind
        exact ⟨b, List.mem_of_find?_eq_some hfind, eq_of_beq hname⟩
  | input fs =>
    rw [hb] at hx
    cases hone : isOneOf d.directives with
    | false => simp [hone, TypeShape.attributes] at hx
    | true =>
      simp only [hone, TypeShape.attributes, List.mem_singleton] at hx
      subst hx
      obtain ⟨b, hb, hname⟩ := List.any_eq_true.mp hone
      exact ⟨b, hb, eq_of_beq hname⟩
  | _ => rw [hb] at hx; cases hx

section Reading
variable {directive argument : String} {fallback : Option String} {applied : List Applied}

theorem textArgument_default {reason : String}
    (h : applied.find? (·.name == directive) = some ⟨(), directive, []⟩) :
    textArgument directive argument (some reason) applied = .ok (some reason) := by
  unfold textArgument
  rw [h]
  rfl

theorem textArgument_text {text : String} {block : Bool}
    (h : applied.find? (·.name == directive) = some (textDirective directive argument text block)) :
    textArgument directive argument fallback applied = .ok (some text) := by
  unfold textArgument
  simp [h, textDirective]

theorem textArgument_other {v : Constant} (hv : ∀ text block, v ≠ .string () text block)
    (h : applied.find? (·.name == directive) = some ⟨(), directive, [⟨(), argument, v⟩]⟩)
    (text : String) : textArgument directive argument fallback applied ≠ .ok (some text) := by
  unfold textArgument
  cases v with
  | string _ text block => exact absurd rfl (hv text block)
  | null _ => cases fallback <;> simp [h]
  | _ => simp [h]

theorem textArgument_required {v : Constant} {url : Option String}
    (h : applied.find? (·.name == directive) = some ⟨(), directive, [⟨(), argument, v⟩]⟩)
    (hurl : textArgument directive argument none applied = .ok url) :
    ∃ text block, v = .string () text block ∧ url = some text := by
  unfold textArgument at hurl
  cases v with
  | string _ text block =>
    simp only [h, List.reverse_singleton, List.find?_singleton, beq_self_eq_true, if_true] at hurl
    exact ⟨text, block, rfl, (Except.ok.inj hurl).symm⟩
  | _ => simp [h] at hurl

theorem orNone_eq_none {r : Except (Misuse Unit) (Option String)} (h : ∀ text, r ≠ .ok (some text)) :
    orNone r = none := by
  cases r with
  | error m => rfl
  | ok o =>
    cases o with
    | none => rfl
    | some text => exact absurd rfl (h text)

end Reading
end Build

/-- Directives of a document are accounted for at a place where directives are shown. Those that are told
to the declaration are among them, as often as they are applied. One of those that are shown without
being told, and that the document does not define anew, is shown with its arguments exactly if it is not
dropped. -/
structure Document.Accounts (doc : Document Unit) (c : Coordinate) (shown : List Applied) : Prop where
  told : (Federation.restored (doc.appliedAt c)).Subperm shown
  specified : ∀ a ∈ doc.appliedAt c, a.name ∈ printedNames →
    (∀ e ∈ (Build.parts doc).directives, e.name ≠ a.name) →
      ((∃ x ∈ shown, SameApplication x a) ↔ ¬ doc.Drops c a)

section Accounting
open Build Federation
variable {doc : Document Unit} {c : Coordinate} {a : Applied}

section Bodies
variable {d : TypeDefinition Unit}

theorem body_scalar (h : d.body.location = "SCALAR") : d.body = .scalar := by
  cases hb : d.body with
  | scalar => rfl
  | _ => simp [hb, TypeBody.location] at h

theorem body_input (h : d.body.location = "INPUT_OBJECT") : ∃ fs, d.body = .input fs := by
  cases hb : d.body with
  | input fs => exact ⟨fs, rfl⟩
  | _ => simp [hb, TypeBody.location] at h

theorem location_not_member : d.body.location ∉ "DIRECTIVE_DEFINITION" :: memberLocations := by
  have hall : ∀ l ∈ ["SCALAR", "OBJECT", "INTERFACE", "UNION", "ENUM", "INPUT_OBJECT"],
      l ∉ "DIRECTIVE_DEFINITION" :: memberLocations := by decide
  refine hall _ ?_
  cases d.body <;> simp [TypeBody.location]

end Bodies

section AtType
variable {t : NamedType} {d : TypeDefinition Unit} {es : List (TypeDefinition Unit)}
  (hmade : MadeOf doc t d es) (hfaults : doc.faults = [])
  (hname : a.name ∈ printedNames) (hnew : ∀ e ∈ (parts doc).directives, e.name ≠ a.name)
include hmade hfaults hname hnew

theorem shown_of_definition (ha : a ∈ d.directives)
    (hgoverns : (RuleContext.ofDocument doc).Governs d.body.location a) :
    ∃ x ∈ t.shape.attributes, SameApplication x a := by
  rw [hmade.attributes]
  simp only [printedNames, List.mem_cons, List.not_mem_nil, or_false] at hname
  rcases hname with hname' | hname' | hname'
  · exact absurd (deprecated_governed hnew hgoverns hname').1 location_not_member
  · obtain ⟨hlocation, v, rfl⟩ := specifiedBy_governed hnew hgoverns hname'
    have hbody := body_scalar hlocation
    obtain ⟨url, hurl⟩ := hmade.readable hbody
    have honce := onlyOnce_specified hnew (by simp [printedNames])
    have hfind := hmade.find?_definition hfaults honce ha
    obtain ⟨text, block, rfl, rfl⟩ := textArgument_required hfind hurl
    refine ⟨_, ?_, textDirective_same "specifiedBy" "url" text false block⟩
    rw [shape, hbody]
    simp only [hurl, orNone, Except.toOption, Option.join_some, TypeShape.attributes, List.mem_singleton]
  · obtain ⟨hlocation, rfl⟩ := oneOf_governed hnew hgoverns hname'
    obtain ⟨fs, hbody⟩ := body_input hlocation
    have hone : isOneOf d.directives = true := List.any_eq_true.mpr ⟨_, ha, beq_self_eq_true _⟩
    refine ⟨_, ?_, .refl _⟩
    rw [shape, hbody]
    simp only [hone, TypeShape.attributes, List.mem_singleton]

theorem not_shown_of_extension {e : TypeDefinition Unit} (he : e ∈ es) (ha : a ∈ e.directives)
    {x : Applied} (hx : x ∈ t.shape.attributes) : x.name ≠ a.name := by
  rw [hmade.attributes] at hx
  obtain ⟨b, hb, hbname⟩ := attributes_definition hx
  rw [← hbname]
  exact hmade.not_definition hfaults (onlyOnce_specified hnew hname) he ha hb

end AtType

theorem accounts_type {t : NamedType} {d : TypeDefinition Unit} {es : List (TypeDefinition Unit)}
    (hmade : MadeOf doc t d es) (hfaults : doc.faults = []) {told : List Applied}
    (htold : (restored t.applied).Sublist told) (hplain : ∀ b ∈ told, b.name ∉ printedNames) :
    doc.Accounts ⟨t.name, none⟩ (t.shape.attributes ++ told) where
  told := by
    have hperm : (doc.appliedAt ⟨t.name, none⟩).Perm t.applied := by
      rw [hmade.applied]
      exact hmade.nodes.flatMap_right _
    exact (hperm.filter _).subperm.trans (htold.trans (List.sublist_append_right _ _)).subperm
  specified := by
    intro a ha hname hnew
    obtain ⟨d', hnode, ha⟩ := mem_appliedAt_type.mp ha
    obtain ⟨⟨e, he, hd⟩, hn⟩ := mem_nodes.mp hnode
    have hgoverns := governs_type hfaults he hd ha
    have hreasoned : a.name ≠ "deprecated" := fun h =>
      location_not_member (deprecated_governed hnew hgoverns h).1
    rcases List.mem_cons.mp (hmade.nodes.mem_iff.mp hnode) with rfl | hextension
    · obtain ⟨x, hx, hsame⟩ := shown_of_definition hmade hfaults hname hnew ha hgoverns
      refine iff_of_true ⟨x, List.mem_append_left _ hx, hsame⟩ fun hdrops => ?_
      rcases hdrops.of_type with ⟨f, hf, hfname, haf⟩ | h
      · exact hmade.not_definition hfaults (onlyOnce_specified hnew hname)
          ((hmade.extensions f).mpr ⟨hf, hfname⟩) haf ha rfl
      · exact hreasoned h
    · refine iff_of_false ?_ (not_not.mpr ?_)
      · rintro ⟨x, hx, hsame⟩
        rcases List.mem_append.mp hx with hx | hx
        · exact not_shown_of_extension hmade hfaults hname hnew hextension ha hx hsame.name
        · exact hplain x hx (hsame.name ▸ hname)
      · rw [← hn]
        refine .extended ((hmade.extensions d').mp hextension).1 ha ?_
        simpa [printedNames, hreasoned] using hname

theorem accounts_deprecated {n member : String} {ds : List Applied}
    (hfind : ds.find? (·.name == "deprecated") = some a)
    (hform : a = ⟨(), "deprecated", []⟩ ∨ ∃ v, a = ⟨(), "deprecated", [⟨(), "reason", v⟩]⟩) :
    (∃ x ∈ deprecationApplied (orNone (deprecation ds)) ++ restored ds, SameApplication x a)
      ↔ ¬ doc.Drops ⟨n, some member⟩ a := by
  rcases hform with rfl | ⟨v, rfl⟩
  · have hread : deprecation ds = .ok (some Builtin.noReason) := textArgument_default hfind
    rw [hread]
    refine iff_of_true ⟨_, List.mem_append_left _ ?_, .refl _⟩ fun hdrops => ?_
    · exact List.mem_singleton_self _
    · obtain ⟨x, hx, -⟩ := hdrops.of_member
      cases hx
  · by_cases htext : ∃ text block, v = .string () text block
    · obtain ⟨text, block, rfl⟩ := htext
      have hread : deprecation ds = .ok (some text) := textArgument_text hfind
      obtain ⟨x, hx, hsame⟩ := deprecationApplied_same text block
      rw [hread]
      refine iff_of_true ⟨x, List.mem_append_left _ hx, hsame⟩ fun hdrops => ?_
      obtain ⟨y, hy, -, hvalue⟩ := hdrops.of_member
      rw [List.mem_singleton.mp hy] at hvalue
      exact hvalue text block rfl
    · have hother : ∀ text block, v ≠ .string () text block := fun text block heq =>
        htext ⟨text, block, heq⟩
      have hread : orNone (deprecation ds) = none := orNone_eq_none (textArgument_other hother hfind)
      rw [hread]
      refine iff_of_false ?_ (not_not.mpr (.unreasoned rfl List.mem_cons_self rfl hother))
      rintro ⟨x, hx, hsame⟩
      have hplain := (mem_restored.mp hx).2
      rw [hsame.name] at hplain
      exact hplain (by simp [printedNames])

section AtMember
variable {t : NamedType} {d : TypeDefinition Unit} {es : List (TypeDefinition Unit)}
  (hmade : MadeOf doc t d es) {r : MemberRow} (hr : r ∈ t.shape.rows)
include hmade hr

theorem appliedAt_row : (doc.appliedAt ⟨t.name, some r.1⟩).Perm r.2.2 := by
  have hone : (t.shape.rows.filter (·.1 == r.1)).flatMap (·.2.2) = r.2.2 := by
    rw [filter_of_mem hmade.distinct hr, List.flatMap_singleton]
  have hrows : (t.shape.rows.filter (·.1 == r.1)).flatMap (·.2.2)
      = (d :: es).flatMap fun e => (e.body.applications.filter (·.1 == r.1)).flatMap (·.2) := by
    rw [hmade.rows, List.filter_flatMap, List.flatMap_assoc]
    refine flatMap_eq_of_mem fun e _ => ?_
    rw [List.filter_map, List.flatMap_map]
    rfl
  rw [← hone, hrows]
  exact hmade.nodes.flatMap_right _

theorem rowOf_eq {d' : TypeDefinition Unit} (hnode : d' ∈ Document.nodes doc t.name)
    {m : String × List Applied} (hm : m ∈ d'.body.applications) (hname : m.1 = r.1) :
    rowOf m = r := by
  have hrow := hmade.mem_rows hnode hm
  have hfirst := @find?_of_mem MemberRow (·.1) _ hmade.distinct _ hrow
  have hsecond := @find?_of_mem MemberRow (·.1) _ hmade.distinct _ hr
  rw [show (rowOf m).1 = r.1 from hname, hsecond] at hfirst
  exact (Option.some.inj hfirst).symm

theorem accounts_member (hfaults : doc.faults = []) :
    doc.Accounts ⟨t.name, some r.1⟩ (deprecationApplied r.2.1 ++ restored r.2.2) where
  told := ((appliedAt_row hmade hr).filter _).subperm.trans (List.sublist_append_right _ _).subperm
  specified := by
    intro a hmem hname hnew
    obtain ⟨d', hnode, m, hm, hmname, ha⟩ := mem_appliedAt_member.mp hmem
    obtain rfl := rowOf_eq hmade hr hnode hm hmname
    obtain ⟨⟨e, he, hd⟩, -⟩ := mem_nodes.mp hnode
    obtain ⟨⟨location, hlocation, hgoverns⟩, honly⟩ := governs_member hfaults he hd hm ha
    have hfind := honly (onlyOnce_specified hnew hname)
    have hother : ∀ l ∈ ["SCALAR", "INPUT_OBJECT"], l ∉ memberLocations := by decide
    simp only [printedNames, List.mem_cons, List.not_mem_nil, or_false] at hname
    rcases hname with hname | hname | hname
    · rw [hname] at hfind
      exact accounts_deprecated hfind (deprecated_governed hnew hgoverns hname).2
    · rw [(specifiedBy_governed hnew hgoverns hname).1] at hlocation
      exact absurd hlocation (hother _ (by simp))
    · rw [(oneOf_governed hnew hgoverns hname).1] at hlocation
      exact absurd hlocation (hother _ (by simp))

end AtMember
end Accounting

namespace Federation
open Build

/-- The declaration of a type shows the directives that a document applies to it and to its members. -/
structure ShowsApplied (doc : Document Unit) (s : Schema) (m : DirectiveMap) (t : NamedType)
    (decl : String) : Prop where
  text : decl = declarationText s m t
  type : doc.Accounts ⟨t.name, none⟩ (shownAtType m t)
  members : ∀ x ∈ declaredMembers s t,
    doc.Accounts ⟨t.name, some x.row.1⟩ (shownAtMember m t x.row)
  declared : ∀ n a, a ∈ doc.appliedAt ⟨t.name, some n⟩ →
    (∃ x ∈ declaredMembers s t, x.row.1 = n) ∨ s.query = some t.name ∧ isFieldName n = true

/-- A document that breaks no rule is read as a schema whose SDL, whatever the settings, declares types
with the directives that the document applies: each in the declaration of its own element and with its
arguments, and those that are shown without being told exactly if they are not dropped. -/
theorem read_shows_applied {text : String} {s : Schema} (h : Schema.read text false = .ok s) :
    ∃ doc, Document.parse Unit text = .ok doc ∧ ∀ c, ∀ t ∈ serviceTypes s, ∀ decl,
      printType s (directiveMap s c) t = some decl →
        decl ∈ definitions s c ∧ ShowsApplied doc s (directiveMap s c) t decl := by
  obtain ⟨doc, hparse, hfaults, hbuild⟩ := Schema.of_read_ok h
  refine ⟨doc, hparse, fun c t ht decl hdecl => ?_⟩
  have hnames := (built hbuild).names
  obtain ⟨hmem, hdefined, -⟩ := mem_serviceTypes.mp ht
  obtain ⟨d, es, hmade⟩ := madeOf_build hfaults hbuild hmem hdefined
  obtain ⟨hinside, hall⟩ := declaredMembers_rows s t
  obtain ⟨htold, hplain⟩ := typeDirectives_told (c := c) t
  refine ⟨List.mem_append_right _ (List.mem_filterMap.mpr ⟨t, ht, hdecl⟩), printType_eq s _ t hdecl,
    ?_, fun x hx => ?_, fun n a ha => ?_⟩
  · rw [shownAtType, directiveMap_type hnames ht]
    exact accounts_type hmade hfaults htold hplain
  · have hrow := hinside x hx
    rw [shownAtMember, directiveMap_member hnames ht hmade.distinct hrow]
    exact accounts_member hmade hrow hfaults
  · obtain ⟨d', hnode, m, hm, rfl, -⟩ := mem_appliedAt_member.mp ha
    rcases hall _ (hmade.mem_rows hnode hm) with ⟨x, hx, hsame⟩ | hroot
    · exact .inl ⟨x, hx, by rw [hsame]; rfl⟩
    · exact .inr hroot

section Choice

/-- A choice of products, which only an extension makes one. -/
def choiceText : String :=
  "directive @tag(name: String!) on INPUT_OBJECT\n"
    ++ "type Query \x7b find(by: Choice): Int @deprecated(reason: \"slow\") \x7d\n"
    ++ "input Choice @tag(name: \"by\") \x7b id: ID \x7d\n"
    ++ "extend input Choice @oneOf \x7b name: String \x7d\n"

/-- What is declared of a type where nothing is configured. -/
def declarationIn (text n : String) : Option String :=
  (Schema.read text false).toOption.bind fun s =>
    ((serviceTypes s).find? (·.name == n)).bind (printType s (directiveMap s ⟨[]⟩))

/-- An extension applies the directive to the type, and the document does not define it. -/
def extendsWith (directive n : String) (doc : Document Unit) : Bool :=
  doc.any (fun
    | .extendType d => d.name == n && d.directives.any (·.name == directive)
    | _ => false)
  && (parts doc).directives.all (·.name != directive)

theorem of_extendsWith {doc : Document Unit} {directive n : String}
    (h : extendsWith directive n doc = true) :
    (∃ d, .extendType d ∈ doc ∧ d.name = n ∧ ∃ a ∈ d.directives, a.name = directive)
      ∧ ∀ e ∈ (parts doc).directives, e.name ≠ directive := by
  obtain ⟨hany, hall⟩ := Bool.and_eq_true_iff.mp h
  obtain ⟨e, he, hextends⟩ := List.any_eq_true.mp hany
  refine ⟨?_, fun e he => by simpa using List.all_eq_true.mp hall e he⟩
  cases e with
  | extendType d =>
    obtain ⟨hn, hd⟩ := Bool.and_eq_true_iff.mp hextends
    obtain ⟨a, ha, hname⟩ := List.any_eq_true.mp hd
    exact ⟨d, he, eq_of_beq hn, a, ha, eq_of_beq hname⟩
  | _ => cases hextends

/-- The choice keeps its tag, but is declared as an input like any other: the directive of the extension
is dropped. -/
theorem read_shows_applied_choice : ∃ s doc t, Schema.read choiceText false = .ok s
    ∧ Document.parse Unit choiceText = .ok doc ∧ t ∈ serviceTypes s
    ∧ printType s (directiveMap s ⟨[]⟩) t
      = some "input Choice @tag(name: \"by\") \x7b\n  id: ID\n  name: String\n\x7d"
    ∧ ∃ a ∈ doc.appliedAt ⟨t.name, none⟩, a.name = "oneOf"
      ∧ ¬ ∃ x ∈ shownAtType (directiveMap s ⟨[]⟩) t, SameApplication x a := by
  have hdeclared : declarationIn choiceText "Choice"
      = some "input Choice @tag(name: \"by\") \x7b\n  id: ID\n  name: String\n\x7d" := by
    decide +kernel
  have hextends : (Document.parse Unit choiceText).toOption.any (extendsWith "oneOf" "Choice")
      = true := by
    decide +kernel
  obtain ⟨s, hs, hdeclared⟩ := Option.bind_eq_some_iff.mp hdeclared
  obtain ⟨t, ht, hprint⟩ := Option.bind_eq_some_iff.mp hdeclared
  have hread : Schema.read choiceText false = .ok s := by
    cases hr : Schema.read choiceText false with
    | error e => rw [hr] at hs; cases hs
    | ok s' => rw [hr] at hs; exact congrArg _ (Option.some.inj hs)
  obtain ⟨doc, hparse, hshows⟩ := read_shows_applied hread
  rw [hparse] at hextends
  obtain ⟨⟨d, hd, hn, a, ha, hname⟩, hnew⟩ := of_extendsWith hextends
  have hmem := List.mem_of_find?_eq_some ht
  have hbeq := List.find?_some ht
  have hchoice : t.name = "Choice" := eq_of_beq hbeq
  have hnode : d ∈ Document.nodes doc t.name := mem_nodes.mpr ⟨⟨_, hd, rfl⟩, hn.trans hchoice.symm⟩
  have happlied : a ∈ doc.appliedAt ⟨t.name, none⟩ := mem_appliedAt_type.mpr ⟨d, hnode, ha⟩
  refine ⟨s, doc, t, hread, hparse, hmem, hprint, a, happlied, hname, ?_⟩
  obtain ⟨-, haccounts⟩ := hshows ⟨[]⟩ t hmem _ hprint
  rw [haccounts.type.specified a happlied (by rw [hname]; decide) (by rw [hname]; exact hnew), not_not,
    hchoice, ← hn]
  exact .extended hd ha (.inr hname)

end Choice

end Federation
end Subgraph
