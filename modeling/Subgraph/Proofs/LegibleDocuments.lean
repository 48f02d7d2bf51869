import Subgraph.Proofs.DocumentText
import Subgraph.Proofs.LegibleTokens

/-!
# Documents that were read

All that a parser takes from tokens that can be written can be written again: whatever definitions a
document has, their names, types, constants and directives can be.
-/

namespace Subgraph

/-- A definition as it can be read: what it names can be written. -/
def Definition.IsLegible : Definition Unit → Prop
  | .schema _ d => d.operations ≠ [] ∧ ∀ o ∈ d.operations, Token.isName o.2 = true
  | .type _ d => d.IsWritable
  | .directive d => d.IsWritable
  | .extendType d => d.IsWritable
  | .extendSchema d => ∀ o ∈ d.operations, Token.isName o.2 = true
  | _ => True

namespace Parser
open Token
variable {α β : Type} {P : α → Prop} {Q : β → Prop}

def LegibleTokens (ts : List Token) : Prop := ∀ t ∈ ts, t.lexeme.IsLegible

/-- What a parser takes from tokens that can be written has a property, and what it leaves can be written. -/
def Yields (p : Parser α) (P : α → Prop) : Prop :=
  ∀ ts a ts', LegibleTokens ts → p ts = .ok (a, ts') → P a ∧ LegibleTokens ts'

section Steps

theorem yields_pure {a : α} (h : P a) : Yields (pure a) P := by
  intro ts b ts' hts hrun
  obtain ⟨rfl, rfl⟩ := Prod.mk.inj (Except.ok.inj hrun)
  exact ⟨h, hts⟩

theorem of_run_bind {p : Parser α} {f : α → Parser β} {ts ts'' : List Token} {b : β}
    (h : (p >>= f) ts = .ok (b, ts'')) : ∃ a ts', p ts = .ok (a, ts') ∧ f a ts' = .ok (b, ts'') := by
  obtain ⟨⟨a, ts'⟩, ha, hb⟩ := Except.of_bind_ok (x := p ts) (f := fun r => f r.1 r.2) h
  exact ⟨a, ts', ha, hb⟩

theorem Yields.bind {p : Parser α} {f : α → Parser β} (hp : Yields p P) (hf : ∀ a, P a → Yields (f a) Q) :
    Yields (p >>= f) Q := by
  intro ts b ts'' hts hrun
  obtain ⟨a, ts', ha, hb⟩ := of_run_bind hrun
  obtain ⟨hpa, hts'⟩ := hp ts a ts' hts ha
  exact hf a hpa ts' b ts'' hts' hb

theorem Yields.mono {p : Parser α} {P' : α → Prop} (hp : Yields p P) (h : ∀ a, P a → P' a) : Yields p P' := by
  intro ts a ts' hts hrun
  obtain ⟨ha, hts'⟩ := hp ts a ts' hts hrun
  exact ⟨h a ha, hts'⟩

theorem Yields.map {p : Parser α} {f : α → β} (hp : Yields p P) (h : ∀ a, P a → Q (f a)) :
    Yields (f <$> p) Q :=
  hp.bind fun a ha => yields_pure (h a ha)

theorem yields_throw (e : SyntaxError) : Yields (throw e : Parser α) P := by
  intro ts a ts' _ hrun
  cases hrun

abbrev Passes (p : Parser α) : Prop := Yields p fun _ => True

theorem Yields.passes {p : Parser α} (h : Yields p P) : Passes p := h.mono fun _ _ => trivial

theorem yields_look {f : List Token → α} (h : ∀ ts, LegibleTokens ts → P (f ts)) :
    Yields (fun ts => .ok (f ts, ts)) P := by
  intro ts a ts' hts hrun
  obtain ⟨rfl, rfl⟩ := Prod.mk.inj (Except.ok.inj hrun)
  exact ⟨h ts hts, hts⟩

theorem yields_peek : Yields peek Lexeme.IsLegible := by
  refine yields_look (f := fun ts => (ts.headD default).lexeme) fun ts hts => ?_
  cases ts with
  | nil => trivial
  | cons t ts => exact hts t List.mem_cons_self

theorem passes_front : Passes front := yields_look (f := fun ts => ts.headD default) fun _ _ => trivial

theorem passes_position : Passes position :=
  yields_look (f := fun ts => (ts.headD default).position) fun _ _ => trivial

theorem passes_here : Passes (here (μ := Unit)) := yields_look (f := fun _ => ()) fun _ _ => trivial

theorem passes_tokensLeft : Passes tokensLeft := yields_look (f := List.length) fun _ _ => trivial

theorem yields_fail (e : SyntaxFault) : Yields (fail e : Parser α) P :=
  passes_position.bind fun _ _ => yields_throw _

theorem yields_unexpected : Yields (unexpected : Parser α) P := yields_peek.bind fun _ _ => yields_fail _

theorem yields_get : Yields (get : Parser (List Token)) LegibleTokens :=
  yields_look (f := fun ts => ts) fun _ hts => hts

theorem passes_set {ts : List Token} (hts : LegibleTokens ts) : Passes (set ts : Parser PUnit) := by
  intro _ _ ts' _ hrun
  obtain ⟨-, rfl⟩ := Prod.mk.inj (Except.ok.inj hrun)
  exact ⟨trivial, hts⟩

theorem passes_lookAhead : Passes lookAhead := by
  refine yields_get.bind fun ts _ => ?_
  split
  · exact yields_throw _
  · exact yields_pure trivial
  · exact yields_pure trivial

theorem passes_advance : Passes advance := by
  refine yields_get.bind fun ts hts => ?_
  split
  · exact yields_throw _
  · exact passes_set fun t ht => hts t (List.mem_cons_of_mem _ ht)
  · exact yields_pure trivial

theorem passes_expect (p : Punctuation) : Passes (expect p) := by
  refine yields_peek.bind fun l _ => ?_
  split
  · exact passes_advance
  · exact yields_fail _

theorem passes_accept (p : Punctuation) : Passes (accept p) := by
  refine yields_peek.bind fun l _ => ?_
  split
  · exact passes_advance.bind fun _ _ => yields_pure trivial
  · exact yields_pure trivial

theorem passes_expectWord (w : String) : Passes (expectWord w) := by
  refine yields_peek.bind fun l _ => ?_
  split
  · exact passes_advance
  · exact yields_fail _

theorem passes_acceptWord (w : String) : Passes (acceptWord w) := by
  refine yields_peek.bind fun l _ => ?_
  split
  · exact passes_advance.bind fun _ _ => yields_pure trivial
  · exact yields_pure trivial

theorem yields_name : Yields name fun n => isName n = true := by
  refine yields_peek.bind fun l hl => ?_
  split
  · exact passes_advance.bind fun _ _ => yields_pure hl
  · exact yields_fail _

theorem yields_upTo {item : Parser α} (h : Yields item P) (close : Punctuation) (fuel : Nat) :
    Yields (upTo close item fuel) fun as => ∀ a ∈ as, P a := by
  induction fuel with
  | zero => exact yields_unexpected
  | succ fuel ih =>
    refine (passes_accept close).bind fun closed _ => ?_
    split
    · exact yields_pure fun _ ha => absurd ha List.not_mem_nil
    · exact h.bind fun a ha => ih.bind fun as has => yields_pure (List.forall_mem_cons.mpr ⟨ha, has⟩)

theorem yields_many {item : Parser α} (h : Yields item P) (open' close : Punctuation) :
    Yields (many open' close item) fun as => as ≠ [] ∧ ∀ a ∈ as, P a :=
  (passes_expect open').bind fun _ _ => h.bind fun _ ha => passes_tokensLeft.bind fun fuel _ =>
    (yields_upTo h close fuel).bind fun _ has =>
      yields_pure ⟨List.cons_ne_nil _ _, List.forall_mem_cons.mpr ⟨ha, has⟩⟩

theorem yields_optionalMany {item : Parser α} (h : Yields item P) (open' close : Punctuation) :
    Yields (optionalMany open' close item) fun as => ∀ a ∈ as, P a := by
  refine yields_peek.bind fun l _ => ?_
  split
  · exact (yields_many h open' close).mono fun _ has => has.2
  · exact yields_pure fun _ ha => absurd ha List.not_mem_nil

theorem yields_separated {item : Parser α} (h : Yields item P) (mark : Punctuation) :
    Yields (separated mark item) fun as => as ≠ [] ∧ ∀ a ∈ as, P a := by
  have hfrom : ∀ fuel, Yields (separatedFrom mark item fuel) fun as => as ≠ [] ∧ ∀ a ∈ as, P a := by
    intro fuel
    induction fuel with
    | zero => exact yields_unexpected
    | succ fuel ih =>
      refine h.bind fun a ha => (passes_accept mark).bind fun more _ => ?_
      split
      · exact ih.bind fun as has => yields_pure ⟨List.cons_ne_nil _ _, List.forall_mem_cons.mpr ⟨ha, has.2⟩⟩
      · exact yields_pure ⟨List.cons_ne_nil _ _, fun b hb => List.mem_singleton.mp hb ▸ ha⟩
  exact (passes_accept mark).bind fun _ _ => passes_tokensLeft.bind fun fuel _ => hfrom fuel

end Steps

section Values

theorem writable_items {xs : List (Literal Unit)} {levels : Nat}
    (h : ∀ x ∈ xs, x.IsWritable ∧ x.depth ≤ levels) :
    Literal.ItemsWritable xs ∧ Literal.itemsDepth xs ≤ levels := by
  induction xs with
  | nil => exact ⟨trivial, Nat.zero_le _⟩
  | cons x xs ih =>
    obtain ⟨hx, hxs⟩ := List.forall_mem_cons.mp h
    obtain ⟨hwritable, hdepth⟩ := ih hxs
    exact ⟨⟨hx.1, hwritable⟩, Nat.max_le.mpr ⟨hx.2, hdepth⟩⟩

theorem writable_fields {fs : List (Unit × String × Literal Unit)} {levels : Nat}
    (h : ∀ f ∈ fs, isName f.2.1 = true ∧ f.2.2.IsWritable ∧ f.2.2.depth ≤ levels) :
    Literal.FieldsWritable fs ∧ Literal.fieldsDepth fs ≤ levels := by
  induction fs with
  | nil => exact ⟨trivial, Nat.zero_le _⟩
  | cons f fs ih =>
    obtain ⟨⟨hname, hf⟩, hfs⟩ := List.forall_mem_cons.mp h
    obtain ⟨hwritable, hdepth⟩ := ih hfs
    exact ⟨⟨hname, hf.1, hwritable⟩, Nat.max_le.mpr ⟨hf.2, hdepth⟩⟩

theorem yields_plainLiteral (constant : Bool) : Yields (plainLiteral (μ := Unit) constant)
    fun l => constant = true → l.IsWritable ∧ l.depth = 0 := by
  refine passes_here.bind fun m _ => yields_peek.bind fun l hl => ?_
  split
  · exact passes_advance.bind fun _ _ => yields_pure fun _ => ⟨hl, rfl⟩
  · exact passes_advance.bind fun _ _ => yields_pure fun _ => ⟨hl, rfl⟩
  · exact passes_advance.bind fun _ _ => yields_pure fun _ => ⟨hl, rfl⟩
  · next s =>
    refine passes_advance.bind fun _ _ => yields_pure fun _ => ?_
    split
    · exact ⟨trivial, rfl⟩
    · split
      · exact ⟨trivial, rfl⟩
      · split
        · exact ⟨trivial, rfl⟩
        · next htrue hfalse hnull =>
          refine ⟨⟨hl, ?_⟩, rfl⟩
          simp [reservedWords, htrue, hfalse, hnull]
  · refine passes_position.bind fun p _ => passes_advance.bind fun _ _ => ?_
    split
    · refine yields_peek.bind fun l _ => ?_
      split
      · exact yields_throw _
      · exact yields_throw _
    · next hconstant => exact yields_name.bind fun n _ => yields_pure fun h => absurd h hconstant
  · exact yields_unexpected

theorem yields_literal (constant : Bool) (levels : Nat) : Yields (literal (μ := Unit) constant levels)
    fun l => constant = true → l.IsWritable ∧ l.depth ≤ levels := by
  have hplain : ∀ levels, Yields (plainLiteral (μ := Unit) constant)
      fun l => constant = true → l.IsWritable ∧ l.depth ≤ levels := fun levels =>
    (yields_plainLiteral constant).mono fun l hl hc => ⟨(hl hc).1, (hl hc).2 ▸ Nat.zero_le _⟩
  -- The induction is on the levels that may be opened.
  induction levels with
  | zero =>
    refine yields_peek.bind fun l _ => ?_
    split
    · exact yields_fail _
    · exact yields_fail _
    · exact hplain 0
  | succ levels ih =>
    refine passes_here.bind fun m _ => yields_peek.bind fun l _ => ?_
    split
    · refine passes_advance.bind fun _ _ => passes_tokensLeft.bind fun fuel _ =>
        (yields_upTo ih .bracketRight fuel).bind fun xs hxs => yields_pure fun hc => ?_
      obtain ⟨hwritable, hdepth⟩ := writable_items fun x hx => hxs x hx hc
      exact ⟨hwritable, Nat.succ_le_succ hdepth⟩
    · have hfield : Yields (do
          let m ← here
          let n ← name
          expect .colon
          return (m, n, ← literal constant levels) : Parser (Unit × String × Literal Unit))
          fun f => isName f.2.1 = true ∧ (constant = true → f.2.2.IsWritable ∧ f.2.2.depth ≤ levels) :=
        passes_here.bind fun _ _ => yields_name.bind fun n hn => (passes_expect _).bind fun _ _ =>
          ih.bind fun l hl => yields_pure ⟨hn, hl⟩
      refine passes_advance.bind fun _ _ => passes_tokensLeft.bind fun fuel _ =>
        (yields_upTo hfield .braceRight fuel).bind fun fs hfs => yields_pure fun hc => ?_
      obtain ⟨hwritable, hdepth⟩ := writable_fields fun f hf => ⟨(hfs f hf).1, (hfs f hf).2 hc⟩
      exact ⟨hwritable, Nat.succ_le_succ hdepth⟩
    · exact hplain _

theorem yields_constant (levels : Nat) : Yields (literal (μ := Unit) true levels)
    fun l => l.IsWritable ∧ l.depth ≤ levels :=
  (yields_literal true levels).mono fun _ h => h rfl

theorem yields_argument (constant : Bool) (levels : Nat) : Yields (argument (μ := Unit) constant levels)
    fun a => isName a.name = true ∧ (constant = true → a.value.IsWritable ∧ a.value.depth ≤ levels) :=
  passes_here.bind fun _ _ => yields_name.bind fun _ hn => (passes_expect _).bind fun _ _ =>
    (yields_literal constant levels).bind fun _ hl => yields_pure ⟨hn, hl⟩

theorem yields_directivesWithin (constant : Bool) (levels : Nat) :
    Yields (directivesWithin (μ := Unit) constant levels)
      fun ds => constant = true → levels = Document.deepestNesting → ∀ d ∈ ds, d.IsWritable := by
  have hfrom : ∀ fuel, Yields (directivesFrom (μ := Unit) constant levels fuel)
      fun ds => constant = true → levels = Document.deepestNesting → ∀ d ∈ ds, d.IsWritable := by
    intro fuel
    induction fuel with
    | zero => exact yields_unexpected
    | succ fuel ih =>
      refine passes_here.bind fun m _ => (passes_accept _).bind fun more _ => ?_
      split
      · refine yields_name.bind fun n hn => (yields_optionalMany (yields_argument constant levels) _ _).bind
          fun as has => ih.bind fun ds hds => yields_pure fun hc hlevels => ?_
        refine List.forall_mem_cons.mpr ⟨⟨hn, fun a ha => ?_⟩, hds hc hlevels⟩
        obtain ⟨hname, hvalue⟩ := has a ha
        exact ⟨hname, (hvalue hc).1, hlevels ▸ (hvalue hc).2⟩
      · exact yields_pure fun _ _ _ hd => absurd hd List.not_mem_nil
  exact passes_tokensLeft.bind fun fuel _ => hfrom fuel

theorem yields_directives : Yields (directives (μ := Unit) true) fun ds => ∀ d ∈ ds, d.IsWritable :=
  (yields_directivesWithin true _).mono fun _ h => h rfl rfl

theorem yields_typeRef : Yields typeRef TypeRef.IsLegible := by
  have hbang : ∀ (t : TypeRef) levels, t.isNonNull = false → t.IsWritable ∧ t.lists ≤ levels →
      Yields (do return if ← accept .bang then .nonNull t else t) fun t =>
        t.IsWritable ∧ t.lists ≤ levels := by
    intro t levels ht hwritable
    refine (passes_accept _).bind fun marked _ => yields_pure ?_
    split
    · cases t with
      | nonNull t => cases ht
      | _ => exact hwritable
    · exact hwritable
  have hwithin : ∀ levels, Yields (typeRefWithin levels) fun t => t.IsWritable ∧ t.lists ≤ levels := by
    intro levels
    induction levels with
    | zero =>
      refine (passes_accept _).bind fun opened _ => ?_
      split
      · exact yields_fail _
      · exact (yields_name.map (Q := fun t => t.isNonNull = false ∧ t.IsWritable ∧ t.lists ≤ 0)
          fun n hn => ⟨rfl, hn, Nat.le_refl 0⟩).bind fun t ht => hbang t 0 ht.1 ht.2
    | succ levels ih =>
      refine (passes_accept _).bind fun opened _ => ?_
      split
      · exact ih.bind fun t ht => (passes_expect _).bind fun _ _ =>
          hbang (.list t) _ rfl ⟨ht.1, Nat.succ_le_succ ht.2⟩
      · exact (yields_name.map (Q := fun t => t.isNonNull = false ∧ t.IsWritable ∧ t.lists ≤ levels + 1)
          fun n hn => ⟨rfl, hn, Nat.zero_le _⟩).bind fun t ht => hbang t _ ht.1 ht.2
  exact (hwithin _).mono fun t ht => ⟨ht.1, ht.2⟩

theorem yields_optionalDefault : Yields (optionalDefault (μ := Unit))
    fun d => ∀ l ∈ d, l.IsWritable ∧ l.depth ≤ Document.deepestNesting := by
  refine (passes_accept _).bind fun given _ => ?_
  split
  · exact (yields_constant _).map fun l hl k hk => Option.some.inj hk ▸ hl
  · exact yields_pure nofun

theorem passes_description : Passes description := by
  refine yields_peek.bind fun l _ => ?_
  split
  · exact passes_advance.bind fun _ _ => yields_pure trivial
  · exact yields_pure trivial

end Values

section Definitions

theorem yields_inputDefinition : Yields (inputDefinition (μ := Unit)) InputDefinition.IsWritable :=
  passes_description.bind fun _ _ => yields_name.bind fun _ hn => (passes_expect _).bind fun _ _ =>
    yields_typeRef.bind fun _ ht => yields_optionalDefault.bind fun _ hd =>
      yields_directives.bind fun _ hds =>
      yields_pure ⟨hn, ht, hd, hds⟩

theorem yields_argumentDefinitions :
    Yields (argumentDefinitions (μ := Unit)) fun as => ∀ a ∈ as, a.IsWritable :=
  yields_optionalMany yields_inputDefinition _ _

theorem yields_fieldDefinition : Yields (fieldDefinition (μ := Unit)) FieldDefinition.IsWritable :=
  passes_description.bind fun _ _ => yields_name.bind fun _ hn => yields_argumentDefinitions.bind fun _ has =>
    (passes_expect _).bind fun _ _ => yields_typeRef.bind fun _ ht => yields_directives.bind fun _ hds =>
      yields_pure ⟨hn, has, ht, hds⟩

theorem yields_interfaces : Yields interfaces fun is => ∀ n ∈ is, isName n = true := by
  refine (passes_acceptWord _).bind fun given _ => ?_
  split
  · exact (yields_separated yields_name _).mono fun _ h => h.2
  · exact yields_pure fun _ h => absurd h List.not_mem_nil

theorem yields_unionMembers : Yields unionMembers fun ms => ∀ n ∈ ms, isName n = true := by
  refine (passes_accept _).bind fun given _ => ?_
  split
  · exact (yields_separated yields_name _).mono fun _ h => h.2
  · exact yields_pure fun _ h => absurd h List.not_mem_nil

theorem front_of_name {ts ts' : List Token} {n : String} (h : name ts = .ok (n, ts')) :
    (ts.headD default).lexeme = .name n := by
  unfold name at h
  obtain ⟨l, ts₁, hpeek, hrest⟩ := of_run_bind h
  have hl : (ts.headD default).lexeme = l := (Prod.mk.inj (Except.ok.inj hpeek)).1
  rw [hl]
  cases l with
  | name s =>
    obtain ⟨_, ts₂, _, hpure⟩ := of_run_bind hrest
    rw [(Prod.mk.inj (Except.ok.inj hpure)).1]
  | _ => cases hrest

theorem yields_enumValueDefinition :
    Yields (enumValueDefinition (μ := Unit)) EnumValueDefinition.IsWritable := by
  refine passes_description.bind fun desc _ => ?_
  intro ts v ts' hts hrun
  let rest : String → Parser (EnumValueDefinition Unit) := fun n => do return ⟨desc, n, ← directives true⟩
  have hrun : (if (ts.headD default).lexeme.value?.any reservedWords.contains then
        fail (.reservedName (ts.headD default).lexeme) >>= fun _ : PUnit => name >>= rest
      else name >>= rest : Parser _) ts = .ok (v, ts') := hrun
  cases hreserved : (ts.headD default).lexeme.value?.any reservedWords.contains with
  | true =>
    rw [hreserved] at hrun
    cases hrun
  | false =>
    rw [hreserved] at hrun
    obtain ⟨n, ts'', hname, hrest⟩ := of_run_bind hrun
    obtain ⟨hn, hts''⟩ := yields_name ts n ts'' hts hname
    rw [front_of_name hname] at hreserved
    have hunreserved : n ∉ reservedWords := by simpa [Lexeme.value?] using hreserved
    exact (yields_directives.bind fun ds hds => yields_pure ⟨hn, hunreserved, hds⟩) ts'' v ts' hts'' hrest

theorem yields_operationKind : Passes operationKind := by
  refine yields_peek.bind fun l _ => ?_
  split
  · refine passes_position.bind fun p _ => passes_advance.bind fun _ _ => ?_
    split
    · exact yields_pure trivial
    · exact yields_throw _
  · exact yields_fail _

theorem yields_operationType : Yields operationType fun o => isName o.2 = true :=
  yields_operationKind.bind fun _ _ => (passes_expect _).bind fun _ _ => yields_name.bind fun _ hn =>
    yields_pure hn

theorem yields_directiveLocation : Yields directiveLocation fun n => n ∈ directiveLocations := by
  refine passes_position.bind fun p _ => yields_name.bind fun n _ => ?_
  split
  · next hlocation => exact yields_pure (List.contains_iff_mem.mp hlocation)
  · exact yields_throw _

theorem yields_directiveDefinition (desc : Option String) :
    Yields (directiveDefinition () desc) DirectiveDefinition.IsWritable :=
  (passes_expectWord _).bind fun _ _ => (passes_expect _).bind fun _ _ => yields_name.bind fun _ hn =>
    yields_argumentDefinitions.bind fun _ has => (passes_acceptWord _).bind fun _ _ =>
      (passes_expectWord _).bind fun _ _ => (yields_separated yields_directiveLocation _).bind fun _ hls =>
        yields_pure ⟨hn, has, hls.1, hls.2⟩

theorem yields_typeDefinition (word : String) :
    Yields (typeDefinition () word) TypeDefinition.IsWritable := by
  refine (passes_expectWord _).bind fun _ _ => yields_name.bind fun n hn => ?_
  split
  · exact yields_interfaces.bind fun _ his => yields_directives.bind fun _ hds =>
      (yields_optionalMany yields_fieldDefinition _ _).bind fun _ hfs => yields_pure ⟨hn, hds, his, hfs⟩
  · exact yields_interfaces.bind fun _ his => yields_directives.bind fun _ hds =>
      (yields_optionalMany yields_fieldDefinition _ _).bind fun _ hfs => yields_pure ⟨hn, hds, his, hfs⟩
  · exact yields_directives.bind fun _ hds => yields_unionMembers.bind fun _ hms => yields_pure ⟨hn, hds, hms⟩
  · exact yields_directives.bind fun _ hds =>
      (yields_optionalMany yields_enumValueDefinition _ _).bind fun _ hvs => yields_pure ⟨hn, hds, hvs⟩
  · exact yields_directives.bind fun _ hds =>
      (yields_optionalMany yields_inputDefinition _ _).bind fun _ hfs => yields_pure ⟨hn, hds, hfs⟩
  · exact yields_directives.bind fun _ hds => yields_pure ⟨hn, hds, trivial⟩

theorem yields_extension : Yields (extension ()) Definition.IsLegible := by
  refine passes_lookAhead.bind fun t _ => ?_
  split
  · split
    · refine passes_advance.bind fun _ _ => (passes_expectWord _).bind fun _ _ =>
        yields_directives.bind fun ds _ =>
        (yields_optionalMany yields_operationType _ _).bind fun os hos => ?_
      split
      · exact yields_unexpected
      · exact yields_pure hos
    · split
      · refine passes_advance.bind fun _ _ => (yields_typeDefinition _).bind fun d hd => ?_
        split
        · exact yields_unexpected
        · exact yields_pure hd
      · exact yields_throw _
  · exact yields_throw _

end Definitions

section Operations

theorem passes_variableDefinition : Passes (variableDefinition (μ := Unit)) := by
  have hbase : Passes (baseMark (μ := Unit)) := yields_get.bind fun _ _ => yields_pure trivial
  exact passes_here.bind fun _ _ => passes_description.bind fun _ _ => (passes_expect _).bind fun _ _ =>
    passes_here.bind fun _ _ => yields_name.bind fun _ _ => (passes_expect _).bind fun _ _ =>
      passes_here.bind fun _ _ => hbase.bind fun _ _ => yields_typeRef.bind fun _ _ =>
        yields_optionalDefault.bind fun _ _ => yields_directives.bind fun _ _ => yields_pure trivial

theorem passes_fragmentName : Passes fragmentName := by
  refine yields_peek.bind fun l _ => ?_
  split
  · exact yields_unexpected
  · exact yields_name.passes

theorem passes_selectionWith (levels : Nat) {body : Parser (List (Selection Unit))} (hbody : Passes body) :
    Passes (selectionWith levels body) := by
  have hdirectives := (yields_directivesWithin false levels).passes
  have harguments := (yields_optionalMany (yields_argument false levels) .parenLeft .parenRight).passes
  refine passes_here.bind fun m _ => (passes_accept _).bind fun spread _ => ?_
  split
  · refine (passes_acceptWord _).bind fun on _ => ?_
    split
    · exact passes_here.bind fun _ _ => yields_name.bind fun _ _ => hdirectives.bind fun _ _ =>
        hbody.bind fun _ _ => yields_pure trivial
    · refine yields_peek.bind fun l _ => ?_
      split
      · exact passes_here.bind fun _ _ => passes_fragmentName.bind fun _ _ => hdirectives.bind fun _ _ =>
          yields_pure trivial
      · exact hdirectives.bind fun _ _ => hbody.bind fun _ _ => yields_pure trivial
  · have hrest : ∀ (label? : Option String) (n : String), Passes (do
        let as ← arguments false levels
        let ds ← directivesWithin false levels
        if (← peek) = .punctuation .braceLeft then
          let bm ← here
          return .field m label? n as ds bm (← body)
        else return .field m label? n as ds m [] : Parser (Selection Unit)) := by
      intro label? n
      refine harguments.bind fun _ _ => hdirectives.bind fun _ _ => yields_peek.bind fun l _ => ?_
      split
      · exact passes_here.bind fun _ _ => hbody.bind fun _ _ => yields_pure trivial
      · exact yields_pure trivial
    refine yields_name.bind fun first _ => (passes_accept _).bind fun labelled _ => ?_
    split
    · exact yields_name.bind fun n _ => hrest (some first) n
    · exact hrest none first

theorem passes_selection (levels : Nat) : Passes (selection (μ := Unit) levels) := by
  induction levels with
  | zero =>
    refine passes_selectionWith 0 (yields_peek.bind fun l _ => ?_)
    split
    · exact (yields_fail _ : Passes (fail .nested : Parser PUnit)).bind fun _ _ =>
        (passes_expect _).bind fun _ _ => yields_pure trivial
    · exact (passes_expect _).bind fun _ _ => yields_pure trivial
  | succ levels ih => exact passes_selectionWith _ (yields_many ih _ _).passes

theorem passes_selectionSet :
    Passes (selectionSet (μ := Unit)) :=
  (yields_many (passes_selection _) _ _).passes

theorem passes_operation : Passes (operation (μ := Unit)) := by
  refine passes_here.bind fun m _ => yields_peek.bind fun l _ => ?_
  split
  · exact passes_selectionSet.bind fun _ _ => yields_pure trivial
  · have hrest : ∀ (kind : OperationKind) (nameMark : Unit) (n : Option String), Passes (do
        let vs ← optionalMany .parenLeft .parenRight variableDefinition
        let ds ← directives false
        return ⟨m, kind, n.map (nameMark, ·), vs, ds, ← selectionSet⟩ : Parser (Operation Unit)) := by
      intro kind nameMark n
      exact (yields_optionalMany passes_variableDefinition _ _).bind fun _ _ =>
        (yields_directivesWithin false _).bind fun _ _ => passes_selectionSet.bind fun _ _ =>
          yields_pure trivial
    refine passes_description.bind fun _ _ => yields_operationKind.bind fun kind _ => passes_here.bind
      fun nameMark _ => yields_peek.bind fun l _ => ?_
    split
    · exact (yields_name.map (f := some) (Q := fun _ => True) fun _ _ => trivial).bind fun n _ =>
        hrest kind nameMark n
    · exact hrest kind nameMark none

theorem passes_fragment : Passes (fragment (μ := Unit)) :=
  passes_here.bind fun _ _ => passes_description.bind fun _ _ => (passes_expectWord _).bind fun _ _ =>
    passes_here.bind fun _ _ => passes_fragmentName.bind fun _ _ => (passes_expectWord _).bind fun _ _ =>
      passes_here.bind fun _ _ => yields_name.bind fun _ _ =>
        (yields_directivesWithin false _).bind fun _ _ =>
        passes_selectionSet.bind fun _ _ => yields_pure trivial

end Operations

theorem yields_definition : Yields (definition (μ := Unit)) Definition.IsLegible := by
  refine passes_here.bind fun mark _ => yields_peek.bind fun l _ => ?_
  extract_lets described rest
  have hrest : ∀ key, Yields (rest key) Definition.IsLegible := by
    intro key
    simp only [rest]
    split
    · split
      · exact yields_fail _
      · exact passes_operation.bind fun _ _ => yields_pure trivial
    · split
      · exact passes_description.bind fun _ _ => (passes_expectWord _).bind fun _ _ => yields_directives.bind
          fun _ _ => (yields_many yields_operationType _ _).bind fun _ hos => yields_pure hos
      split
      · exact passes_description.bind fun _ _ => (yields_typeDefinition _).bind fun _ hd => yields_pure hd
      split
      · exact passes_description.bind fun desc _ =>
          (yields_directiveDefinition desc).bind fun _ hd => yields_pure hd
      split
      · exact passes_operation.bind fun _ _ => yields_pure trivial
      split
      · exact passes_fragment.bind fun _ _ => yields_pure trivial
      split
      · exact yields_fail _
      split
      · exact yields_extension
      · exact yields_throw _
    · exact yields_throw _
  split
  · exact passes_lookAhead.bind fun key _ => hrest key
  · exact passes_front.bind fun key _ => hrest key

theorem yields_definitions (fuel : Nat) :
    Yields (definitions (μ := Unit) fuel) fun doc => ∀ d ∈ doc, d.IsLegible := by
  induction fuel with
  | zero => exact yields_unexpected
  | succ fuel ih =>
    refine yields_definition.bind fun d hd => yields_peek.bind fun l _ => ?_
    split
    · exact yields_pure fun e he => List.mem_singleton.mp he ▸ hd
    · exact ih.bind fun doc hdoc => yields_pure (List.forall_mem_cons.mpr ⟨hd, hdoc⟩)
end Parser

/-- What a document that was read defines can be written. -/
theorem Document.legible_of_parse {text : String} {doc : Document Unit}
    (h : Document.parse Unit text = .ok doc) :
    ∀ d ∈ doc, d.IsLegible := by
  have hyields : Parser.Yields (do Parser.definitions (μ := Unit) (← Parser.tokensLeft)) fun doc =>
      ∀ d ∈ doc, d.IsLegible :=
    Parser.passes_tokensLeft.bind fun fuel _ => Parser.yields_definitions fuel
  rw [Document.parse, Parser.run] at h
  split at h
  · cases h
  · obtain ⟨⟨doc', ts⟩, hrun, rfl⟩ := Except.of_map_ok h
    refine (hyields _ _ _ ?_ hrun).1
    rw [Token.scan_eq]
    exact Token.legible_tokens _ _

end Subgraph
