import Mathlib.Data.List.Forall2
import Subgraph.Query.Execute

/-!
# Executions that run alike

Two executions run alike when they give the same results, and errors that differ in nothing but
their paths and in texts that may stand for each other. Steps are put together from steps that run
alike. An environment simulates another one where types, fields and resolvers of both lead to the
same; then whatever is executed below related objects runs alike.
-/

namespace Subgraph

/-- No text stands for another one. -/
def Verbatim (_ _ : String) : Prop := False

/-- Two errors say the same of the same positions, at paths that correspond, or what `M` lets stand
for it. -/
structure QueryError.Parallel (P : Path → Path → Prop) (M : String → String → Prop)
    (e e' : QueryError) : Prop where
  positions : e'.positions = e.positions
  message : e'.message = e.message ∨ M e.message e'.message
  path : Option.Rel P e.path e'.path

/-- Parallel errors that have a path. -/
def QueryError.Located (P : Path → Path → Prop) (M : String → String → Prop)
    (e e' : QueryError) : Prop :=
  e.Parallel P M e' ∧ e.path.isSome = true

theorem QueryError.Parallel.without_path (P : Path → Path → Prop) (M : String → String → Prop)
    (positions : List Nat)
    (message : String) :
    QueryError.Parallel P M ⟨positions, none, message⟩ ⟨positions, none, message⟩ :=
  ⟨rfl, .inl rfl, .none⟩

theorem QueryError.Parallel.verbatim {P : Path → Path → Prop} {e e' : QueryError}
    (h : e.Parallel P Verbatim e') : e'.message = e.message :=
  h.message.resolve_right id

theorem QueryError.Parallel.eq {P : Path → Path → Prop} (hP : ∀ p p', P p p' → p' = p)
    {e e' : QueryError} (h : e.Parallel P Verbatim e') : e' = e := by
  have hmessage := h.verbatim
  obtain ⟨ps, p?, m⟩ := e
  obtain ⟨ps', p?', m'⟩ := e'
  obtain ⟨hpositions, -, hpath⟩ := h
  subst hpositions hmessage
  cases hpath with
  | none => rfl
  | some hp => rw [hP _ _ hp]

theorem QueryError.Located.eq_all {P : Path → Path → Prop} (hP : ∀ p p', P p p' → p' = p)
    {es es' : List QueryError} (h : List.Forall₂ (QueryError.Located P Verbatim) es es') :
    es' = es := by
  induction h with
  | nil => rfl
  | cons he _ ih => rw [he.1.eq hP, ih]

theorem Waiting.allErrors_append (ws vs : List Waiting) :
    allErrors (ws ++ vs) = allErrors ws ++ allErrors vs := by
  induction ws with
  | nil => rfl
  | cons w ws ih => rw [List.cons_append, allErrors, ih, allErrors, List.append_assoc]

namespace Exec
variable {α β : Type} {P : Path → Path → Prop} {M : String → String → Prop}

inductive SameResult (P : Path → Path → Prop) (M : String → String → Prop) :
    Except QueryError α → Except QueryError α → Prop
  | ok (a : α) : SameResult P M (.ok a) (.ok a)
  | error {e e' : QueryError} (h : e.Parallel P M e') : SameResult P M (.error e) (.error e')

/-- The same result with parallel errors, of those at once and of those to come. -/
structure Alike (P : Path → Path → Prop) (M : String → String → Prop)
    (r r' : Except QueryError α × Notes) : Prop where
  result : SameResult P M r.1 r'.1
  errors : List.Forall₂ (QueryError.Located P M) r.2.errors r'.2.errors
  later : List.Forall₂ (QueryError.Located P M) (Waiting.allErrors r.2.waiting)
    (Waiting.allErrors r'.2.waiting)

/-- Two steps run alike, however many calls came before them. -/
def Similar (P : Path → Path → Prop) (M : String → String → Prop) (m m' : Exec α) : Prop :=
  ∀ n n', Alike P M (m n) (m' n')

theorem Similar.pure (a : α) : Similar P M (Pure.pure a : Exec α) (Pure.pure a) :=
  fun _ _ => ⟨.ok a, .nil, .nil⟩

theorem Similar.fail (positions : List Nat) (message : String) :
    Similar P M (Exec.fail ⟨positions, none, message⟩ : Exec α)
      (Exec.fail ⟨positions, none, message⟩) :=
  fun _ _ => ⟨.error (.without_path P M positions message), .nil, .nil⟩

theorem Similar.ofExcept (r : Except String α) :
    Similar P M (Exec.ofExcept r) (Exec.ofExcept r) := by
  cases r with
  | ok a => exact .pure a
  | error m => exact .fail [] m

theorem Similar.ofScope (r : Except Issue α) : Similar P M (Exec.ofScope r) (Exec.ofScope r) := by
  cases r with
  | ok a => exact .pure a
  | error i => exact .fail i.positions i.message

theorem Similar.bind_of {m m' : Exec α} {f f' : α → Exec β} (h : Similar P M m m')
    (hf : ∀ a n, (m n).1 = .ok a → Similar P M (f a) (f' a)) : Similar P M (m >>= f) (m' >>= f') := by
  intro n n'
  obtain ⟨hresult, herrors, hlater⟩ := h n n'
  show Alike P M (Exec.bind m f n) (Exec.bind m' f' n')
  unfold Exec.bind
  cases hm : m n with
  | mk r notes =>
    cases hm' : m' n' with
    | mk r' notes' =>
      rw [hm, hm'] at hresult herrors hlater
      cases hresult with
      | error he => exact ⟨.error he, herrors, hlater⟩
      | ok a =>
        have hok : (m n).1 = .ok a := by rw [hm]
        obtain ⟨hresult', herrors', hlater'⟩ := hf a n hok (n + notes.calls) (n' + notes'.calls)
        refine ⟨hresult', List.rel_append herrors herrors', ?_⟩
        show List.Forall₂ _ (Waiting.allErrors (notes.waiting ++ _))
          (Waiting.allErrors (notes'.waiting ++ _))
        rw [Waiting.allErrors_append, Waiting.allErrors_append]
        exact List.rel_append hlater hlater'

theorem Similar.bind {m m' : Exec α} {f f' : α → Exec β} (h : Similar P M m m')
    (hf : ∀ a, Similar P M (f a) (f' a)) : Similar P M (m >>= f) (m' >>= f') :=
  h.bind_of fun a _ _ => hf a

theorem Similar.map (f : α → β) {m m' : Exec α} (h : Similar P M m m') :
    Similar P M (f <$> m) (f <$> m') :=
  h.bind fun a => .pure (f a)

theorem Similar.note (records records' : List LogRecord) (calls calls' : Nat) :
    Similar P M (Exec.note ⟨[], [], records, calls⟩) (Exec.note ⟨[], [], records', calls'⟩) :=
  fun _ _ => ⟨.ok (), .nil, .nil⟩

theorem Similar.calls {f f' : Nat → Exec α} (h : ∀ n n', Similar P M (f n) (f' n')) :
    Similar P M (Exec.calls >>= f) (Exec.calls >>= f') := by
  intro n n'
  have hrun : ∀ (g : Nat → Exec α) k, (Exec.calls >>= g) k = g k k := by
    intro g k
    show ((g k (k + 0)).1, Notes.empty ++ (g k (k + 0)).2) = _
    rw [Notes.empty_append, Nat.add_zero]
  rw [hrun, hrun]
  exact h n n' n n'

theorem allErrors_together (notes : Notes) : Waiting.allErrors
    (if notes.waiting.isEmpty then notes else { notes with waiting := [.parts notes.waiting] }).waiting
      = Waiting.allErrors notes.waiting := by
  cases hw : notes.waiting with
  | nil => simp [hw]
  | cons w ws => simp [Waiting.allErrors, Waiting.errors]

theorem errors_together (notes : Notes) :
    (if notes.waiting.isEmpty then notes else { notes with waiting := [.parts notes.waiting] }).errors
      = notes.errors := by
  split <;> rfl

theorem Similar.together {m m' : Exec α} (h : Similar P M m m') :
    Similar P M (Exec.together m) (Exec.together m') := by
  intro n n'
  refine ⟨(h n n').result, ?_, ?_⟩
  · show List.Forall₂ _ (ite _ _ _ : Notes).errors (ite _ _ _ : Notes).errors
    rw [errors_together, errors_together]
    exact (h n n').errors
  · show List.Forall₂ _ (Waiting.allErrors (ite _ _ _ : Notes).waiting)
      (Waiting.allErrors (ite _ _ _ : Notes).waiting)
    rw [allErrors_together, allErrors_together]
    exact (h n n').later

theorem Similar.afterwards (slots : List Federation.Slot) {m m' : Exec α} (h : Similar P M m m') :
    Similar P M (Exec.afterwards slots m) (Exec.afterwards slots m') := by
  intro n n'
  refine ⟨(h n n').result, .nil, ?_⟩
  simp only [Exec.afterwards, Waiting.allErrors, Waiting.errors, List.append_nil]
  exact List.rel_append (h n n').errors (h n n').later

theorem Similar.located {m m' : Exec α} {path path' : Path} (h : Similar P M m m')
    (hpath : P path path') (positions : List Nat) (n n' : Nat) :
    Alike P M (Exec.located positions path m n) (Exec.located positions path' m' n')
      ∧ ∀ e, (Exec.located positions path m n).1 = .error e → e.path.isSome = true := by
  obtain ⟨hresult, herrors, hlater⟩ := h n n'
  unfold Exec.located
  cases hm : m n with
  | mk r notes =>
    cases hm' : m' n' with
    | mk r' notes' =>
      rw [hm, hm'] at hresult herrors hlater
      cases hresult with
      | ok a => exact ⟨⟨.ok a, herrors, hlater⟩, fun e he => by cases he⟩
      | @error e e' he =>
        obtain ⟨hpositions, hmessage, hrel⟩ := he
        obtain ⟨ps, p?, text⟩ := e
        obtain ⟨ps', p?', text'⟩ := e'
        subst hpositions
        cases hrel with
        | none =>
          refine ⟨⟨.error ⟨rfl, hmessage, .some hpath⟩, herrors, hlater⟩, fun e he => ?_⟩
          cases he
          rfl
        | some hp =>
          refine ⟨⟨.error ⟨rfl, hmessage, .some hp⟩, herrors, hlater⟩, fun e he => ?_⟩
          cases he
          rfl

theorem absorb_ok (m : Exec Value) (n : Nat) : ∃ v, (Exec.absorb m n).1 = .ok v := by
  unfold Exec.absorb
  cases m n with
  | mk r notes =>
    cases r with
    | ok v => exact ⟨v, rfl⟩
    | error e => exact ⟨.null, rfl⟩

theorem Similar.settle {m m' : Exec Value} {path path' : Path} (h : Similar P M m m')
    (hpath : P path path') (positions : List Nat) (t : TypeRef) :
    Similar P M (Exec.settle t (Exec.located positions path m))
      (Exec.settle t (Exec.located positions path' m')) := by
  intro n n'
  obtain ⟨⟨hresult, herrors, hlater⟩, hlocated⟩ := h.located hpath positions n n'
  unfold Exec.settle
  split
  · exact ⟨hresult, herrors, hlater⟩
  · unfold Exec.absorb
    cases hm : Exec.located positions path m n with
    | mk r notes =>
      cases hm' : Exec.located positions path' m' n' with
      | mk r' notes' =>
        rw [hm, hm'] at hresult herrors hlater
        rw [hm] at hlocated
        cases hresult with
        | ok a => exact ⟨.ok a, herrors, hlater⟩
        | error he =>
          refine ⟨.ok Value.null, ?_, .nil⟩
          exact List.rel_append herrors (.cons ⟨he, hlocated _ rfl⟩ .nil)

/-- A step gives a result with these errors at once and these to come, however many calls came
before it. -/
def Yields (m : Exec α) (a : α) (es ls : List QueryError) : Prop := ∀ n,
  (m n).1 = .ok a ∧ (m n).2.errors = es ∧ Waiting.allErrors (m n).2.waiting = ls

section Yields
variable {m m' : Exec α} {f : α → Exec β} {a : α} {b : β} {es es' ls ls' : List QueryError}

theorem Yields.pure (a : α) : Yields (Pure.pure a : Exec α) a [] [] := fun _ => ⟨rfl, rfl, rfl⟩

theorem Yields.ofScope {r : Except Issue α} (h : r = .ok a) : Yields (Exec.ofScope r) a [] [] := by
  rw [h]
  exact .pure a

theorem Yields.note (records : List LogRecord) (calls : Nat) :
    Yields (Exec.note ⟨[], [], records, calls⟩) () [] [] := fun _ => ⟨rfl, rfl, rfl⟩

theorem Yields.bind (h : Yields m a es ls) (h' : Yields (f a) b es' ls') :
    Yields (m >>= f) b (es ++ es') (ls ++ ls') := by
  intro n
  obtain ⟨hresult, herrors, hlater⟩ := h n
  show (Exec.bind m f n).1 = _ ∧ (Exec.bind m f n).2.errors = _
    ∧ Waiting.allErrors (Exec.bind m f n).2.waiting = _
  unfold Exec.bind
  cases hm : m n with
  | mk r notes =>
    rw [hm] at hresult herrors hlater
    simp only at hresult herrors hlater
    subst hresult
    obtain ⟨hresult', herrors', hlater'⟩ := h' (n + notes.calls)
    refine ⟨hresult', ?_, ?_⟩
    · show notes.errors ++ _ = _
      rw [herrors, herrors']
    · show Waiting.allErrors (notes.waiting ++ _) = _
      rw [Waiting.allErrors_append, hlater, hlater']

theorem Yields.map (g : α → β) (h : Yields m a es ls) : Yields (g <$> m) (g a) es ls := by
  have hmap := h.bind (f := fun a => Pure.pure (g a)) (.pure (g a))
  rw [List.append_nil, List.append_nil] at hmap
  exact hmap

theorem Yields.calls {g : Nat → Exec α} (h : ∀ n, Yields (g n) a es ls) :
    Yields (Exec.calls >>= g) a es ls := by
  intro n
  have hrun : (Exec.calls >>= g) n = g n n := by
    show ((g n (n + 0)).1, Notes.empty ++ (g n (n + 0)).2) = _
    rw [Notes.empty_append, Nat.add_zero]
  rw [hrun]
  exact h n n

theorem Yields.together (h : Yields m a es ls) : Yields (Exec.together m) a es ls := by
  intro n
  obtain ⟨hresult, herrors, hlater⟩ := h n
  refine ⟨hresult, ?_, ?_⟩
  · show (ite _ _ _ : Notes).errors = es
    rw [errors_together, herrors]
  · show Waiting.allErrors (ite _ _ _ : Notes).waiting = ls
    rw [allErrors_together, hlater]

theorem Yields.afterwards (slots : List Federation.Slot) (h : Yields m a es ls) :
    Yields (Exec.afterwards slots m) a [] (es ++ ls) := by
  intro n
  obtain ⟨hresult, herrors, hlater⟩ := h n
  refine ⟨hresult, rfl, ?_⟩
  simp only [Exec.afterwards, Waiting.allErrors, Waiting.errors, List.append_nil, herrors, hlater]

theorem Yields.located (positions : List Nat) (path : Path) (h : Yields m a es ls) :
    Yields (Exec.located positions path m) a es ls := by
  intro n
  obtain ⟨hresult, herrors, hlater⟩ := h n
  unfold Exec.located
  cases hm : m n with
  | mk r notes =>
    rw [hm] at hresult herrors hlater
    simp only at hresult
    subst hresult
    exact ⟨rfl, herrors, hlater⟩

/-- A step that always gives a result, and runs like itself at the same paths, yields that result. -/
theorem Similar.yields {m : Exec α} (h : Similar P Verbatim m m) (hP : ∀ p p', P p p' → p' = p)
    (hok : ∀ n, ∃ a, (m n).1 = .ok a) : ∃ a es ls, Yields m a es ls := by
  obtain ⟨a, ha⟩ := hok 0
  refine ⟨a, (m 0).2.errors, Waiting.allErrors (m 0).2.waiting, fun n => ?_⟩
  obtain ⟨hresult, herrors, hlater⟩ := h 0 n
  refine ⟨?_, QueryError.Located.eq_all hP herrors, QueryError.Located.eq_all hP hlater⟩
  obtain ⟨a', ha'⟩ := hok n
  rw [ha, ha'] at hresult
  cases hresult
  exact ha'

theorem Similar.of_yields (h : Similar P M m m') {a' : α} (hm : Yields m a es ls)
    (hm' : Yields m' a' es' ls') : a' = a ∧ List.Forall₂ (QueryError.Located P M) es es'
      ∧ List.Forall₂ (QueryError.Located P M) ls ls' := by
  obtain ⟨hresult, herrors, hlater⟩ := h 0 0
  obtain ⟨ha, rfl, rfl⟩ := hm 0
  obtain ⟨ha', rfl, rfl⟩ := hm' 0
  rw [ha, ha'] at hresult
  cases hresult
  exact ⟨rfl, herrors, hlater⟩

end Yields
end Exec

namespace Env
open Exec

section FieldOf
variable {s : Schema} {t : NamedType} {n : String} {f : Field}

theorem field?_of_fieldOf? (h : s.fieldOf? t n = some f) (htypename : n ≠ "__typename")
    (hschema : n ≠ "__schema") (htype : n ≠ "__type") : t.field? n = some f := by
  unfold Schema.fieldOf? at h
  rw [if_neg fun h => hschema h.1, if_neg fun h => htype h.1, if_neg fun h => htypename h.1] at h
  exact h

theorem fieldOf?_name (h : s.fieldOf? t n = some f) : f.name = n := by
  unfold Schema.fieldOf? at h
  split at h
  · next hn =>
    cases h
    exact hn.1.symm
  split at h
  · next hn =>
    cases h
    exact hn.1.symm
  split at h
  · next hn =>
    cases h
    exact hn.1.symm
  · have hname : (f.name == n) = true := List.find?_some (p := fun f : Field => f.name == n) h
    exact eq_of_beq hname

end FieldOf

section ResolveField
variable (env : Env)

/-- How a field is answered that asks for nothing of the schema. -/
def answerField (parent : NamedType) (source : Source) (f : Field) (arguments : Entries Value)
    (describe : Unit → Described) (complete : Source → Exec Value) : Exec Value :=
  match env.service.resolver? parent.name f.name with
  | some (.custom answer) =>
    match answer ⟨source.value, arguments, env.context, env.root⟩ with
    | .ok v => complete (.data v)
    | .error e => Exec.ofExcept (.error e.message)
  | some (.sdl text) => complete (.data (.record [("sdl", .text text)]))
  | some (.entities c) =>
    env.entities c parent.name (parent.name ++ "." ++ f.name) arguments complete
  | none =>
    match source.value.answer f.name describe arguments with
    | .ok v => complete (.data v)
    | .error e => Exec.ofExcept (.error e)

theorem resolveField_eq (parent : NamedType) (source : Source) (f : Field)
    (arguments : Entries Value) (describe : Unit → Described) (complete : Source → Exec Value) :
    env.resolveField parent source f arguments describe complete =
      if f.name = "__typename" then complete (.data (.text parent.name))
      else if f.name = "__schema" then complete .schema
      else if f.name = "__type" then complete (Introspection.typeByName env.schema arguments)
      else match Introspection.introspect env.schema source f.name arguments with
        | some x => complete x
        | none => env.answerField parent source f arguments describe complete := by
  unfold resolveField answerField
  split
  · next h => simp [h]
  · next h => simp [h]
  · next h => simp [h]
  · next h h' h'' => exact ((if_neg h).trans ((if_neg h').trans (if_neg h''))).symm

end ResolveField

/-- The object types that a value of a named type is completed at. -/
def Completes (s : Schema) (name : String) (t : NamedType) : Prop :=
  t.name = name ∨ s.isSubType name t.name = true

/-- What corresponds to what in two executions, and what is met in the first of them. -/
structure Correspondence where
  path : Path → Path → Prop
  message : String → String → Prop
  trail : Trail → Trail → Prop
  /-- The types of objects. -/
  type : NamedType → NamedType → Prop
  /-- An object type and the fields whose selections its objects are asked for. -/
  body : NamedType → List FieldNode → Prop
  /-- An object type and the fields that give the value of one key. -/
  nodes : NamedType → List FieldNode → Prop
  source : Source → Prop
  /-- The names of the types that values are completed at. -/
  named : String → Prop

/-- What an environment has to have in common with another one for its executions to run alike. -/
structure Simulates (b : Correspondence) (env env' : Env) : Prop where
  append : ∀ trail trail' here, b.trail trail trail' → b.trail (trail ++ [here]) (trail' ++ [here])
  paths : ∀ trail trail', b.trail trail trail' → b.path (Trail.path trail) (Trail.path trail')
  items : ∀ x xs, b.source x → x.items? = some xs → ∀ y ∈ xs, b.source y
  name : ∀ t t', b.type t t' → t'.name = t.name
  returns : ∀ t t' n more f, b.type t t' → b.nodes t (n :: more) →
    env.schema.fieldOf? t n.name = some f → b.named f.type.base
  inside : ∀ t t' n more f u u', b.type t t' → b.type u u' → b.nodes t (n :: more) →
    env.schema.fieldOf? t n.name = some f → Completes env.schema f.type.base u →
    b.body u (n :: more)
  below : ∀ t t' nodes, b.type t t' → b.body t nodes →
    env'.fieldsBelow t' nodes = env.fieldsBelow t nodes
      ∧ ∀ groups, env.fieldsBelow t nodes = .ok groups → ∀ g ∈ groups, b.nodes t g.2
  check : ∀ t t' source, b.type t t' → env'.checkType t' source = env.checkType t source
  field : ∀ t t' n more, b.type t t' → b.nodes t (n :: more) →
    Option.Rel (fun f f' : Field => f'.type = f.type
        ∧ env'.argumentValues n.arguments f'.arguments = env.argumentValues n.arguments f.arguments)
      (env.schema.fieldOf? t n.name) (env'.schema.fieldOf? t' n.name)
  resolve : ∀ t t' (n : FieldNode) more f f' source trail trail' here arguments complete complete',
    b.trail trail trail' → b.type t t' → b.nodes t (n :: more) → b.source source →
    env.schema.fieldOf? t n.name = some f → env'.schema.fieldOf? t' n.name = some f' →
    (∀ x, b.source x → Similar b.path b.message (complete x) (complete' x)) →
    Similar b.path b.message
      (env.resolveField t source f arguments (fun _ => Description.ofField env.toScope env.operation
        env.root env.context t f (n :: more) (trail ++ [here])) complete)
      (env'.resolveField t' source f' arguments (fun _ => Description.ofField env'.toScope
        env'.operation env'.root env'.context t' f' (n :: more) (trail' ++ [here])) complete')
  completed : ∀ place n source sub sub', b.named n → b.source source →
    (∀ t t' x, b.type t t' → Completes env.schema n t → b.source x →
      Similar b.path b.message (sub t x) (sub' t' x)) →
    Similar b.path b.message (env.completeNamed place sub n source)
      (env'.completeNamed place sub' n source)

theorem checkType_similar (P : Path → Path → Prop) (M : String → String → Prop) (env : Env)
    (t : NamedType) (source : Source) :
    Similar P M (env.checkType t source) (env.checkType t source) := by
  unfold checkType
  cases env.service.typeCheck? t.name with
  | none => exact .pure ()
  | some check =>
    simp only
    split
    · exact .pure ()
    · exact .ofExcept _

section ExecuteField
variable {env : Env} {sub : List FieldNode → NamedType → Source → Trail → Exec Value}
  {t : NamedType} {source : Source} {trail : Trail} {key : String} {node : FieldNode}
  {more : List FieldNode}

theorem executeField_unknown (h : env.schema.fieldOf? t node.name = none) :
    env.executeField sub t source trail key (node :: more) = Exec.pure none := by
  simp only [executeField, h]

theorem executeField_known {f : Field} (h : env.schema.fieldOf? t node.name = some f) :
    env.executeField sub t source trail key (node :: more) =
      some <$> Exec.settle f.type
        (Exec.located ((node :: more).map (·.mark))
          (Trail.path (trail ++ [(PathStep.key key, some t.name)])) do
          let arguments ← Exec.ofScope (env.argumentValues node.arguments f.arguments)
          env.resolveField t source f arguments
            (fun _ => Description.ofField env.toScope env.operation env.root env.context t f
              (node :: more) (trail ++ [(.key key, some t.name)]))
            fun x => env.complete (t.name ++ "." ++ node.name) ((node :: more).map (·.mark))
              (sub (node :: more)) f.type x (trail ++ [(.key key, some t.name)])) := by
  simp only [executeField, h]

end ExecuteField

namespace Simulates
variable {b : Correspondence} {env env' : Env}

theorem completeItems (h : Simulates b env env') (positions : List Nat) (t : TypeRef)
    {item item' : Source → Trail → Exec Value} {trail trail' : Trail}
    (htrail : b.trail trail trail')
    (hitem : ∀ x here here', b.source x → b.trail here here' → Similar b.path b.message (item x here) (item' x here'))
    (xs : List Source) (hxs : ∀ x ∈ xs, b.source x) (index : Nat) :
    Similar b.path b.message (Env.completeItems positions t item trail index xs)
      (Env.completeItems positions t item' trail' index xs) := by
  induction xs generalizing index with
  | nil => exact .pure []
  | cons x xs ih =>
    have hhere := h.append _ _ (.index index, none) htrail
    have hx := hitem x _ _ (hxs x List.mem_cons_self) hhere
    refine (hx.settle (h.paths _ _ hhere) positions t).bind fun v => ?_
    exact (ih (fun y hy => hxs y (List.mem_cons_of_mem x hy)) (index + 1)).bind fun vs => .pure _

/-- Completing goes through the wrappers of a type alike. -/
theorem complete (h : Simulates b env env') (place : String) (positions : List Nat)
    {sub sub' : NamedType → Source → Trail → Exec Value}
    (t : TypeRef) (ht : b.named t.base)
    (hsub : ∀ u u' x trail trail', b.type u u' → Completes env.schema t.base u → b.source x →
      b.trail trail trail' → Similar b.path b.message (sub u x trail) (sub' u' x trail'))
    (source : Source) (hs : b.source source) {trail trail' : Trail}
    (htrail : b.trail trail trail') :
    Similar b.path b.message (env.complete place positions sub t source trail)
      (env'.complete place positions sub' t source trail') := by
  induction t generalizing source trail trail' with
  | nonNull t ih =>
    refine (ih ht hsub source hs htrail).bind fun v => ?_
    cases v with
    | null => exact .ofExcept _
    | _ => exact .pure _
  | list t ih =>
    unfold Env.complete
    split
    · exact .ofExcept _
    · split
      · exact .pure _
      · split
        · next xs hxs =>
          have hitems := h.items source xs hs hxs
          have hcompleted := h.completeItems positions t htrail
            (fun x here here' hx hhere => ih ht hsub x hx hhere) xs hitems 0
          exact hcompleted.together.bind fun vs => .pure _
        · exact .ofExcept _
  | named n =>
    unfold Env.complete
    split
    · exact .ofExcept _
    · split
      · exact .pure _
      · exact h.completed place n source _ _ ht hs fun t t' x ht hn hx =>
          hsub t t' x trail trail' ht hn hx htrail

theorem executeField (h : Simulates b env env')
    {sub sub' : List FieldNode → NamedType → Source → Trail → Exec Value}
    (hsub : ∀ nodes t t' x trail trail', b.body t nodes → b.type t t' → b.source x →
      b.trail trail trail' →
      Similar b.path b.message (sub nodes t x trail) (sub' nodes t' x trail'))
    {t t' : NamedType} (ht : b.type t t') {source : Source} (hs : b.source source) {trail trail' : Trail}
    (htrail : b.trail trail trail') (key : String) {nodes : List FieldNode}
    (hnodes : b.nodes t nodes) :
    Similar b.path b.message (env.executeField sub t source trail key nodes)
      (env'.executeField sub' t' source trail' key nodes) := by
  cases nodes with
  | nil => exact .pure none
  | cons node more =>
    have hfield := h.field t t' node more ht hnodes
    cases hf : env.schema.fieldOf? t node.name with
    | none =>
      rw [hf] at hfield
      cases hf' : env'.schema.fieldOf? t' node.name with
      | none =>
        rw [executeField_unknown hf, executeField_unknown hf']
        exact .pure none
      | some f' => rw [hf'] at hfield; cases hfield
    | some f =>
      rw [hf] at hfield
      cases hf' : env'.schema.fieldOf? t' node.name with
      | none => rw [hf'] at hfield; cases hfield
      | some f' =>
        rw [hf'] at hfield
        cases hfield with
        | some hsame =>
          obtain ⟨htype, harguments⟩ := hsame
          have hhere := h.append _ _ (.key key, some t.name) htrail
          rw [executeField_known hf, executeField_known hf', htype, harguments, h.name t t' ht]
          refine (Similar.settle (.bind (.ofScope _) fun arguments => ?_) (h.paths _ _ hhere) _
            _).map _
          refine h.resolve t t' node more f f' source _ _ _ arguments _ _ htrail ht hnodes hs hf hf'
            fun x hx => ?_
          have hbase := h.returns t t' node more f ht hnodes hf
          refine h.complete _ _ _ hbase (fun u u' y _ _ hu hn hy hp => ?_) x hx hhere
          exact hsub _ u u' y _ _ (h.inside t t' node more f u u' ht hu hnodes hf hn) hu hy hp

theorem executeGroups (h : Simulates b env env')
    {sub sub' : List FieldNode → NamedType → Source → Trail → Exec Value}
    (hsub : ∀ nodes t t' x trail trail', b.body t nodes → b.type t t' → b.source x →
      b.trail trail trail' →
      Similar b.path b.message (sub nodes t x trail) (sub' nodes t' x trail'))
    {t t' : NamedType} (ht : b.type t t') {source : Source} (hs : b.source source) {trail trail' : Trail}
    (htrail : b.trail trail trail') {groups : FieldGroups}
    (hgroups : ∀ g ∈ groups, b.nodes t g.2) :
    Similar b.path b.message (env.executeGroups sub t source trail groups)
      (env'.executeGroups sub' t' source trail' groups) := by
  induction groups with
  | nil => exact .pure []
  | cons g groups ih =>
    obtain ⟨key, nodes⟩ := g
    have hnodes := hgroups (key, nodes) List.mem_cons_self
    refine (h.executeField hsub ht hs htrail key hnodes).bind fun v? => ?_
    exact (ih fun g hg => hgroups g (List.mem_cons_of_mem _ hg)).bind fun rest => .pure _

/-- Whatever is executed below related objects runs alike. -/
theorem executeBelow (h : Simulates b env env') (fuel : Nat) {nodes : List FieldNode}
    {t t' : NamedType} (hnodes : b.body t nodes) (ht : b.type t t') {source : Source}
    (hs : b.source source) {trail trail' : Trail} (htrail : b.trail trail trail') :
    Similar b.path b.message (env.executeBelow fuel nodes t source trail)
      (env'.executeBelow fuel nodes t' source trail') := by
  induction fuel generalizing nodes t t' source trail trail' with
  | zero => exact .pure Value.null
  | succ fuel ih =>
    obtain ⟨hsame, hbelow⟩ := h.below t t' nodes ht hnodes
    unfold Env.executeBelow
    rw [hsame, h.check t t' source ht]
    refine (Similar.ofScope _).bind_of fun groups n hgroups => ?_
    have hgroups : env.fieldsBelow t nodes = .ok groups := by
      cases hr : env.fieldsBelow t nodes with
      | error i => rw [hr] at hgroups; cases hgroups
      | ok gs => rw [hr] at hgroups; cases hgroups; rfl
    refine (checkType_similar b.path b.message env t source).bind fun _ => ?_
    have hfields := h.executeGroups (fun nodes u u' x _ _ hnodes hu hx hp => ih hnodes hu hx hp) ht
      hs htrail (hbelow groups hgroups)
    exact hfields.together.bind fun _ => .pure _

end Simulates
end Env
end Subgraph
