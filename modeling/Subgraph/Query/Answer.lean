import Subgraph.Document.Parser
import Subgraph.Query.Execute
import Subgraph.Schema.Check

/-!
Answering a request: the schema has to make sense, the text has to be a document, the document
has to keep the rules and the variables have to fit; then an operation is executed.

Errors of an execution are in the order of their positions, then of their paths, then of their
texts; other errors are in the order in which they are found.
-/

namespace Subgraph

structure QueryRequest where
  text : String
  bindings : Value
  root : Value
  context : Value
  waits : Bool

/-- What comes of a request, with traces, log records and the number of counted calls. -/
structure Response where
  data : Value
  errors : List QueryError
  trace : List String
  records : List LogRecord
  calls : Nat

namespace Response

def refused (errors : List QueryError) : Response := ⟨.null, errors, [], [], 0⟩

end Response

def compareSteps (a b : PathStep) : Ordering :=
  match a, b with
  | .key m, .key n => compare m n
  | .index m, .index n => compare m n
  | .index _, .key _ => .lt
  | .key _, .index _ => .gt

def compareLists {α : Type} (cmp : α → α → Ordering) : List α → List α → Ordering
  | [], [] => .eq
  | [], _ => .lt
  | _, [] => .gt
  | a :: r, b :: t => (cmp a b).then (compareLists cmp r t)

def comparePaths (a b : Option Path) : Ordering :=
  match a, b with
  | none, none => .eq
  | none, some _ => .lt
  | some _, none => .gt
  | some p, some q => compareLists compareSteps p q

namespace QueryError

def compare (a b : QueryError) : Ordering :=
  (compareLists Ord.compare a.positions b.positions).then
    ((comparePaths a.path b.path).then (Ord.compare a.message b.message))

def inOrder (errors : List QueryError) : List QueryError :=
  errors.filter (·.path.isNone)
    ++ (errors.filter (·.path.isSome)).mergeSort fun a b => a.compare b != .gt

def ofIssue (i : Issue) : QueryError := ⟨i.positions, none, i.message⟩

def ofMessage (m : String) : QueryError := ⟨[], none, m⟩

end QueryError

/-- The operation to execute: the only one of the document. -/
def onlyOperation (c : QueryContext) : Except String (Operation Nat) :=
  match c.operations with
  | [] => .error "Must provide an operation."
  | [o] => .ok o
  | _ => .error "Must provide operation name if query contains multiple operations."

/-- The response of a finished execution. -/
def Response.ofExecution (r : Except QueryError Value × Notes) : Response :=
  let notes := r.2
  match r.1 with
  | .error e => ⟨.null, notes.errors ++ [e], [], notes.records, notes.calls⟩
  | .ok v =>
    let events := Waiting.events notes.waiting
    ⟨v, notes.errors ++ Waiting.allErrors notes.waiting, Federation.traceOf events,
      notes.records ++ Federation.recordsOf events, notes.calls⟩

/-- Why a request has no response at all. -/
inductive RequestFault where
  | obstacle (o : Obstacle)
  | bindings
  deriving DecidableEq, Repr

def RequestFault.failure : RequestFault → Failure
  | .obstacle (.issue i) => ⟨"GraphQLError", i.message⟩
  | .obstacle (.suggestion f) => ⟨f.kind, f.message⟩
  | .bindings => ⟨"TypeError", "Variable values must be provided as a dictionary with variable "
      ++ "names as keys. Perhaps look to see if an unparsed JSON string was provided."⟩

namespace Service

/-- Executes a document that keeps the rules. -/
def execute (x : Service) (c : QueryContext) (r : QueryRequest) (bindings : Entries Value)
    (calls : Nat) : Except RequestFault Response :=
  match onlyOperation c with
  | .error m => .ok (.refused [.ofMessage m])
  | .ok o =>
    match variableValues x.schema bindings o.variableDefinitions with
    | .error f => .error (.obstacle (.suggestion f))
    | .ok (.error issues) => .ok (.refused (issues.map .ofIssue))
    | .ok (.ok vs) =>
      let env : Env := ⟨⟨c, vs⟩, x, o, r.context, r.root, r.waits⟩
      .ok (.ofExecution (env.executeOperation o calls))

/-- Answers a request after a number of counted calls. -/
def answer (x : Service) (r : QueryRequest) (calls : Nat) : Except RequestFault Response :=
  let problems := x.schema.problems
  if !problems.isEmpty then .ok (.refused (problems.map .ofMessage))
  else match Document.parse Nat r.text with
    | .error e => .ok (.refused [.ofMessage e.message])
    | .ok doc =>
      let c := QueryContext.ofDocument x.schema doc
      match c.issues with
      | .error o => .error (.obstacle o)
      | .ok (i :: is) => .ok (.refused ((i :: is).map .ofIssue))
      | .ok [] =>
        match r.bindings with
        | .null => x.execute c r [] calls
        | .record es => x.execute c r es calls
        | _ => .error .bindings

end Service

/-- The query for the SDL that a service shows. -/
def sdlQuery : String := "\x7b _service \x7b sdl \x7d \x7d"

/-- Answers a text that binds no variables. -/
def Service.answerPlain (x : Service) (text : String) : Response :=
  match x.answer ⟨text, .null, .null, .null, false⟩ 0 with
  | .ok r => r
  | .error f => .refused [.ofMessage f.failure.message]

end Subgraph
