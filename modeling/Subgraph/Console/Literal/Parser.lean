import Std.Data.HashMap
import Subgraph.Console.Literal.Grammar
import Subgraph.Console.Literal.Template

/-!
Reading expressions by the rules of the grammar.

The tokens are asked for one by one, so a fault among them only shows when the reading gets there.
A text that does not fit is read once more with all alternatives that say what is wrong with it.
Whatever is found then, faults among the tokens that follow come first.
-/

namespace Subgraph.Console.Literal

/-- Whether a text is the name of a character. -/
abbrev IsName := String → Bool

/-- What quoted texts side by side stand for. The expressions in templates are checked by
`expression`. -/
def readQuoted (isName : IsName) (expression : List Char → Except Fault Unit) (qs : List Quoted) :
    Except Fault Expr := do
  let isBytes := qs.head?.any Quoted.isBytes
  for (q, i) in qs.zipIdx do
    if q.isBytes && q.content.any (0x80 ≤ ·.toNat) then throw .foreignByte
    if !q.isRaw && !q.isTemplate then
      if q.isBytes then Escape.checkBytes 0 q.content else Escape.check isName q.content
    if i ≠ 0 && q.isBytes != isBytes then throw .mixedTexts
    if q.isTemplate then
      let k : Template.Checks := ⟨expression, Escape.check isName, q.isRaw⟩
      let _ ← Template.check k (2 * q.content.length + 2) 0 q.content
  return if qs.any Quoted.isTemplate then .template
    else .constant (if isBytes then .bytes else .text)

/-- What a number stands for. -/
def readNumber (cs : List Char) : Except Fault Constant :=
  let cs := (cs.filter (· != '_')).map Char.toLower
  let based := fun base (cs : List Char) =>
    Constant.int (cs.foldl (fun n c => base * n + (Text.hexValue? c).getD 0) 0)
  match cs with
  | '0' :: 'x' :: r => .ok (based 16 r)
  | '0' :: 'o' :: r => .ok (based 8 r)
  | '0' :: 'b' :: r => .ok (based 2 r)
  | cs =>
    if cs.getLast? == some 'j' then .ok .imaginary
    else if cs.any fun c => c == '.' || c == 'e' then .ok .float
    else if Numeral.mostDigits < cs.length then .error (.longNumber cs.length)
    else .ok (based 10 cs)

/-- Why a text could not be read, and how many tokens had been asked for. -/
structure Failure where
  fault : Fault
  filled : Nat
  isOfTokens : Bool

/-- Where the reading stands, how many tokens have been asked for, whether checks are made, and the
results that are kept. -/
structure Reader where
  mark : Nat
  filled : Nat
  isChecking : Bool
  results : Std.HashMap (Rule × Nat) (Option (List Expr × Nat))

abbrev Parse := StateT Reader (Except Failure)

/-- What the reading goes by. -/
structure Source where
  tokens : Array Token
  stop : Stop
  isName : IsName
  expression : List Char → Except Fault Unit

namespace Source

def ofText (isName : IsName) (expression : List Char → Except Fault Unit) (cs : List Char) :
    Source :=
  let ts := Tokens.ofText cs
  ⟨ts.list.toArray, ts.stop, isName, expression⟩

def fail {α : Type} (f : Fault) : Parse α := do throw ⟨f, (← get).filled, false⟩

/-- The next token. -/
def peek (s : Source) : Parse (Option Token) := do
  let r ← get
  match s.tokens[r.mark]? with
  | some t =>
    set { r with filled := max r.filled (r.mark + 1) }
    return some t
  | none =>
    match s.stop with
    | .finished => return none
    | .fault f => throw ⟨f, r.filled, true⟩
    | .onDemand f _ => throw ⟨f, r.filled, true⟩

/-- Takes the next token if it gives something. -/
def take (s : Source) (give : TokenKind → Option (Except Fault (List Expr))) :
    Parse (Option (List Expr)) := do
  match (← s.peek).bind fun t => give t.kind with
  | some (.ok es) =>
    modify fun r => { r with mark := r.mark + 1 }
    return some es
  | some (.error f) => fail f
  | none => return none

/-- Takes the next token if it is of a kind. -/
def takeKind (s : Source) (k : TokenKind) : Parse (Option (List Expr)) :=
  s.take fun k' => if k' == k then some (.ok []) else none

/-- Looks ahead: whatever is read, the reading stands where it stood. -/
def restoring {α : Type} (p : Parse α) : Parse α := do
  let mark := (← get).mark
  let a ← p
  modify fun r => { r with mark }
  return a

/-- How many brackets are open behind the last token that was taken. -/
def depth (s : Source) : Parse Nat := do
  return ((s.tokens[(← get).mark - 1]?).map Token.depth).getD 0

def softKeywords : List String := ["_", "case", "match"]

/-- Keeps the result of a rule that was read from a place on. -/
def keep (r : Rule) (start : Nat) (es : Option (List Expr)) : Parse Unit :=
  modify fun q => { q with results := q.results.insert (r, start) (es.map (·, q.mark)) }

/-- Takes a result: the reading goes on behind it. -/
def accept (start : Nat) (last : Option (List Expr × Nat)) : Parse (Option (List Expr)) := do
  modify fun q => { q with mark := (last.map (·.2)).getD start }
  return last.map (·.1)

mutual
/-- Reads a part, and gives its expressions if it fits. -/
def part (s : Source) : Nat → Part → Parse (Option (List Expr))
  | 0, _ => fail .wrongForm
  | fuel + 1, p =>
    match p with
    | .rule r => rule s fuel r
    | .sign t => s.takeKind (.sign t)
    | .keyword t => s.takeKind (.keyword t)
    | .lineEnd => s.takeKind .lineEnd
    | .finish => s.takeKind .finish
    | .name => s.take fun
      | .name t => some (.ok [.name t])
      | _ => none
    | .softKeyword => s.take fun
      | .name t => if softKeywords.contains t then some (.ok []) else none
      | _ => none
    | .number => s.take fun
      | .number cs => some ((readNumber cs).map fun c => [.constant c])
      | _ => none
    | .quoted => s.take fun
      | .quoted q => some (.ok [.quoted q])
      | _ => none
    | .optional p => do return some ((← part s fuel p).getD [])
    | .many p => do return some (← many s fuel (.row [p]))
    | .some p => do
      match ← part s fuel p with
      | some es => return some (es ++ (← many s fuel (.row [p])))
      | none => return none
    | .separated p => do
      match ← part s fuel p with
      | some es => return some (es ++ (← many s fuel (.row [.sign ",", p])))
      | none => return none
    | .ahead p => do return (← restoring (part s fuel p)).map fun _ => []
    | .notAhead p => do return if (← restoring (part s fuel p)).isSome then none else some []
    | .oneOf ps => firstPart s fuel ps
    | .row ps => do return (← row s fuel ps).1
    | .cut => return some []
/-- Reads a part as often as it fits. -/
def many (s : Source) : Nat → Part → Parse (List Expr)
  | 0, _ => fail .wrongForm
  | fuel + 1, p => do
    match ← part s fuel p with
    | some es => return es ++ (← many s fuel p)
    | none => return []
/-- Reads the first part that fits. -/
def firstPart (s : Source) : Nat → List Part → Parse (Option (List Expr))
  | 0, _ => fail .wrongForm
  | _, [] => return none
  | fuel + 1, p :: ps => do
    match ← part s fuel p with
    | some es => return some es
    | none => firstPart s fuel ps
/-- Reads parts one behind the other, or stays where it is; with whether a cut was met. -/
def row (s : Source) : Nat → List Part → Parse (Option (List Expr) × Bool)
  | 0, _ => fail .wrongForm
  | fuel + 1, ps => do
    let mark := (← get).mark
    let (es, isCut) ← rowFrom s fuel ps
    if es.isNone then modify fun r => { r with mark }
    return (es, isCut)
/-- Reads parts one behind the other. -/
def rowFrom (s : Source) : Nat → List Part → Parse (Option (List Expr) × Bool)
  | 0, _ => fail .wrongForm
  | _, [] => return (some [], false)
  | fuel + 1, p :: ps => do
    match ← part s fuel p with
    | none => return (none, false)
    | some es =>
      let (rest, isCut) ← rowFrom s fuel ps
      return (rest.map (es ++ ·), isCut || p matches .cut)
/-- Reads the first alternative that fits. -/
def alternatives (s : Source) : Nat → List Alternative → Parse (Option (List Expr))
  | 0, _ => fail .wrongForm
  | _, [] => return none
  | fuel + 1, a :: as => do
    if a.isCheck && !(← get).isChecking then alternatives s fuel as
    else
      match ← row s fuel a.parts with
      | (some es, _) =>
        match a.give es with
        | .gives es => return some es
        | .fails => return none
        | .faults m => fail (.misuse m)
        | .faultsWithin m => if (← s.depth) = 0 then return none else fail (.misuse m)
        | .reads qs =>
          match readQuoted s.isName s.expression qs with
          | .ok e => return some [e]
          | .error f => fail f
      | (none, isCut) => if isCut then return none else alternatives s fuel as
/-- Reads a rule, or takes its result from those that are kept. -/
def rule (s : Source) : Nat → Rule → Parse (Option (List Expr))
  | 0, _ => fail .wrongForm
  | fuel + 1, r => do
    let start := (← get).mark
    if !Rule.kept.contains r && !Rule.leftRecursive.contains r then plainRule s fuel r
    else
      match (← get).results[(r, start)]? with
      | some last => accept start last
      | none =>
        if Rule.leftRecursive.contains r then grow s fuel r start none
        else
          let es ← plainRule s fuel r
          keep r start es
          return es
/-- Reads a rule without looking at what is kept. -/
def plainRule (s : Source) : Nat → Rule → Parse (Option (List Expr))
  | 0, _ => fail .wrongForm
  | fuel + 1, r => do
    let _ ← s.peek
    let isChecking := (← get).isChecking
    if r == .plainExpression then modify fun q => { q with isChecking := false }
    let es ← alternatives s fuel r.alternatives
    modify fun q => { q with isChecking }
    return es
/-- Reads a rule that begins with itself again and again, with the last result for itself, as long
as it takes more tokens each time. -/
def grow (s : Source) : Nat → Rule → Nat → Option (List Expr × Nat) → Parse (Option (List Expr))
  | 0, _, _, _ => fail .wrongForm
  | fuel + 1, r, start, last => do
    modify fun q => { q with mark := start, results := q.results.insert (r, start) last }
    let es ← plainRule s fuel r
    let mark := (← get).mark
    match es with
    | some es =>
      if (last.map (·.2)).getD start < mark then grow s fuel r start (some (es, mark))
      else accept start last
    | none => accept start last
end

/-- What is wrong in the end: any other fault that the tokens behind show, or else the fault that
was found. -/
def settled (s : Source) (e : Failure) : Fault :=
  match s.stop with
  | .fault f => f
  | .onDemand _ (some (opening, line)) =>
    if (s.tokens[e.filled - 1]?).any (line < ·.line) then .neverClosed opening else e.fault
  | _ => e.fault

/-- What is wrong when a rule or a token says so. The tokens behind matter if there can be some. -/
def stated (s : Source) (e : Failure) : Fault :=
  if e.isOfTokens || (s.tokens[e.filled - 1]?).any Token.hasSeenEnd then e.fault else s.settled e

/-- Reads a text by a rule. -/
def read (s : Source) (r : Rule) : Except Fault Expr :=
  let fuel := 400 * (s.tokens.size + 4)
  let attempt := fun filled isChecking => (rule s fuel r).run ⟨0, filled, isChecking, ∅⟩
  match attempt 0 false with
  | .error e => .error (s.stated e)
  | .ok (some (e :: _), _) => .ok e
  | .ok (_, first) =>
    match attempt first.filled true with
    | .error e => .error (s.stated e)
    | .ok (_, second) =>
      if (s.tokens[first.filled - 1]?).any (·.kind == .indent) then .error .indented
      else .error (s.settled ⟨.wrongForm, second.filled, false⟩)

end Source

/-- What is wrong with an expression in braces that shows a fault of its own. -/
def Fault.within : Fault → Fault
  | .inBraces f => .inBraces f
  | f => .inBraces f

/-- Reads a text by a rule, and the texts in its templates, to some depth. -/
def parse (isName : IsName) : Nat → Rule → List Char → Except Fault Expr
  | 0, _, _ => .error .wrongForm
  | fuel + 1, r, cs =>
    let expression := fun e =>
      match parse isName fuel .template ('(' :: e ++ [')', '\n']) with
      | .ok _ => .ok ()
      | .error f => .error f.within
    (Source.ofText isName expression cs).read r

end Subgraph.Console.Literal
