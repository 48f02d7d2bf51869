import Subgraph.Console.Literal.Escape

/-!
Quoted templates: texts with parts in braces.

A part is an expression of its own, behind which may stand an equals sign, a conversion, and a
format, which may have parts again. Braces that are written twice outside of formats are text.
-/

namespace Subgraph.Console.Literal.Template

mutual
/-- The text up to a part, what follows, and whether a brace that is written twice ends it. The
characters before come in reverse. -/
def literal (isRaw isTop : Bool) (done : List Char) :
    List Char → Except BraceFault (List Char × List Char × Bool)
  | [] => .ok (done.reverse, [], false)
  | '\\' :: c :: r =>
    if isRaw then literal isRaw isTop ('\\' :: done) (c :: r)
    else if c == 'N' then
      match r with
      | '\x7b' :: r => inName isTop ('\x7b' :: c :: '\\' :: done) r
      | d :: r => literal isRaw isTop (d :: c :: '\\' :: done) r
      | [] => .ok ((c :: '\\' :: done).reverse, [], false)
    else if c == '\x7b' || c == '\x7d' then atBrace isTop ('\\' :: done) c r
    else literal isRaw isTop (c :: '\\' :: done) r
  | c :: r =>
    if c == '\x7b' || c == '\x7d' then atBrace isTop done c r
    else literal isRaw isTop (c :: done) r
/-- The text behind the opening brace of a character's name. -/
def inName (isTop : Bool) (done : List Char) :
    List Char → Except BraceFault (List Char × List Char × Bool)
  | [] => .ok (done.reverse, [], false)
  | c :: r =>
    if c == '\x7d' then literal false isTop (c :: done) r else inName isTop (c :: done) r
/-- The text that ends before a brace, or with it. -/
def atBrace (isTop : Bool) (done : List Char) (c : Char) (r : List Char) :
    Except BraceFault (List Char × List Char × Bool) :=
  if isTop && r.head? = some c then .ok ((c :: done).reverse, r.drop 1, true)
  else if isTop && c == '\x7d' then .error .singleClosing
  else .ok (done.reverse, c :: r, false)
end

/-- The quote that is open in an expression, if one is, and whether it is three quotes in a row; and
the brackets that are open, the last one first. -/
structure Nesting where
  quote : Option (Char × Bool)
  opened : List Char

/-- Whether two characters are one sign of a comparison. -/
def isComparison (c d : Char) : Bool := "!=<>".toList.contains c && d == '='

/-- The expression of a part, and what follows it. The characters before come in reverse. -/
def expression : Nat → Nesting → List Char → List Char → Except BraceFault (List Char × List Char)
  | 0, _, _, _ => .error .unclosed
  | _, n, _, [] =>
    match n.quote, n.opened with
    | some _, _ => .error .openQuote
    | none, o :: _ => .error (.unmatched o)
    | none, [] => .error .unclosed
  | fuel + 1, n, done, c :: r =>
    let isTriple := r.take 2 == [c, c]
    let on := fun n size =>
      expression fuel n (((c :: r).take size).reverse ++ done) ((c :: r).drop size)
    if c == '\\' then .error .backslash
    else if let some (q, isLong) := n.quote then
      if c != q || (isLong && !isTriple) then on n 1
      else on { n with quote := none } (if isLong then 3 else 1)
    else if c == '\'' || c == '"' then
      on { n with quote := some (c, isTriple) } (if isTriple then 3 else 1)
    else if (Token.brackets.lookup c).isSome then
      if Token.deepest ≤ n.opened.length then .error .tooManyBrackets
      else on { n with opened := c :: n.opened } 1
    else if c == '#' then .error .comment
    else if n.opened.isEmpty && "!:\x7d=<>".toList.contains c then
      if r.head?.any (isComparison c) then on n 2
      else if c == '<' || c == '>' then on n 1
      else .ok (done.reverse, c :: r)
    else if let some o := Token.opening? c then
      match n.opened with
      | [] => .error (.unmatched c)
      | b :: opened => if b != o then .error (.mismatched c b) else on { n with opened } 1
    else on n 1

def isBlank (c : Char) : Bool := c == ' ' || c == '\t' || c == '\n' || c == '\x0c'

/-- How an expression, the escapes of a text, and its parts are checked. -/
structure Checks where
  expression : List Char → Except Fault Unit
  text : List Char → Except Fault Unit
  isRaw : Bool

/-- What follows a conversion behind an expression, if one comes. -/
def behindConversion : List Char → Except BraceFault (List Char)
  | ['!'] => .error .unclosed
  | '!' :: c :: r => if "sra".toList.contains c then .ok r else .error .conversion
  | cs => .ok cs

mutual
/-- Checks a template, which is nested in the formats of others to some level, and gives what
follows it. -/
def check (k : Checks) : Nat → Nat → List Char → Except Fault (List Char)
  | 0, _, cs => .ok cs
  | fuel + 1, level, cs => do
    let (text, rest, isDouble) ← (literal k.isRaw (level = 0) [] cs).mapError .brace
    if !k.isRaw then k.text text
    if isDouble then check k fuel level rest
    else match rest with
      | '\x7b' :: r => do check k fuel level (← checkPart k fuel level r)
      | rest =>
        if level ≠ 0 && rest.head? ≠ some '\x7d' then throw (.brace .unclosed) else return rest
/-- Checks a part behind its opening brace. -/
def checkPart (k : Checks) : Nat → Nat → List Char → Except Fault (List Char)
  | 0, _, cs => .ok cs
  | fuel + 1, level, cs => do
    if 2 ≤ level then throw (.brace .tooDeep)
    let (e, rest) ← (expression (cs.length + 1) ⟨none, []⟩ [] cs).mapError .brace
    if e.all isBlank then
      throw (.brace (match rest with
        | c :: _ => if "!:=".toList.contains c then .noPartBefore c else .noPart
        | [] => .noPart))
    k.expression e
    let rest := if rest.head? = some '=' then rest.drop 1 else rest
    let rest ← (behindConversion rest).mapError .brace
    let rest ← match rest with
      | [':'] => throw (.brace .unclosed)
      | ':' :: r => check k fuel (level + 1) r
      | rest => pure rest
    match rest with
    | '\x7d' :: r => return r
    | _ => throw (.brace .unclosed)
end

end Subgraph.Console.Literal.Template
