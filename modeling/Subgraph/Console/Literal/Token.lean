import Subgraph.Console.Literal.Fault
import Subgraph.Text.Identifier

/-!
The tokens of a text that should be a literal value.

Brackets have to match, and within them line ends count for nothing. Outside, the front of a line
may be indented. The tokens end with the text, or where something is wrong with it.
-/

namespace Subgraph.Console.Literal

/-- What stands between quotes, and what kind of text it is. -/
structure Quoted where
  isBytes : Bool
  isRaw : Bool
  isTemplate : Bool
  content : List Char
  deriving DecidableEq, Repr

inductive TokenKind where
  | name (s : String)
  | keyword (s : String)
  | number (cs : List Char)
  | quoted (q : Quoted)
  | sign (s : String)
  | lineEnd
  | indent
  | outdent
  | finish
  deriving DecidableEq, Repr

/-- Whether the end of a token only shows by the character behind it. -/
def TokenKind.looksAhead : TokenKind → Bool
  | .name _ => true
  | .keyword _ => true
  | .number _ => true
  | .quoted q => q.content.isEmpty
  | .sign s => s.length < 3
  | _ => false

/-- A token with its line, how many brackets are open behind it, and whether the end of the text was
seen when it was read. -/
structure Token where
  kind : TokenKind
  line : Nat
  depth : Nat
  hasSeenEnd : Bool
  deriving DecidableEq, Repr

/-- Why there are no more tokens: the text has ended, a fault shows, or a fault shows to whoever
asks for more; with the bracket that is open there and its line, if there is one. -/
inductive Stop where
  | finished
  | fault (f : Fault)
  | onDemand (f : Fault) (opened : Option (Char × Nat))
  deriving DecidableEq, Repr

structure Tokens where
  list : List Token
  stop : Stop

namespace Token

def keywords : List String :=
  ["False", "None", "True", "and", "as", "assert", "async", "await", "break", "class", "continue",
   "def", "del", "elif", "else", "except", "finally", "for", "from", "global", "if", "import", "in",
   "is", "lambda", "nonlocal", "not", "or", "pass", "raise", "return", "try", "while", "with",
   "yield"]

def isWordChar (c : Char) : Bool := Text.isNameChar c || 0x80 ≤ c.toNat

def isWordStart (c : Char) : Bool := Text.isNameStart c || 0x80 ≤ c.toNat

def brackets : List (Char × Char) := [('(', ')'), ('[', ']'), ('\x7b', '\x7d')]

/-- The bracket that a closing one closes. -/
def opening? (c : Char) : Option Char := (brackets.find? (·.2 == c)).map (·.1)

def deepest : Nat := 200

def longSigns : List String :=
  ["**=", "//=", ">>=", "<<=", "...", "**", "//", ">>", "<<", "<=", ">=", "==", "!=", "<>", "->",
   ":=", "+=", "-=", "*=", "/=", "%=", "&=", "^=", "|=", "@="]

/-- A sign of several characters if there is one, or else of one. -/
def signAt (c : Char) (r : List Char) : String :=
  (longSigns.find? fun s => s.toList.isPrefixOf (c :: r)).getD c.toString

/-- The letters in front of a quote that say how to read what is quoted. -/
def quoteMarks : List String := ["r", "b", "u", "f", "br", "rb", "fr", "rf"]

/-- The text up to a quote, or to three in a row, what follows, and the line that it ends in. -/
def upToQuote (quote : Char) (isLong : Bool) (line : Nat) :
    List Char → Except Fault (List Char × List Char × Nat)
  | [] => .error (.openQuote isLong line)
  | '\\' :: '\n' :: r => (upToQuote quote isLong (line + 1) r).map (keep ['\\', '\n'])
  | '\\' :: c :: r => (upToQuote quote isLong line r).map (keep ['\\', c])
  | '\n' :: r =>
    if isLong then (upToQuote quote isLong (line + 1) r).map (keep ['\n'])
    else .error (.openQuote false line)
  | c :: d :: e :: r =>
    if c != quote then (upToQuote quote isLong line (d :: e :: r)).map (keep [c])
    else if !isLong then .ok ([], d :: e :: r, line)
    else if d == quote && e == quote then .ok ([], r, line)
    else (upToQuote quote isLong line (d :: e :: r)).map (keep [c])
  | c :: r =>
    if c == quote && !isLong then .ok ([], r, line)
    else (upToQuote quote isLong line r).map (keep [c])
where
  keep (cs : List Char) (t : List Char × List Char × Nat) : List Char × List Char × Nat :=
    (cs ++ t.1, t.2)

/-- What is quoted behind an opening quote or three of them. -/
def quotedText (quote : Char) (line : Nat) (cs : List Char) :
    Except Fault (List Char × List Char × Nat) :=
  match cs with
  | c :: d :: r =>
    if c == quote && d == quote then upToQuote quote true line r else upToQuote quote false line cs
  | cs => upToQuote quote false line cs

def wrongDecimal : Fault := .wrongNumber "decimal"

/-- What follows digits with single underscores between them. -/
def behindDigits : List Char → Except Fault (List Char)
  | [] => .ok []
  | c :: r =>
    if Text.isDigit c then behindDigits r
    else if c = '_' then
      if r.head?.any Text.isDigit then behindDigits r else .error wrongDecimal
    else .ok (c :: r)

/-- What may follow a number at once: words that join values, where some may go on. -/
def joiningWords : List (String × Bool) :=
  [("and", false), ("else", false), ("for", false), ("if", true), ("in", true), ("is", true),
   ("or", false), ("not", false)]

/-- No word may follow a number but one that joins it to a value. -/
def behindNumber (kind : String) (cs : List Char) : Except Fault (List Char) :=
  let isJoining := fun (w : String × Bool) =>
    w.1.toList.isPrefixOf cs && (w.2 || !(cs.drop w.1.length).head?.any isWordChar)
  if joiningWords.any isJoining then .ok cs
  else if cs.head?.any isWordChar then .error (.wrongNumber kind)
  else .ok cs

/-- What follows the digits of a base other than ten, with single underscores before or between
them. -/
def behindBase (kind : String) (isOfBase : Char → Bool) (expects afterMark : Bool) :
    List Char → Except Fault (List Char)
  | [] => if expects then .error (.wrongNumber kind) else .ok []
  | c :: r =>
    if isOfBase c then behindBase kind isOfBase false false r
    else if c = '_' && !afterMark then behindBase kind isOfBase true true r
    else if kind != "hexadecimal" && Text.isDigit c then .error (.wrongDigit c kind)
    else if expects then .error (.wrongNumber kind)
    else behindNumber kind (c :: r)

def basedKinds : List (Char × String × (Char → Bool)) :=
  [('x', "hexadecimal", fun c => (Text.hexValue? c).isSome),
   ('o', "octal", fun c => '0' ≤ c && c < '8'), ('b', "binary", fun c => c == '0' || c == '1')]

/-- What follows an exponent or the mark of an imaginary number, if one comes. -/
def behindExponent (cs : List Char) : Except Fault (List Char) := do
  match cs with
  | c :: r =>
    if c.toLower = 'e' then
      match r with
      | s :: d :: _ =>
        if s == '+' || s == '-' then
          if Text.isDigit d then ending (← behindDigits (r.drop 1)) else throw wrongDecimal
        else if Text.isDigit s then ending (← behindDigits r)
        else bare (c :: r)
      | [s] =>
        if s == '+' || s == '-' then throw wrongDecimal
        else if Text.isDigit s then ending (← behindDigits r)
        else bare (c :: r)
      | [] => bare (c :: r)
    else ending cs
  | [] => return []
where
  bare (cs : List Char) : Except Fault (List Char) := behindNumber "decimal" cs
  ending : List Char → Except Fault (List Char)
    | c :: r =>
      if c.toLower = 'j' then behindNumber "imaginary" r else behindNumber "decimal" (c :: r)
    | [] => .ok []

/-- What follows a fraction, if one comes. -/
def behindFraction (cs : List Char) : Except Fault (List Char) :=
  match cs with
  | '.' :: r => do behindExponent (← (if r.head?.any Text.isDigit then behindDigits r else .ok r))
  | cs => behindExponent cs

/-- What follows a number that begins with a digit or a point. -/
def behindNumeral (cs : List Char) : Except Fault (List Char) :=
  match cs with
  | '0' :: r =>
    match r.head?.bind fun c => basedKinds.lookup c.toLower with
    | some (kind, isOfBase) => behindBase kind isOfBase true false (r.drop 1)
    | none => do
      let zeros := (cs.takeWhile fun c => c == '0' || c == '_')
      let after ← behindDigits cs
      let isPlain := cs.length - after.length = zeros.length
      let goesOn := after.head?.any fun c => c == '.' || "ejEJ".toList.contains c
      if isPlain || goesOn then behindFraction after else throw .leadingZero
  | cs => do behindFraction (← behindDigits cs)

/-- Whether a number starts here: with a digit, or with a point before one. -/
def startsNumber : List Char → Bool
  | '.' :: c :: _ => Text.isDigit c
  | c :: _ => Text.isDigit c
  | [] => false

/-- The first character of a word that cannot stand where it does. -/
def stray? (word : List Char) : Option Char :=
  match word with
  | [] => none
  | c :: r =>
    if !Text.startsIdentifier c then some c else r.find? (!Text.isInIdentifier ·)

/-- The front of a line: how many columns it takes, with tabs of eight and of one, the line that it
goes on in behind backslashes, and what follows. Only the columns before the first backslash count,
if there are any. -/
structure Front where
  columns : Nat
  singles : Nat
  fixed : Option Nat
  line : Nat
  rest : List Char

namespace Front

/-- The front of a line from some columns on. -/
def read (f : Front) : List Char → Except Fault Front
  | ' ' :: r => read { f with columns := f.columns + 1, singles := f.singles + 1 } r
  | '\t' :: r =>
    read { f with columns := (f.columns / 8 + 1) * 8, singles := f.singles + 1 } r
  | '\x0c' :: r => read { f with columns := 0, singles := 0 } r
  | ['\\', '\n'] => .error .endOfText
  | '\\' :: '\n' :: r =>
    let fixed := f.fixed.or (if f.columns = 0 then none else some f.columns)
    read { f with fixed, line := f.line + 1 } r
  | '\\' :: _ => .error .strayBackslash
  | cs => .ok { f with rest := cs }

def indent (f : Front) : Nat × Nat := (f.fixed.getD f.columns, f.fixed.getD f.singles)

end Front

/-- Where the scan stands: the line, the brackets that are open with their lines, and how far the
lines are indented, with tabs of eight columns and of one. -/
structure Place where
  line : Nat
  opened : List (Char × Nat)
  indents : List (Nat × Nat)

namespace Place

/-- The token at a place, with what follows it. -/
def token (p : Place) (k : TokenKind) (rest : List Char) : Token :=
  ⟨k, p.line, p.opened.length, rest.isEmpty && k.looksAhead⟩

def stop (p : Place) (f : Fault) : Tokens := ⟨[], .onDemand f p.opened.head?⟩

/-- The tokens for a line that is indented in some way, and the place then. -/
def indented (p : Place) (n : Nat × Nat) : Except Fault (List Token × Place) :=
  match p.indents with
  | [] => .ok ([], p)
  | top :: below =>
    if n.1 = top.1 then if n.2 = top.2 then .ok ([], p) else .error .mixedIndent
    else if top.1 < n.1 then
      if n.2 ≤ top.2 then .error .mixedIndent
      else .ok ([p.token .indent []], { p with indents := n :: p.indents })
    else
      let kept := below.dropWhile fun m => n.1 < m.1
      if kept.head? = some n then
        let count := p.indents.length - kept.length
        .ok (List.replicate count (p.token .outdent []), { p with indents := kept })
      else .error (if kept.head?.any (·.1 = n.1) then .mixedIndent else .unevenIndent)

end Place

def Tokens.cons (ts : List Token) (rest : Tokens) : Tokens := ⟨ts ++ rest.list, rest.stop⟩

/-- The tokens from a place on; at the front of a line outside brackets its indentation counts. -/
def scanFrom : Nat → Place → Bool → List Char → Tokens
  | 0, _, _, _ => ⟨[], .finished⟩
  | fuel + 1, p, true, cs =>
    match Front.read ⟨0, 0, none, p.line, []⟩ cs with
    | .error f => p.stop f
    | .ok front =>
      let p := { p with line := front.line }
      if front.rest.head?.any fun c => c == '#' || c == '\n' then
        match front.rest.dropWhile (· != '\n') with
        | _ :: r => scanFrom fuel { p with line := p.line + 1 } true r
        | [] => scanFrom fuel p false []
      else
        match p.indented front.indent with
        | .error f => p.stop f
        | .ok (ts, p) => Tokens.cons ts (scanFrom fuel p false front.rest)
  | _ + 1, p, false, [] =>
    match p.opened with
    | (o, _) :: _ => p.stop (.neverClosed o)
    | [] => ⟨[p.token .finish []], .finished⟩
  | fuel + 1, p, false, c :: r =>
    let fault := fun f => Tokens.mk [] (.fault f)
    if c == '\n' then
      if p.opened.isEmpty then
        Tokens.cons [p.token .lineEnd r] (scanFrom fuel { p with line := p.line + 1 } true r)
      else scanFrom fuel { p with line := p.line + 1 } false r
    else if c == ' ' || c == '\t' || c == '\x0c' then scanFrom fuel p false r
    else if c == '#' then scanFrom fuel p false (r.dropWhile (· != '\n'))
    else if c == '\'' || c == '"' then quoted fuel p c [] r
    else if startsNumber (c :: r) then
      match behindNumeral (c :: r) with
      | .error f => fault f
      | .ok rest =>
        let cs := (c :: r).take (r.length + 1 - rest.length)
        Tokens.cons [p.token (.number cs) rest] (scanFrom fuel p false rest)
    else if isWordStart c then
      let word := (c :: r).takeWhile isWordChar
      let rest := r.drop (word.length - 1)
      let s := String.ofList word
      let quote? := rest.head?.filter fun q => q == '\'' || q == '"'
      match quote? with
      | some q =>
        if quoteMarks.contains s.toLower then quoted fuel p q s.toLower.toList (rest.drop 1)
        else named fuel p word rest
      | none => named fuel p word rest
    else if c == '\\' then
      match r with
      | ['\n'] =>
        p.stop ((p.opened.head?.map fun o => Fault.neverClosed o.1).getD .endOfText)
      | '\n' :: r => scanFrom fuel { p with line := p.line + 1 } false r
      | _ => p.stop .strayBackslash
    else
      let s := signAt c r
      let rest := r.drop (s.length - 1)
      if s.length == 1 && (brackets.lookup c).isSome then
        if deepest ≤ p.opened.length then fault .tooDeep
        else
          let p := { p with opened := (c, p.line) :: p.opened }
          Tokens.cons [p.token (.sign s) rest] (scanFrom fuel p false rest)
      else if let some o := opening? c then
        match p.opened with
        | [] => fault (.unmatched c)
        | (b, line) :: opened =>
          if b != o then fault (.mismatched c b (if line = p.line then none else some line))
          else
            let p := { p with opened }
            Tokens.cons [p.token (.sign s) rest] (scanFrom fuel p false rest)
      else if !Text.isPrintable c then fault (.strayCharacter c)
      else Tokens.cons [p.token (.sign s) rest] (scanFrom fuel p false rest)
where
  /-- A quoted text with the letters before it. -/
  quoted (fuel : Nat) (p : Place) (quote : Char) (marks r : List Char) : Tokens :=
    match quotedText quote p.line r with
    | .error f => ⟨[], .fault f⟩
    | .ok (content, rest, line) =>
      let q : Quoted := ⟨marks.contains 'b', marks.contains 'r', marks.contains 'f', content⟩
      Tokens.cons [p.token (.quoted q) rest] (scanFrom fuel { p with line } false rest)
  /-- A word that is no mark of a quote. -/
  named (fuel : Nat) (p : Place) (word rest : List Char) : Tokens :=
    match stray? word with
    | some c => ⟨[], .fault (.strayCharacter c)⟩
    | none =>
      let s := String.ofList word
      let k := if keywords.contains s then TokenKind.keyword s else .name s
      Tokens.cons [p.token k rest] (scanFrom fuel p false rest)

end Token

def Tokens.ofText (cs : List Char) : Tokens :=
  Token.scanFrom (2 * cs.length + 2) ⟨1, [], [(0, 0)]⟩ true cs

end Subgraph.Console.Literal
