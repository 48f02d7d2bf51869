import Subgraph.Yaml.Scalar

/-!
The tokens of a YAML text.

Blocks have no brackets of their own: they start where the column grows and end where it falls.
A mapping key is only known for one when its colon comes, so a scanner remembers where a key
could have started; the tokens for the key are put there afterwards. Such a key stays on one
line and is not longer than `longestKey`.

A text is taken in by chunks. A character that is not permitted is only found with its chunk, so
what is wrong before that chunk counts first.
-/

namespace Subgraph.Yaml
open Cursor (Scan)
open Text (Points)

inductive DirectiveLine where
  | version (major minor : Nat)
  | tag (handle replacement : String)
  | other
  deriving DecidableEq, Repr

inductive Token where
  | directive (d : DirectiveLine)
  | documentStart
  | documentEnd
  | blockSequence
  | blockMapping
  | blockEnd
  | flowSequence
  | flowSequenceEnd
  | flowMapping
  | flowMappingEnd
  | key
  | value
  | blockEntry
  | flowEntry
  | alias (name : String)
  | anchor (name : String)
  | tag (handle : Option String) (suffix : String)
  | scalar (text : Points) (plain : Bool)
  deriving DecidableEq, Repr, Inhabited

/-- How a message names a token. -/
def Token.sign : Token → String
  | .directive _ => "<directive>"
  | .documentStart => "<document start>"
  | .documentEnd => "<document end>"
  | .blockSequence => "<block sequence start>"
  | .blockMapping => "<block mapping start>"
  | .blockEnd => "<block end>"
  | .flowSequence => "["
  | .flowSequenceEnd => "]"
  | .flowMapping => "\x7b"
  | .flowMappingEnd => "\x7d"
  | .key => "?"
  | .value => ":"
  | .blockEntry => "-"
  | .flowEntry => ","
  | .alias _ => "<alias>"
  | .anchor _ => "<anchor>"
  | .tag .. => "<tag>"
  | .scalar .. => "<scalar>"

/-- Where a mapping key may have started. -/
structure PossibleKey where
  position : Nat
  required : Bool
  index : Nat
  line : Nat
  column : Nat

def longestKey : Nat := 1024

structure Scanner where
  cursor : Cursor
  /-- The number of open brackets; negative where more are closed than were open. -/
  flow : Int
  indent : Int
  indents : List Int
  allowsKey : Bool
  /-- Possible keys by the number of open brackets. -/
  keys : List (Int × PossibleKey)
  tokens : Array Token

namespace Scanner

def ofList (cs : List Char) : Scanner := ⟨.ofList cs, 0, -1, [], true, [], #[]⟩

def push (s : Scanner) (t : Token) : Scanner := { s with tokens := s.tokens.push t }

def allow (s : Scanner) (b : Bool) : Scanner := { s with allowsKey := b }

/-- Writes a token and goes on behind its characters. -/
def emit (s : Scanner) (t : Token) (width : Nat) : Scanner :=
  { s.push t with cursor := s.cursor.advance width }

def inFlow (s : Scanner) : Bool := s.flow != 0

def hasExpired (s : Scanner) (k : PossibleKey) : Bool :=
  k.line != s.cursor.line || k.index + longestKey < s.cursor.index

def noKey : Fault := .scanning "a simple key"

/-- Forgets the keys that have expired. A required one must not. -/
def expire (s : Scanner) : Scan Scanner :=
  if s.keys.any fun k => s.hasExpired k.2 && k.2.required then s.cursor.fail noKey 0
  else .ok { s with keys := s.keys.filter fun k => !s.hasExpired k.2 }

/-- Gives up the possible key of this level. -/
def dropKey (s : Scanner) : Scan Scanner :=
  match s.keys.lookup s.flow with
  | none => .ok s
  | some k =>
    if k.required then s.cursor.fail noKey 0
    else .ok { s with keys := s.keys.filter (·.1 != s.flow) }

/-- A key may start here. -/
def saveKey (s : Scanner) : Scan Scanner :=
  if !s.allowsKey then .ok s
  else do
    let required := !s.inFlow && s.indent == s.cursor.column
    let key : PossibleKey :=
      ⟨s.tokens.size, required, s.cursor.index, s.cursor.line, s.cursor.column⟩
    let s ← s.dropKey
    return { s with keys := (s.flow, key) :: s.keys }

def closeBlocks (column : Int) : List Int → Int → Array Token → Int × List Int × Array Token
  | [], indent, ts => (indent, [], ts)
  | i :: r, indent, ts =>
    if column < indent then closeBlocks column r i (ts.push .blockEnd) else (indent, i :: r, ts)

/-- Ends the blocks that stand further right than a column. -/
def unwind (s : Scanner) (column : Int) : Scanner :=
  if s.inFlow then s
  else
    let (indent, indents, tokens) := closeBlocks column s.indents s.indent s.tokens
    { s with indent, indents, tokens }

/-- Starts a block at a column unless one stands there; its token goes to a position. -/
def openBlock (s : Scanner) (column : Nat) (t : Token) (position : Nat) : Scanner :=
  if s.indent < column then
    { s with
      indent := column
      indents := s.indent :: s.indents
      tokens := s.tokens.insertIdxIfInBounds position t }
  else s

def badDirective : Fault := .scanning "a directive"

/-- A number in a directive, with at least one digit. -/
def directiveNumber (c : Cursor) : Scan (Nat × Cursor) := do
  let (ds, d) := c.span Text.isDigit
  d.require (!ds.isEmpty) badDirective
  if Numeral.mostDigits < ds.length then d.fail (.longNumber ds.length) 0
  else return (Nat.ofDigitChars 10 ds 0, d)

def directiveLine (c : Cursor) : Scan (DirectiveLine × Cursor) := do
  let (name, c) := c.span isWordChar
  c.require (!name.isEmpty && (isBreakOrEnd (c.peek 0) || c.peek 0 == ' ')) badDirective
  match String.ofList name with
  | "YAML" =>
    let (major, c) ← directiveNumber (c.skip (· == ' '))
    c.require (c.peek 0 == '.') badDirective
    let (minor, c) ← directiveNumber c.next
    c.require (isBreakOrEnd (c.peek 0) || c.peek 0 == ' ') badDirective
    return (.version major minor, c)
  | "TAG" =>
    let (handle, c) ← tagHandle badDirective (c.skip (· == ' '))
    c.require (c.peek 0 == ' ') badDirective
    let (replacement, c) ← tagText "a directive" (c.skip (· == ' '))
    c.require (isBreakOrEnd (c.peek 0) || c.peek 0 == ' ') badDirective
    return (.tag handle replacement, c)
  | _ => return (.other, c.skip (!isBreakOrEnd ·))
where
  /-- A tag handle: bangs around a word, or one bang. -/
  tagHandle (fault : Fault) (c : Cursor) : Scan (String × Cursor) := do
    c.require (c.peek 0 == '!') fault
    if c.peek 1 == ' ' then return ("!", c.next)
    let (word, c) := c.next.span isWordChar
    c.require (c.peek 0 == '!') fault
    return (String.ofList ('!' :: word ++ ['!']), c.next)
  /-- The characters of a tag, with those in escapes of two digits. -/
  tagText (what : String) (c : Cursor) : Scan (String × Cursor) := do
    let isTagChar := fun ch : Char =>
      ch.isAlphanum || "-;/?:@&=+$,_.!~*'()[]%".toList.contains ch
    let (cs, c) := c.span isTagChar
    match unescape cs with
    | some s => if cs.isEmpty then c.fail (.parsing what) 0 else return (s, c)
    | none => c.fail (.scanning what) 0
  unescape (cs : List Char) : Option String := do
    let bytes ← bytesOf cs
    String.fromUTF8? ⟨bytes.toArray⟩
  bytesOf : List Char → Option (List UInt8)
    | '%' :: a :: b :: r => do
      let n ← Text.hexRun? [a, b]
      return UInt8.ofNat n :: (← bytesOf r)
    | '%' :: _ => none
    | c :: r => do return c.val.toUInt8 :: (← bytesOf r)
    | [] => some []

/-- A name behind an ampersand or an asterisk. -/
def anchorName (what : String) (c : Cursor) : Scan (String × Cursor) := do
  let (name, c) := c.span isWordChar
  let enders := ['?', ':', ',', ']', '\x7d', '%', '@', Char.ofNat 0x60]
  c.require (!name.isEmpty && (isGap (c.peek 0) || enders.contains (c.peek 0))) (.scanning what)
  return (String.ofList name, c)

def badTag : Fault := .scanning "a tag"

def tagToken (c : Cursor) : Scan (Token × Cursor) := do
  let (t, c) ←
    if c.peek 1 == '<' then do
      let (suffix, c) ← directiveLine.tagText "a tag" (c.advance 2)
      c.require (c.peek 0 == '>') (.parsing "a tag")
      pure (Token.tag none suffix, c.next)
    else if isGap (c.peek 1) then pure (Token.tag none "!", c.next)
    else do
      let word := c.next.rest.takeWhile fun ch => !isBreakOrEnd ch && ch != ' '
      let (handle, c) ←
        if word.contains '!' then directiveLine.tagHandle badTag c else pure ("!", c.next)
      let (suffix, c) ← directiveLine.tagText "a tag" c
      pure (Token.tag (some handle) suffix, c)
  c.require (isBreakOrEnd (c.peek 0) || c.peek 0 == ' ') badTag
  return (t, c)

def fetchMarker (s : Scanner) (t : Token) : Scan Scanner := do
  let s ← (s.unwind (-1)).dropKey
  return (s.allow false).emit t 3

def fetchDirective (s : Scanner) : Scan Scanner := do
  let s ← (s.unwind (-1)).dropKey
  let (d, c) ← directiveLine s.cursor.next
  return { (s.allow false).push (.directive d) with
    cursor := ← Block.restOfLine badDirective c }

def fetchFlowStart (s : Scanner) (t : Token) : Scan Scanner := do
  let s ← s.saveKey
  return ({ s with flow := s.flow + 1 }.allow true).emit t 1

def fetchFlowEnd (s : Scanner) (t : Token) : Scan Scanner := do
  let s ← s.dropKey
  return ({ s with flow := s.flow - 1 }.allow false).emit t 1

def fetchFlowEntry (s : Scanner) : Scan Scanner := do
  let s ← (s.allow true).dropKey
  return s.emit .flowEntry 1

def fetchBlockEntry (s : Scanner) : Scan Scanner := do
  s.cursor.require (s.inFlow || s.allowsKey) (.notAllowed "sequence entries")
  let s := if s.inFlow then s else s.openBlock s.cursor.column .blockSequence s.tokens.size
  let s ← (s.allow true).dropKey
  return s.emit .blockEntry 1

def fetchKey (s : Scanner) : Scan Scanner := do
  s.cursor.require (s.inFlow || s.allowsKey) (.notAllowed "mapping keys")
  let s := if s.inFlow then s else s.openBlock s.cursor.column .blockMapping s.tokens.size
  let s ← (s.allow !s.inFlow).dropKey
  return s.emit .key 1

def fetchValue (s : Scanner) : Scan Scanner :=
  match s.keys.lookup s.flow with
  | some k =>
    let s := { s with
      keys := s.keys.filter (·.1 != s.flow)
      tokens := s.tokens.insertIdxIfInBounds k.position .key }
    let s := if s.inFlow then s else s.openBlock k.column .blockMapping k.position
    .ok ((s.allow false).emit .value 1)
  | none => do
    s.cursor.require (s.inFlow || s.allowsKey) (.notAllowed "mapping values")
    let s := if s.inFlow then s else s.openBlock s.cursor.column .blockMapping s.tokens.size
    return (s.allow !s.inFlow).emit .value 1

/-- A token that may start a key, read from the place here. -/
def fetchNode (s : Scanner) (read : Cursor → Scan (Token × Cursor)) : Scan Scanner := do
  let s ← s.saveKey
  let (t, c) ← read s.cursor
  return { (s.allow false).push t with cursor := c }

def fetchBlockScalar (s : Scanner) (folded : Bool) : Scan Scanner := do
  let s ← (s.allow true).dropKey
  let (cs, c) ← Block.read folded s.indent s.cursor.next
  return { s.push (.scalar (cs.map Char.toNat) false) with cursor := c }

def fetchQuoted (s : Scanner) (double : Bool) : Scan Scanner :=
  s.fetchNode fun c => do
    let (text, c) ← Quoted.read double c.fuel c.next
    return (.scalar text false, c)

def fetchPlain (s : Scanner) : Scan Scanner := do
  let s ← s.saveKey
  let (cs, broken, c) := Plain.read s.inFlow (s.indent + 1) s.cursor.fuel s.cursor
  return { (s.allow broken).push (.scalar (cs.map Char.toNat) true) with cursor := c }

/-- Goes on to the next token. Outside brackets a key may start on a new line. -/
def toNext : Nat → Scanner → Scanner
  | 0, s => s
  | fuel + 1, s =>
    let c := s.cursor.skip (· == ' ')
    let c := if c.peek 0 == '#' then c.skip (!isBreakOrEnd ·) else c
    match c.lineBreak? with
    | some (_, c) => toNext fuel ({ s with cursor := c }.allow (!s.inFlow || s.allowsKey))
    | none => { s with cursor := c }

def noToken : Fault := .scanning "for the next token"

/-- Scans the token that starts here. -/
def fetch (s : Scanner) : Scan Scanner :=
  let c := s.cursor
  let alone := isGap (c.peek 1)
  if c.column == 0 && c.peek 0 == '%' then s.fetchDirective
  else if c.column == 0 && c.isMarker then
    s.fetchMarker (if c.peek 0 == '-' then .documentStart else .documentEnd)
  else match c.peek 0 with
    | '[' => s.fetchFlowStart .flowSequence
    | '\x7b' => s.fetchFlowStart .flowMapping
    | ']' => s.fetchFlowEnd .flowSequenceEnd
    | '\x7d' => s.fetchFlowEnd .flowMappingEnd
    | ',' => s.fetchFlowEntry
    | '*' => s.fetchNode fun c => do
      let (name, c) ← anchorName "an alias" c.next
      return (.alias name, c)
    | '&' => s.fetchNode fun c => do
      let (name, c) ← anchorName "an anchor" c.next
      return (.anchor name, c)
    | '!' => s.fetchNode tagToken
    | '\'' => s.fetchQuoted false
    | '"' => s.fetchQuoted true
    | ch =>
      if ch == '-' && alone then s.fetchBlockEntry
      else if ch == '?' && (s.inFlow || alone) then s.fetchKey
      else if ch == ':' && (s.inFlow || alone) then s.fetchValue
      else if ch == '|' && !s.inFlow then s.fetchBlockScalar false
      else if ch == '>' && !s.inFlow then s.fetchBlockScalar true
      else if Plain.starts s.inFlow c then s.fetchPlain
      else c.fail noToken 0

def finish (s : Scanner) : Scan Scanner := (s.unwind (-1)).dropKey

/-- The tokens that can be taken as they are. A token that may start a key cannot, as it is not
known yet whether the key's tokens stand before it; nor can one that had to. -/
def settled (s : Scanner) : List Token :=
  let waiting := s.keys.filter fun k => !s.hasExpired k.2 || k.2.required
  s.tokens.toList.take ((waiting.map (·.2.position)).foldl min s.tokens.size)

/-- Scans on by one token, or to the end of the text. -/
def step (s : Scanner) : Scan Scanner := do
  let s ← (toNext s.cursor.fuel s).expire
  let atColumn := s.unwind s.cursor.column
  if s.cursor.isAtEnd then atColumn.finish else atColumn.fetch

/-- The tokens up to the end of the text, or up to what is wrong with it. A text that goes on beyond
its end with a fault is at fault as soon as the end is looked at. -/
def run (beyond : Option Fault) (size : Nat) : Nat → Scanner → List Token × Option Fault
  | 0, s => (s.settled, some noToken)
  | fuel + 1, s =>
    match s.step with
    | .error (f, index) => (s.settled, if index < size then some f else beyond.or (some f))
    | .ok next =>
      if next.cursor.isAtEnd && beyond.isSome then (s.settled, beyond)
      else if (toNext s.cursor.fuel s).cursor.isAtEnd then (next.tokens.toList, none)
      else run beyond size fuel next

end Scanner

/-- How many characters make a chunk. The first two are taken in at once. -/
def chunkSize : Nat := 4096

/-- Where the chunk with an index starts. -/
def chunkStart (index : Nat) : Nat :=
  if index < 2 * chunkSize then 0 else index / chunkSize * chunkSize

theorem chunkStart_le (index : Nat) : chunkStart index ≤ index := by
  unfold chunkStart
  split
  · omega
  · exact Nat.div_mul_le_self _ _

/-- The tokens of a text, before which a mark of the byte order may stand. -/
def Token.scan (s : String) : List Token × Option Fault :=
  let cs := Text.normalizeNewlines s.toList
  let (cs, beyond) := match cs.findIdx? (!isPermitted ·) with
    | some i => (cs.take (chunkStart i), some (.character (cs.getD i endMark).toNat))
    | none => (cs, none)
  let c := Cursor.ofList cs
  let c := if c.peek 0 == byteOrderMark then c.next else c
  Scanner.run beyond cs.length c.fuel { Scanner.ofList cs with cursor := c }

end Subgraph.Yaml
