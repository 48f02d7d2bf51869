import Subgraph.Console.Literal
import Subgraph.Console.Picture
import Subgraph.Console.Style
import Subgraph.Text.Columns
import Subgraph.Text.Display
import Subgraph.Text.Word

/-!
Texts with style tags in brackets, and the plain text that they show.

A tag opens or closes a style. A backslash before a bracket makes it a part of the text. A closing
tag closes the last style of its name that is open, or just the last one; styles may stay open.
The tag of a handler may say how the handler is called; that is read when the tag is closed. Any
other tag may name a style in full, which is read when the text is shown.
-/

namespace Subgraph.Console

inductive MarkupError where
  | nothingToClose (position : Nat)
  | notOpen (tag : String) (position : Nat)
  | handler (call given : String) (f : Literal.Fault)
  | noNumber (text : String) (f : Numeral.Fault)
  deriving DecidableEq, Repr

namespace MarkupError

/-- What sort of failure an error is. -/
def kind : MarkupError → String
  | .noNumber _ _ => "ValueError"
  | _ => "MarkupError"

def message : MarkupError → String
  | .nothingToClose p =>
    "closing tag '[/]' at position " ++ toString p ++ " has nothing to close"
  | .notOpen t p =>
    "closing tag '[" ++ t ++ "]' at position " ++ toString p ++ " doesn't match any open tag"
  | .handler call given f =>
    "error parsing " ++ (if f.isOfValue then "" else Text.display call ++ " in ")
      ++ Text.display given ++ "; " ++ f.message
  | .noNumber _ (.tooLong n) => Numeral.tooLongMessage n
  | .noNumber t .malformed => "invalid literal for int() with base 10: " ++ Text.display t

end MarkupError

def isTagStart (c : Char) : Bool := ('a' ≤ c && c ≤ 'z') || c == '#' || c == '/' || c == '@'

/-- The characters of a tag behind its opening bracket, and what follows the closing one. -/
def tagBody? (cs : List Char) : Option (List Char × List Char) :=
  if cs.head?.any isTagStart then
    let body := cs.takeWhile fun c => c != ']' && c != '['
    match cs.drop body.length with
    | ']' :: r => some (body, r)
    | _ => none
  else none

/-- A part of a marked text; a tag stands at a position. -/
inductive Part where
  | plain (cs : List Char)
  | verbatim (cs : List Char)
  | tag (body : List Char) (position : Nat)

/-- The parts of a text from a position on; what is plain is cut at every character. -/
def parts : Nat → Nat → List Char → List Part
  | 0, _, _ => []
  | _, _, [] => []
  | fuel + 1, position, cs =>
    let slashes := cs.takeWhile (· == '\\')
    let n := slashes.length
    match cs.drop n with
    | '[' :: r =>
      match tagBody? r with
      | some (body, after) =>
        let next := position + n + body.length + 2
        let head := Part.verbatim (List.replicate (n / 2) '\\')
        let tag := if n % 2 = 1 then Part.verbatim ('[' :: body ++ [']'])
          else .tag body (position + n)
        head :: tag :: parts fuel next after
      | none => .plain (slashes ++ ['[']) :: parts fuel (position + n + 1) r
    | c :: r => .plain (slashes ++ [c]) :: parts fuel (position + n + 1) r
    | [] => [.plain slashes]

/-- Puts plain parts together that stand side by side. -/
def joined (ps : List Part) : List Part :=
  ps.foldr (fun p done =>
    match p, done with
    | .plain a, .plain b :: r => .plain (a ++ b) :: r
    | p, done => p :: done) []

/-- A backslash before a bracket is left out of plain text. -/
def unescapeBrackets : List Char → List Char
  | '\\' :: '[' :: r => '[' :: unescapeBrackets r
  | c :: r => c :: unescapeBrackets r
  | [] => []

def drawn (cs : List Char) : List Char := Picture.draw cs.length cs

/-- The parts of a tag before and behind the first equals sign. -/
def splitTag (body : List Char) : String × Option String :=
  let name := body.takeWhile (· != '=')
  (String.ofList name,
    if name.length < body.length then some (String.ofList (body.drop (name.length + 1)))
    else none)

def normalName (name : String) : Except MarkupError String :=
  match Style.normal name with
  | .ok s => .ok s
  | .error (.noNumber t f) => .error (.noNumber t f)
  | .error .meaningless => .ok name

/-- What a handler is called with: what stands between parentheses behind its name, or nothing.
Without a name it is all that is given. -/
def handlerCall (given : String) : String :=
  let cs := (Text.stripped given).toList
  let name := cs.takeWhile fun c => Text.isWordChar c || c == '.'
  match cs.drop name.length with
  | [] => "()"
  | '(' :: r =>
    if r.getLast? == some ')' && !r.contains '\n' then String.ofList ('(' :: r)
    else String.ofList cs
  | _ => String.ofList cs

/-- A tag that is open, by its name and what it is given, and where its text starts. -/
structure OpenTag where
  name : String
  given : Option String
  start : Nat
  deriving DecidableEq, Repr

/-- A style and the characters of a text that it is for. -/
structure Span where
  start : Nat
  stop : Nat
  style : String
  deriving DecidableEq, Repr

namespace OpenTag

def isHandler (t : OpenTag) : Bool := t.name.startsWith "@"

/-- What the tag of a handler is given has to be a literal. -/
def checkHandler (t : OpenTag) : Except MarkupError Unit :=
  match t.given with
  | some given =>
    if given = "" then .ok ()
    else
      let call := handlerCall given
      (Literal.check call).mapError (.handler call given)
  | none => .ok ()

/-- The style that a tag names in full. -/
def style (t : OpenTag) : String :=
  match t.given with
  | some given => if given = "" then t.name else t.name ++ " " ++ given
  | none => t.name

def span (t : OpenTag) (stop : Nat) : Span := ⟨t.start, stop, t.style⟩

end OpenTag

/-- What is read of a marked text so far: the characters that it shows, the tags that are open, and
the spans of those that were closed, each from the last one on. -/
structure Reading where
  shown : List Char
  opened : List OpenTag
  spans : List Span

def isDropped (c : Char) : Bool :=
  c == '\x07' || c == '\x08' || c == '\x0b' || c == '\x0c' || c == '\r'

namespace Reading

/-- Shows more characters, but for some controls. -/
def withShown (r : Reading) (cs : List Char) : Reading :=
  { r with shown := (cs.filter (!isDropped ·)).reverse ++ r.shown }

def close (r : Reading) (t : OpenTag) : Except MarkupError Reading := do
  let r := { r with opened := r.opened.erase t }
  if t.isHandler then
    t.checkHandler
    return r
  else return { r with spans := t.span r.shown.length :: r.spans }

/-- Reads a tag that stands at a position. -/
def tag (r : Reading) (body : List Char) (p : Nat) : Except MarkupError Reading := do
  let (name, given) := splitTag body
  if name.startsWith "/" then
    let name := Text.stripped (String.ofList (name.toList.drop 1))
    if name = "" then
      match r.opened with
      | [] => throw (.nothingToClose p)
      | t :: _ => r.close t
    else
      let name ← normalName name
      match r.opened.find? (·.name == name) with
      | none => throw (.notOpen (String.ofList body) p)
      | some t => r.close t
  else return { r with opened := ⟨← normalName name, given, r.shown.length⟩ :: r.opened }

def part (r : Reading) : Part → Except MarkupError Reading
  | .plain cs => .ok (r.withShown (drawn (unescapeBrackets cs)))
  | .verbatim cs => .ok (r.withShown (drawn cs))
  | .tag body p => r.tag body p

end Reading

/-- A text as it is shown, and the spans of its styles, by where they start. -/
structure Marked where
  chars : List Char
  spans : List Span
  deriving Repr

namespace Marked

def read (s : String) : Except MarkupError Marked := do
  let r ← (joined (parts (s.length + 1) 0 s.toList)).foldlM Reading.part ⟨[], [], []⟩
  let left := (r.opened.map (·.span r.shown.length)).reverse
  return ⟨r.shown.reverse, (left ++ r.spans).mergeSort fun a b => a.start ≤ b.start⟩

/-- The pieces in which a text is shown, by where they start and stop: its lines, which are cut
behind each tab. -/
def pieces (start here : Nat) : List Char → List (Nat × Nat)
  | [] => [(start, here)]
  | '\n' :: r => (start, here) :: pieces (here + 1) (here + 1) r
  | '\t' :: r => (start, here + 1) :: pieces (here + 1) (here + 1) r
  | _ :: r => pieces start (here + 1) r

/-- The spans in the order in which they are shown. A text of several pieces loses those that have
no character in any. -/
def shownSpans (m : Marked) : List Span :=
  match pieces 0 0 m.chars with
  | [_] => m.spans
  | ps => ps.flatMap fun (a, b) => m.spans.filter fun s => max s.start a < min s.stop b

/-- Reads the styles of spans. A style that means nothing is none. -/
def checkStyles (spans : List Span) : Except MarkupError Unit :=
  spans.forM fun s =>
    match Style.read s.style with
    | .error (.noNumber t f) => .error (.noNumber t f)
    | _ => .ok ()

end Marked

def tabWidth : Nat := 8

/-- Blanks in place of the tabs in a line: one, and then more up to a multiple of the tab width. The
characters before, in reverse, are those behind the last tab, which stands at a column. -/
def expandLine (column : Nat) (before : List Char) : List Char → List Char
  | [] => []
  | '\t' :: r =>
    let here := column + Text.columns (before.reverse ++ [' '])
    let n := (tabWidth - here % tabWidth) % tabWidth
    ' ' :: List.replicate n ' ' ++ expandLine (here + n) [] r
  | c :: r => c :: expandLine column (c :: before) r

/-- Blanks in place of tabs. -/
def expandTabs (cs : List Char) : List Char :=
  ['\n'].intercalate ((Text.splitAt (· == '\n') cs).map (expandLine 0 []))

end Subgraph.Console
