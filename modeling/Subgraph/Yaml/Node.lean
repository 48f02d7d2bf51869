import Subgraph.Entries
import Subgraph.Yaml.Tag
import Subgraph.Yaml.Token

/-!
The nodes of a YAML text.

A text holds one document or none. Every node has a number of its own. An alias has the number of
the node that its anchor names, and may stand inside that node.
-/

namespace Subgraph.Yaml
open Text (Points)

inductive Node where
  | scalar (id : Nat) (tag : Tag) (text : Points)
  | sequence (id : Nat) (tag : Tag) (items : List Node)
  | mapping (id : Nat) (tag : Tag) (entries : List (Node × Node))
  | alias (id : Nat)
  deriving Inhabited

/-- The node of a document, those that its anchors name, and how many nodes there are. -/
structure Graph where
  root : Node
  named : List (Nat × Node)
  size : Nat
  deriving Inhabited

namespace Node

def id : Node → Nat
  | .scalar i .. => i
  | .sequence i .. => i
  | .mapping i .. => i
  | .alias i => i

/-- The tokens to come, what is wrong behind them, what tag handles stand for, the numbers and the
nodes of the anchors, and the next number. -/
structure Reader where
  tokens : List Token
  fault : Option Fault
  handles : Entries String
  anchors : Entries Nat
  named : List (Nat × Node)
  next : Nat

abbrev Read (α : Type) := StateT Reader (Except Fault) α

/-- A number for one more node. -/
def fresh : Read Nat := modifyGet fun s => (s.next, { s with next := s.next + 1 })

def empty : Read Node := do return .scalar (← fresh) (Tag.ofText "") []

/-- The next token; none at the end of the text. -/
def peek? : Read (Option Token) := do
  let s ← get
  match s.tokens, s.fault with
  | [], some f => throw f
  | ts, _ => return ts.head?

def skip : Read Unit := modify fun s => { s with tokens := s.tokens.drop 1 }

/-- Takes a token if it comes next. -/
def take (t : Token) : Read Bool := do
  if (← peek?) = some t then
    skip
    return true
  else return false

def expect (t : Token) (fault : Fault) : Read Unit := do
  if ← take t then return () else throw fault

/-- Whether the next token is one of some. -/
def isNext (ts : List Token) : Read Bool := do
  return (← peek?).any ts.contains

/-- An anchor and a tag, in any order. -/
def properties : Read (Option String × Option (Option String × String)) := do
  match ← peek? with
  | some (.anchor a) =>
    skip
    match ← peek? with
    | some (.tag h t) =>
      skip
      return (some a, some (h, t))
    | _ => return (some a, none)
  | some (.tag h t) =>
    skip
    match ← peek? with
    | some (.anchor a) =>
      skip
      return (some a, some (h, t))
    | _ => return (none, some (h, t))
  | _ => return (none, none)

/-- The name of a tag whose handle is declared. -/
def tagName : Option (Option String × String) → Read (Option String)
  | none => return none
  | some (none, suffix) => return some suffix
  | some (some h, suffix) => do
    match Entries.get? (← get).handles h with
    | some start => return some (start ++ suffix)
    | none => throw (.parsing "a node")

/-- Whether a tag leaves the choice to the text or kind of its node. -/
def isOpenTag (tag : Option String) : Bool := tag.all (· == "!")

def collectionTag (default : Tag) (tag : Option String) : Tag :=
  if isOpenTag tag then default else (tag.map Tag.ofName).getD default

def scalarTag (tag : Option String) (text : Points) (plain : Bool) : Tag :=
  match tag with
  | none => if plain then Tag.ofText (Points.joined text) else .text
  | some "!" => Tag.ofText (Points.joined text)
  | some name => Tag.ofName name

/-- Numbers a node, which its anchor names from now on. -/
def number (anchor : Option String) : Read Nat := do
  match anchor with
  | none => fresh
  | some a =>
    let _ ← peek?
    if Entries.has (← get).anchors a then throw (.secondAnchor a)
    let i ← fresh
    modify fun s => { s with anchors := Entries.put s.anchors a i }
    return i

def findAlias (name : String) : Read Node := do
  match Entries.get? (← get).anchors name with
  | some i => return .alias i
  | none => throw (.undefinedAlias name)

def inBlock : Fault := .parsing "a block node"
def inFlow : Fault := .parsing "a flow node"
def inSequence : Fault := .parsing "a flow sequence"
def inMapping : Fault := .parsing "a flow mapping"
def inBlockSequence : Fault := .parsing "a block collection"
def inBlockMapping : Fault := .parsing "a block mapping"

mutual
/-- A node. In a block it may be a block; as a part of a mapping also a sequence that stands no
further right. -/
def node : Nat → Bool → Bool → Read Node
  | 0, _, _ => throw inBlock
  | fuel + 1, block, indentless => do
    match ← peek? with
    | some (.alias a) =>
      skip
      findAlias a
    | _ =>
      let (anchor, tag) ← properties
      let tag ← tagName tag
      let i ← number anchor
      let n ← content fuel block indentless (anchor.isSome || tag.isSome) i tag
      if anchor.isSome then modify fun s => { s with named := (i, n) :: s.named }
      return n

/-- What stands behind the properties of a node; after properties there may be nothing. -/
def content : Nat → Bool → Bool → Bool → Nat → Option String → Read Node
  | 0, _, _, _, _, _ => throw inBlock
  | fuel + 1, block, indentless, hasProperties, i, tag => do
    let sequenceTag := collectionTag .sequence tag
    let mappingTag := collectionTag .mapping tag
    let missing := if block then inBlock else inFlow
    match ← peek? with
    | some .blockEntry =>
      if indentless then return .sequence i sequenceTag (← indentlessItems fuel)
      else if hasProperties then return .scalar i (scalarTag tag [] true) []
      else throw missing
    | some (.scalar text plain) =>
      skip
      return .scalar i (scalarTag tag text plain) text
    | some .flowSequence =>
      skip
      return .sequence i sequenceTag (← flowItems fuel true)
    | some .flowMapping =>
      skip
      return .mapping i mappingTag (← flowEntries fuel true)
    | t =>
      if block && t == some .blockSequence then
        skip
        return .sequence i sequenceTag (← blockItems fuel)
      else if block && t == some .blockMapping then
        skip
        return .mapping i mappingTag (← blockEntries fuel)
      else if hasProperties then return .scalar i (scalarTag tag [] true) []
      else throw missing

def blockItems : Nat → Read (List Node)
  | 0 => throw inBlock
  | fuel + 1 => do
    if ← take .blockEntry then
      let n ← if ← isNext [.blockEntry, .blockEnd] then empty else node fuel true false
      return n :: (← blockItems fuel)
    else
      expect .blockEnd inBlockSequence
      return []

def indentlessItems : Nat → Read (List Node)
  | 0 => throw inBlock
  | fuel + 1 => do
    if ← take .blockEntry then
      let n ← if ← isNext [.blockEntry, .key, .value, .blockEnd] then empty
        else node fuel true false
      return n :: (← indentlessItems fuel)
    else return []

def blockEntries : Nat → Read (List (Node × Node))
  | 0 => throw inBlock
  | fuel + 1 => do
    if ← take .key then
      let k ← blockPart fuel
      let v ← if ← take .value then blockPart fuel else empty
      return (k, v) :: (← blockEntries fuel)
    else
      expect .blockEnd inBlockMapping
      return []

/-- The key or the value of an entry in a block. -/
def blockPart : Nat → Read Node
  | 0 => throw inBlock
  | fuel + 1 => do
    if ← isNext [.key, .value, .blockEnd] then empty else node fuel true true

def flowItems : Nat → Bool → Read (List Node)
  | 0, _ => throw inFlow
  | fuel + 1, first => do
    if ← take .flowSequenceEnd then return []
    if !first then expect .flowEntry inSequence
    if ← take .flowSequenceEnd then return []
    if ← take .key then
      let k ← flowPart fuel [.value, .flowEntry, .flowSequenceEnd]
      let v ← if ← take .value then flowPart fuel [.flowEntry, .flowSequenceEnd] else empty
      return .mapping (← fresh) .mapping [(k, v)] :: (← flowItems fuel false)
    let n ← node fuel false false
    return n :: (← flowItems fuel false)

def flowEntries : Nat → Bool → Read (List (Node × Node))
  | 0, _ => throw inFlow
  | fuel + 1, first => do
    if ← take .flowMappingEnd then return []
    if !first then expect .flowEntry inMapping
    if ← take .flowMappingEnd then return []
    if ← take .key then
      let k ← flowPart fuel [.value, .flowEntry, .flowMappingEnd]
      let v ← if ← take .value then flowPart fuel [.flowEntry, .flowMappingEnd] else empty
      return (k, v) :: (← flowEntries fuel false)
    let k ← node fuel false false
    return (k, ← empty) :: (← flowEntries fuel false)

/-- The key or the value of an entry between brackets, unless it ends at once. -/
def flowPart : Nat → List Token → Read Node
  | 0, _ => throw inFlow
  | fuel + 1, ends => do
    if ← isNext ends then empty else node fuel false false
end

/-- The directives of a document: at most one version, which has to be a first one, and each
tag handle at most once. -/
def directives : Nat → Bool → Entries String → Read (Entries String)
  | 0, _, handles => return handles
  | fuel + 1, versioned, handles => do
    match ← peek? with
    | some (.directive d) =>
      skip
      match d with
      | .version major _ =>
        if versioned then throw .secondVersion
        else if major != 1 then throw .foreignVersion
        else directives fuel true handles
      | .tag h start =>
        if Entries.has handles h then throw (.secondHandle h)
        else directives fuel versioned (Entries.put handles h start)
      | .other => directives fuel versioned handles
    | _ => return handles

def defaultHandles : Entries String := [("!", "!"), ("!!", Tag.coreRoot)]

def withDefaults (handles : Entries String) : Entries String :=
  handles ++ defaultHandles.filter fun h => !Entries.has handles h.1

/-- Directives and the start of a document. -/
def opening (fuel : Nat) : Read Unit := do
  let handles ← directives fuel false []
  modify fun s => { s with handles := withDefaults handles }
  let found := ((← peek?).map Token.sign).getD "<stream end>"
  expect .documentStart (.noStart found)

def isDirective : Option Token → Bool
  | some (.directive _) => true
  | _ => false

def skipEnds : Nat → Read Unit
  | 0 => return ()
  | fuel + 1 => do
    if ← take .documentEnd then skipEnds fuel

/-- The document behind its start, if it has anything in it. -/
def document (fuel : Nat) : Read Node := do
  let next ← peek?
  if isDirective next || next.isNone || next == some .documentStart
      || next == some .documentEnd then empty
  else node fuel true false

/-- The only document of a text, or none. -/
def stream (fuel : Nat) : Read (Option Node) := do
  let next ← peek?
  if next.isNone then return none
  let explicit := isDirective next || next == some .documentStart
  let n ← if explicit then do
      opening fuel
      document fuel
    else node fuel true false
  let _ ← take .documentEnd
  skipEnds fuel
  if (← peek?).isSome then
    opening fuel
    throw .secondDocument
  return some n

end Node

/-- The document of a text; nothing if the text has none, and an error if it is malformed. -/
def Graph.ofText (s : String) : Except Fault (Option Graph) := do
  let (tokens, fault) := Token.scan s
  let (n, r) ← Node.stream (4 * tokens.length + 8)
    ⟨tokens, fault, Node.defaultHandles, [], [], 0⟩
  return n.map (⟨·, r.named, r.next⟩)

end Subgraph.Yaml
