import Std.Data.HashMap
import Subgraph.Config.Parse
import Subgraph.Text.Lower
import Subgraph.Yaml.Node

/-!
Raw settings from the nodes of a YAML text.

A node stands for one value, however many aliases it has. A collection is filled after everything
around it, in the order in which the collections are met. So of several faults the one counts that
lies least deep, and of those the first.

Before a mapping is filled, the entries that it merges are put before its own, and a key that marks
a value becomes a text; from then on the node is changed for whoever looks at it. Of entries with
one key the last counts, in the place of the first. Only what cannot change can be a key.
-/

namespace Subgraph.Config
open Yaml
open Text (Points)

/-- What a node stands for. The parts of a collection are given by the numbers of their nodes. -/
inductive Built where
  | value (v : Raw)
  | list (items : List Nat)
  | pairs (items : List (Nat × Nat))
  | record (entries : List (Raw × Nat))
  | set (items : List Raw)

/-- The nodes that have names and what is built so far: what nodes stand for, the entries of
mappings that were changed, the keys that became texts, and the collections to be filled, the last
one first. -/
structure Site where
  named : Std.HashMap Nat Node
  built : Std.HashMap Nat Built
  entries : Std.HashMap Nat (List (Node × Node))
  texts : Std.HashMap Nat Unit
  waiting : List Node

abbrev Build (α : Type) := StateT Site (Except ConfigError) α

namespace Build

/-- The kind of node that is wanted for the tag of a collection, if there is one. -/
def collectionName? : Tag → Option String
  | .sequence => some "sequence"
  | .mapping => some "mapping"
  | .set => some "mapping"
  | _ => none

/-- What is wrong with a node of a kind whose tag asks for something else. -/
def misfit (tag : Tag) (found : String) : ConfigError :=
  .unreadable (match tag with
    | .unknown n => .unknownTag n
    | .value => .unknownTag (Tag.coreRoot ++ "value")
    | .merge => .unknownTag (Tag.coreRoot ++ "merge")
    | .orderedMap => .building "an ordered map"
    | .pairs => .building "pairs"
    | t => .wrongKind ((collectionName? t).getD "scalar") found)

def inMapping : ConfigError := .unreadable (.building "a mapping")

def noTimestamp : ConfigError :=
  .badScalar ⟨"AttributeError", "'NoneType' object has no attribute 'groupdict'"⟩

def endless : ConfigError := .badScalar ⟨"RecursionError", "maximum recursion depth exceeded"⟩

def ofTimestamp : Option Timestamp → Except ConfigError Raw
  | none => .error noTimestamp
  | some t =>
    match t.fault? with
    | some m => .error (.badScalar ⟨"ValueError", m⟩)
    | none => .ok (.moment t)

def ofBytes (ps : Points) : Except ConfigError Raw :=
  match Base64.decode ps with
  | .ok bs => .ok (.bytes bs)
  | .error f => .error (.unreadable (.base64 f))

/-- What a text stands for under a tag. -/
def ofText (tag : Tag) (s : String) : Except ConfigError Raw :=
  match tag with
  | .null => .ok .null
  | .text => .ok (.text s)
  | .bool =>
    match Tag.boolWords.lookup (Text.lower s) with
    | some b => .ok (.bool b)
    | none => .error (.badScalar ⟨"KeyError", Text.display (Text.lower s)⟩)
  | .int => ((Number.int s).map Raw.int).mapError .badScalar
  | .float => ((Number.float s).map Raw.float).mapError .badScalar
  | .timestamp => ofTimestamp (Timestamp.read? s)
  | .binary => ofBytes (Points.ofString s)
  | t => .error (misfit t "scalar")

/-- What a text with surrogates stands for under a tag: it is no number and no moment. -/
def ofUnpaired (tag : Tag) (ps : Points) : Except ConfigError Raw :=
  let small := ps.flatMap fun n =>
    if Text.isScalar n then (Text.lowerChar (Char.ofNat n)).map Char.toNat else [n]
  let ungrouped := ps.filter (· != '_'.toNat)
  match tag with
  | .null => .ok .null
  | .text => .ok (.unpaired ps)
  | .bool => .error (.badScalar ⟨"KeyError", Points.display small⟩)
  | .int =>
    .error (.badScalar ⟨"ValueError",
      "invalid literal for int() with base 10: " ++ Points.display ungrouped⟩)
  | .float =>
    .error (.badScalar ⟨"ValueError",
      "could not convert string to float: " ++ Points.display ungrouped⟩)
  | .timestamp => .error noTimestamp
  | .binary => ofBytes ps
  | t => .error (misfit t "scalar")

def ofPoints (tag : Tag) (ps : Points) : Except ConfigError Raw :=
  match Points.string? ps with
  | some s => ofText tag s
  | none => ofUnpaired tag ps

def isScalarTag : Tag → Bool
  | .null => true
  | .bool => true
  | .int => true
  | .float => true
  | .binary => true
  | .timestamp => true
  | .text => true
  | _ => false

/-- The collection without parts that a tag asks for. -/
def hollow? : Tag → Option Built
  | .sequence => some (.list [])
  | .mapping => some (.record [])
  | .set => some (.set [])
  | .orderedMap => some (.pairs [])
  | .pairs => some (.pairs [])
  | _ => none

def kindOf : Node → String
  | .scalar .. => "scalar"
  | .sequence .. => "sequence"
  | .mapping .. => "mapping"
  | .alias _ => "alias"

/-- The node that an alias names; any other node itself. -/
def target (n : Node) : Build Node := do
  match n with
  | .alias i => return (← get).named.getD i n
  | n => return n

/-- The tag of a node, unless it became a text. -/
def tagOf (n : Node) : Build Tag := do
  let own := match n with
    | .scalar _ t _ => t
    | .sequence _ t _ => t
    | .mapping _ t _ => t
    | .alias _ => .text
  return if (← get).texts.contains n.id then .text else own

/-- The entries of a mapping as they are now, given those that were written. -/
def entriesOf (i : Nat) (written : List (Node × Node)) : Build (List (Node × Node)) := do
  return (← get).entries.getD i written

def setEntries (i : Nat) (es : List (Node × Node)) : Build Unit :=
  modify fun s => { s with entries := s.entries.insert i es }

/-- Makes a text of a key that marks a value. -/
def makeText (k : Node) : Build Unit := do
  if (← tagOf k) = .value then modify fun s => { s with texts := s.texts.insert k.id () }

def isMergeKey (k : Node) : Build Bool := do return (← tagOf (← target k)) = .merge

mutual
/-- Puts the entries that a mapping merges before its own. -/
def flatten : Nat → Nat → List (Node × Node) → Build Unit
  | 0, _, _ => throw inMapping
  | fuel + 1, i, written => do
    let es ← entriesOf i written
    if ← es.anyM fun e => isMergeKey e.1 then
      let (_, merged) ← es.foldlM (fun (place, merged) _ => do
        let es ← entriesOf i written
        match es[place]? with
        | none => return (place, merged)
        | some (k, v) =>
          if ← isMergeKey k then
            setEntries i (es.eraseIdx place)
            return (place, merged ++ (← mergeSource fuel (← target v)))
          else
            makeText (← target k)
            return (place + 1, merged)) (0, [])
      setEntries i (merged ++ (← entriesOf i written))
    else es.forM fun e => do makeText (← target e.1)

/-- The entries that a merge takes from a mapping, or from several, of which the first counts
most. -/
def mergeSource : Nat → Node → Build (List (Node × Node))
  | 0, _ => throw inMapping
  | fuel + 1, .mapping i _ es => do
    flatten fuel i es
    entriesOf i es
  | fuel + 1, .sequence _ _ items => do
    let parts ← items.mapM fun n => do
      match ← target n with
      | .mapping i _ es =>
        flatten fuel i es
        entriesOf i es
      | _ => throw inMapping
    return parts.reverse.flatten
  | _, _ => throw inMapping
end

/-- The text of a node where a scalar is wanted: that of a scalar, or of the value that a mapping
says it has. -/
def scalarText : Nat → Node → Build Points
  | 0, _ => throw endless
  | fuel + 1, n => do
    match n with
    | .scalar _ _ ps => return ps
    | .mapping i _ es =>
      match ← (← entriesOf i es).findM? fun e => do return (← tagOf (← target e.1)) = .value with
      | some (_, v) => scalarText fuel (← target v)
      | none => throw (misfit .text "mapping")
    | n => throw (misfit .text (kindOf n))

/-- What a node of a scalar stands for. Only a text of its own can be a timestamp. -/
def scalar (fuel : Nat) (tag : Tag) (n : Node) : Build Raw := do
  let ps ← scalarText fuel n
  match tag, n with
  | .timestamp, .mapping .. =>
    throw (.badScalar ⟨"TypeError", "expected string or bytes-like object, got 'list'"⟩)
  | tag, _ => ofPoints tag ps

/-- The number of a node when it has been built, or of a collection that will be. -/
def node (fuel : Nat) (n : Node) : Build Nat := do
  let n ← target n
  if (← get).built.contains n.id then return n.id
  let tag ← tagOf n
  match hollow? tag with
  | some b =>
    modify fun s => { s with built := s.built.insert n.id b, waiting := n :: s.waiting }
    return n.id
  | none =>
    if isScalarTag tag then
      let v ← scalar fuel tag n
      modify fun s => { s with built := s.built.insert n.id (.value v) }
      return n.id
    else throw (misfit tag (kindOf n))

/-- A key, which has to be a single value. -/
def key (fuel : Nat) (n : Node) : Build Raw := do
  let i ← node fuel n
  match (← get).built.get? i with
  | some (.value v) => return v
  | _ => throw inMapping

/-- The entries of a mapping; the last one of each key, in the place of the first. -/
def entries (fuel i : Nat) (written : List (Node × Node)) : Build (List (Raw × Nat)) := do
  flatten fuel i written
  (← entriesOf i written).foldlM (fun done e => do
    let k ← key fuel e.1
    return Raw.putEntry done k (← node fuel e.2)) []

/-- Mappings with one entry each, as pairs. -/
def pairs (fuel : Nat) (tag : Tag) (items : List Node) : Build (List (Nat × Nat)) :=
  items.mapM fun n => do
    match ← target n with
    | .mapping i _ es =>
      match ← entriesOf i es with
      | [(k, v)] => return (← node fuel k, ← node fuel v)
      | _ => throw (misfit tag "mapping")
    | n => throw (misfit tag (kindOf n))

/-- Fills a collection. -/
def fill (fuel : Nat) (n : Node) : Build Unit := do
  let b ← match ← tagOf n, n with
    | .sequence, .sequence _ _ items => Built.list <$> items.mapM (node fuel)
    | .mapping, .mapping i _ es => Built.record <$> entries fuel i es
    | .set, .mapping i _ es => do pure (Built.set ((← entries fuel i es).map (·.1)))
    | .orderedMap, .sequence _ _ items => Built.pairs <$> pairs fuel .orderedMap items
    | .pairs, .sequence _ _ items => Built.pairs <$> pairs fuel .pairs items
    | tag, n => throw (misfit tag (kindOf n))
  modify fun s => { s with built := s.built.insert n.id b }

/-- Fills the collections that wait, then those that were met meanwhile. -/
def fillAll (fuel : Nat) : Nat → Build Unit
  | 0 => return ()
  | rounds + 1 => do
    let waiting := (← get).waiting.reverse
    if waiting.isEmpty then return ()
    modify fun s => { s with waiting := [] }
    waiting.forM (fill fuel)
    fillAll fuel rounds

/-- Builds a document, and gives the number of its node. -/
def document (g : Graph) : Build Nat := do
  let i ← node (g.size + 1) g.root
  fillAll (g.size + 1) (g.size + 1)
  return i

end Build

namespace Site

def ofGraph (g : Graph) : Site := ⟨Std.HashMap.ofList g.named, {}, {}, {}, []⟩

/-- Values that stand for the same wherever they are. -/
abbrev Known := Std.HashMap Nat Raw

/-- The value of a node inside some collections, and which of those it contains. A collection that
contains itself is named by its number. -/
def value (s : Site) : Nat → List Nat → Nat → StateM Known (Raw × List Nat)
  | 0, _, _ => return (.null, [])
  | fuel + 1, around, i => do
    if around.contains i then
      let isRecord := match s.built.get? i with
        | some (.record _) => true
        | _ => false
      return (.around (toString i) isRecord, [i])
    else if let some v := (← get).get? i then return (v, [])
    else
      let part := s.value fuel (i :: around)
      let (v, inside) ← match s.built.get? i with
        | none => pure (Raw.null, [])
        | some (.value v) => pure (v, [])
        | some (.set vs) => pure (.set vs, [])
        | some (.list items) => do
          let vs ← items.mapM part
          pure (Raw.list (vs.map (·.1)), vs.flatMap (·.2))
        | some (.pairs items) => do
          let vs ← items.mapM fun (a, b) => do pure (← part a, ← part b)
          pure (Raw.list (vs.map fun (a, b) => .tuple [a.1, b.1]),
            vs.flatMap fun (a, b) => a.2 ++ b.2)
        | some (.record es) => do
          let vs ← es.mapM fun (k, j) => do pure (k, ← part j)
          pure (Raw.record (vs.map fun (k, v) => (k, v.1)), vs.flatMap (·.2.2))
      let v := if inside.contains i then Raw.recursive (toString i) v else v
      let outside := (inside.filter (· != i)).eraseDups
      if outside.isEmpty then modify (·.insert i v)
      return (v, outside)

end Site

namespace Raw

/-- What the document of a text stands for. -/
def ofGraph (g : Graph) : Except ConfigError Raw := do
  let (i, s) ← (Build.document g).run (Site.ofGraph g)
  return ((s.value (g.size + 1) [] i).run {}).1.1

/-- The settings in a text; a text without a document has none. -/
def read (text : String) : Except ConfigError Raw :=
  match Graph.ofText text with
  | .error f => .error (.ofFault f)
  | .ok none => .ok .null
  | .ok (some g) => ofGraph g

end Raw
end Subgraph.Config
