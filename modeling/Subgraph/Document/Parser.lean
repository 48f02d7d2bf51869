import Subgraph.Document.Basic
import Subgraph.Document.Token
import Subgraph.Text.Excerpt

/-!
Reading a document from its tokens.

A parser takes tokens from the front of the list and stops at the first one that fits no rule.
A token that could not be scanned is reported when it comes to the front, before anything is
said about the tokens behind it. Loops are bounded by the number of tokens that are left, and
nesting by `Document.deepestNesting`: parsers of nested parts are told how many levels they may
open.
-/

namespace Subgraph

inductive SyntaxFault where
  | scan (e : ScanError)
  | unexpected (found : Lexeme)
  | expected (wanted : String) (found : Lexeme)
  | reservedName (found : Lexeme)
  | constantVariable (name : String)
  | description
  | shorthandDescription
  | nested
  deriving DecidableEq, Repr

def SyntaxFault.message (f : SyntaxFault) : String :=
  "Syntax Error: " ++ match f with
  | .scan e => e.message
  | .unexpected l => "Unexpected " ++ l.described ++ "."
  | .expected w l => "Expected " ++ w ++ ", found " ++ l.described ++ "."
  | .reservedName l => l.described ++ " is reserved and cannot be used for an enum value."
  | .constantVariable n => "Unexpected variable '$" ++ n ++ "' in constant value."
  | .description => "Unexpected description, only GraphQL definitions support descriptions."
  | .shorthandDescription =>
    "Unexpected description, descriptions are not supported on shorthand queries."
  | .nested => "Document is nested too deeply. Parsing aborted."

structure SyntaxError where
  position : Nat
  fault : SyntaxFault
  deriving DecidableEq, Repr

def SyntaxError.message (e : SyntaxError) : String := e.fault.message

/-- What excerpts call the text of a document. -/
def Document.textName : String := "GraphQL request"

/-- The message with the place in the text. -/
def SyntaxError.report (e : SyntaxError) (text : String) : String :=
  e.message ++ "\n\n" ++ Text.excerpt Document.textName text e.position

/-- What a document keeps of the positions in its text. -/
class Marking (μ : Type) where
  ofPosition : Nat → μ

instance : Marking Unit := ⟨fun _ => ()⟩
instance : Marking Nat := ⟨id⟩

abbrev Parser := StateT (List Token) (Except SyntaxError)

namespace Parser

variable {μ : Type} [Marking μ] {α : Type}

def front : Parser Token := do return (← get).headD default

def peek : Parser Lexeme := do return (← front).lexeme

def position : Parser Nat := do return (← front).position

def here : Parser μ := do return Marking.ofPosition (← position)

/-- Stops at the front token. -/
def fail (f : SyntaxFault) : Parser α := do throw ⟨← position, f⟩

/-- The token behind the front one. -/
def lookAhead : Parser Token := do
  match ← get with
  | _ :: ⟨p, .bad e⟩ :: _ => throw ⟨p, .scan e⟩
  | _ :: t :: _ => return t
  | _ => return default

def advance : Parser Unit := do
  match ← get with
  | _ :: ⟨p, .bad e⟩ :: _ => throw ⟨p, .scan e⟩
  | _ :: t :: r => set (t :: r)
  | _ => return ()

def unexpected : Parser α := do fail (.unexpected (← peek))

/-- Says of a token, at the front or not, that it is not expected. -/
def unexpectedToken (t : Token) : Parser α := throw ⟨t.position, .unexpected t.lexeme⟩

def tokensLeft : Parser Nat := do return (← get).length

def expect (p : Punctuation) : Parser Unit := do
  let l ← peek
  if l = .punctuation p then advance
  else fail (.expected (Lexeme.punctuation p).kindName l)

def accept (p : Punctuation) : Parser Bool := do
  if (← peek) = .punctuation p then
    advance
    return true
  else return false

def expectWord (w : String) : Parser Unit := do
  let l ← peek
  if l = .name w then advance else fail (.expected ("'" ++ w ++ "'") l)

def acceptWord (w : String) : Parser Bool := do
  if (← peek) = .name w then
    advance
    return true
  else return false

def name : Parser String := do
  match ← peek with
  | .name s =>
    advance
    return s
  | l => fail (.expected "Name" l)

/-- Items up to a closing mark. -/
def upTo (close : Punctuation) (item : Parser α) : Nat → Parser (List α)
  | 0 => unexpected
  | fuel + 1 => do
    if ← accept close then return []
    let a ← item
    return a :: (← upTo close item fuel)

/-- One item or more between two marks. -/
def many (open' close : Punctuation) (item : Parser α) : Parser (List α) := do
  expect open'
  let a ← item
  return a :: (← upTo close item (← tokensLeft))

/-- As `many`, or nothing. -/
def optionalMany (open' close : Punctuation) (item : Parser α) : Parser (List α) := do
  if (← peek) = .punctuation open' then many open' close item else return []

def separatedFrom (mark : Punctuation) (item : Parser α) : Nat → Parser (List α)
  | 0 => unexpected
  | fuel + 1 => do
    let a ← item
    if ← accept mark then return a :: (← separatedFrom mark item fuel) else return [a]

/-- Items between which the mark stands; it may stand before the first one too. -/
def separated (mark : Punctuation) (item : Parser α) : Parser (List α) := do
  let _ ← accept mark
  separatedFrom mark item (← tokensLeft)

/-- A value that is no list and no object. -/
def plainLiteral (constant : Bool) : Parser (Literal μ) := do
  let m ← here
  match ← peek with
  | .int s =>
    advance
    return .int m s
  | .float s =>
    advance
    return .float m s
  | .string s b =>
    advance
    return .string m s b
  | .name s =>
    advance
    return if s = "true" then .bool m true
      else if s = "false" then .bool m false
      else if s = "null" then .null m
      else .enum m s
  | .punctuation .dollar =>
    let p ← position
    advance
    if constant then
      match ← peek with
      | .name n => throw ⟨p, .constantVariable n⟩
      | _ => throw ⟨p, .unexpected (.punctuation .dollar)⟩
    else return .variable m (← name)
  | _ => unexpected

/-- A value with a number of levels that it may open. -/
def literal (constant : Bool) : Nat → Parser (Literal μ)
  | 0 => do
    match ← peek with
    | .punctuation .bracketLeft => fail .nested
    | .punctuation .braceLeft => fail .nested
    | _ => plainLiteral constant
  | levels + 1 => do
    let m ← here
    match ← peek with
    | .punctuation .bracketLeft =>
      advance
      return .list m (← upTo .bracketRight (literal constant levels) (← tokensLeft))
    | .punctuation .braceLeft =>
      advance
      let field : Parser (μ × String × Literal μ) := do
        let m ← here
        let n ← name
        expect .colon
        return (m, n, ← literal constant levels)
      return .object m (← upTo .braceRight field (← tokensLeft))
    | _ => plainLiteral constant

def argument (constant : Bool) (levels : Nat) : Parser (Argument μ) := do
  let m ← here
  let n ← name
  expect .colon
  return ⟨m, n, ← literal constant levels⟩

def arguments (constant : Bool) (levels : Nat) : Parser (List (Argument μ)) :=
  optionalMany .parenLeft .parenRight (argument constant levels)

def directivesFrom (constant : Bool) (levels : Nat) : Nat → Parser (List (Directive μ))
  | 0 => unexpected
  | fuel + 1 => do
    let m ← here
    if ← accept .atSign then
      let n ← name
      let as ← arguments constant levels
      return ⟨m, n, as⟩ :: (← directivesFrom constant levels fuel)
    else return []

def directivesWithin (constant : Bool) (levels : Nat) : Parser (List (Directive μ)) := do
  directivesFrom constant levels (← tokensLeft)

def directives (constant : Bool) : Parser (List (Directive μ)) :=
  directivesWithin constant Document.deepestNesting

/-- A type with a number of lists that it may open. -/
def typeRefWithin : Nat → Parser TypeRef
  | 0 => do
    if ← accept .bracketLeft then fail .nested
    let t ← .named <$> name
    return if ← accept .bang then .nonNull t else t
  | levels + 1 => do
    let t ← if ← accept .bracketLeft then do
        let t ← typeRefWithin levels
        expect .bracketRight
        pure (.list t)
      else .named <$> name
    return if ← accept .bang then .nonNull t else t

def typeRef : Parser TypeRef := typeRefWithin Document.deepestNesting

def operationKind : Parser OperationKind := do
  match ← peek with
  | .name s =>
    let kind? : Option OperationKind :=
      if s = "query" then some .query
      else if s = "mutation" then some .mutation
      else if s = "subscription" then some .subscription
      else none
    let p ← position
    advance
    match kind? with
    | some k => return k
    | none => throw ⟨p, .unexpected (.name s)⟩
  | l => fail (.expected "Name" l)

/-- The mark of the name inside a type that starts at the front token. -/
def baseMark : Parser μ := do
  let front := (← get).find? fun t => t.lexeme != .punctuation .bracketLeft
  return Marking.ofPosition ((front.map (·.position)).getD 0)

def optionalDefault : Parser (Option (Literal μ)) := do
  if ← accept .equals then some <$> literal true Document.deepestNesting else return none

def description : Parser (Option String) := do
  match ← peek with
  | .string s _ =>
    advance
    return some s
  | _ => return none

def variableDefinition : Parser (VariableDefinition μ) := do
  let mark ← here
  let _ ← description
  expect .dollar
  let nameMark ← here
  let n ← name
  expect .colon
  let typeMark ← here
  let baseMark ← baseMark
  let t ← typeRef
  let d ← optionalDefault
  return ⟨mark, nameMark, n, typeMark, baseMark, t, d, ← directives true⟩

def fragmentName : Parser String := do
  if (← peek).value? = some "on" then unexpected else name

/-- A selection that may open a number of levels, its own selections read by `body`. -/
def selectionWith (levels : Nat) (body : Parser (List (Selection μ))) : Parser (Selection μ) := do
  let m ← here
  if ← accept .spread then
    if ← acceptWord "on" then
      let cm ← here
      let c ← name
      let ds ← directivesWithin false levels
      return .inline m (some (cm, c)) ds (← body)
    match ← peek with
    | .name _ =>
      let nm ← here
      let n ← fragmentName
      return .spread m nm n (← directivesWithin false levels)
    | _ =>
      let ds ← directivesWithin false levels
      return .inline m none ds (← body)
  else
    let first ← name
    let (label?, n) ← if ← accept .colon then pure (some first, ← name) else pure (none, first)
    let as ← arguments false levels
    let ds ← directivesWithin false levels
    if (← peek) = .punctuation .braceLeft then
      let bm ← here
      return .field m label? n as ds bm (← body)
    else return .field m label? n as ds m []

/-- A brace that would open a level too many. -/
def noSelections : Parser (List (Selection μ)) := do
  if (← peek) = .punctuation .braceLeft then fail .nested
  expect .braceLeft
  return []

def selection : Nat → Parser (Selection μ)
  | 0 => selectionWith 0 noSelections
  | levels + 1 =>
    selectionWith (levels + 1) (many .braceLeft .braceRight (selection levels))

def selectionSet : Parser (List (Selection μ)) :=
  many .braceLeft .braceRight (selection (Document.deepestNesting - 1))

def operation : Parser (Operation μ) := do
  let m ← here
  if (← peek) = .punctuation .braceLeft then
    return ⟨m, .query, none, [], [], ← selectionSet⟩
  let _ ← description
  let kind ← operationKind
  let nameMark ← here
  let n ← match ← peek with
    | .name _ => some <$> name
    | _ => pure none
  let vs ← optionalMany .parenLeft .parenRight variableDefinition
  let ds ← directives false
  return ⟨m, kind, n.map (nameMark, ·), vs, ds, ← selectionSet⟩

def fragment : Parser (Fragment μ) := do
  let m ← here
  let _ ← description
  expectWord "fragment"
  let nm ← here
  let n ← fragmentName
  expectWord "on"
  let cm ← here
  let c ← name
  let ds ← directives false
  return ⟨m, nm, n, cm, c, ds, ← selectionSet⟩

def inputDefinition : Parser (InputDefinition μ) := do
  let desc ← description
  let n ← name
  expect .colon
  let t ← typeRef
  let d ← optionalDefault
  return ⟨desc, n, t, d, ← directives true⟩

def argumentDefinitions : Parser (List (InputDefinition μ)) :=
  optionalMany .parenLeft .parenRight inputDefinition

def fieldDefinition : Parser (FieldDefinition μ) := do
  let desc ← description
  let n ← name
  let as ← argumentDefinitions
  expect .colon
  let t ← typeRef
  return ⟨desc, n, as, t, ← directives true⟩

def fieldDefinitions : Parser (List (FieldDefinition μ)) :=
  optionalMany .braceLeft .braceRight fieldDefinition

def interfaces : Parser (List String) := do
  if ← acceptWord "implements" then separated .ampersand name else return []

def unionMembers : Parser (List String) := do
  if ← accept .equals then separated .pipe name else return []

def reservedWords : List String := ["true", "false", "null"]

def enumValueDefinition : Parser (EnumValueDefinition μ) := do
  let desc ← description
  let l ← peek
  if l.value?.any reservedWords.contains then fail (.reservedName l)
  let n ← name
  return ⟨desc, n, ← directives true⟩

def enumValueDefinitions : Parser (List (EnumValueDefinition μ)) :=
  optionalMany .braceLeft .braceRight enumValueDefinition

def inputFields : Parser (List (InputDefinition μ)) :=
  optionalMany .braceLeft .braceRight inputDefinition

def operationType : Parser (OperationKind × String) := do
  let kind ← operationKind
  expect .colon
  return (kind, ← name)

def directiveLocations : List String :=
  ["QUERY", "MUTATION", "SUBSCRIPTION", "FIELD", "FRAGMENT_DEFINITION", "FRAGMENT_SPREAD",
   "VARIABLE_DEFINITION", "INLINE_FRAGMENT", "SCHEMA", "SCALAR", "OBJECT", "FIELD_DEFINITION",
   "ARGUMENT_DEFINITION", "INTERFACE", "UNION", "ENUM", "ENUM_VALUE", "INPUT_OBJECT",
   "INPUT_FIELD_DEFINITION", "DIRECTIVE_DEFINITION"]

def directiveLocation : Parser String := do
  let p ← position
  let n ← name
  if directiveLocations.contains n then return n else throw ⟨p, .unexpected (.name n)⟩

def directiveDefinition (mark : μ) (desc : Option String) : Parser (DirectiveDefinition μ) := do
  expectWord "directive"
  expect .atSign
  let n ← name
  let as ← argumentDefinitions
  let repeatable ← acceptWord "repeatable"
  expectWord "on"
  return ⟨mark, desc, n, as, repeatable, ← separated .pipe directiveLocation⟩

/-- The rest of a type definition or extension, from its first word on. -/
def typeDefinition (mark : μ) (word : String) : Parser (TypeDefinition μ) := do
  expectWord word
  let n ← name
  match word with
  | "type" =>
    let is ← interfaces
    let ds ← directives true
    return ⟨mark, n, ds, .object is (← fieldDefinitions)⟩
  | "interface" =>
    let is ← interfaces
    let ds ← directives true
    return ⟨mark, n, ds, .interface is (← fieldDefinitions)⟩
  | "union" =>
    let ds ← directives true
    return ⟨mark, n, ds, .union (← unionMembers)⟩
  | "enum" =>
    let ds ← directives true
    return ⟨mark, n, ds, .enum (← enumValueDefinitions)⟩
  | "input" =>
    let ds ← directives true
    return ⟨mark, n, ds, .input (← inputFields)⟩
  | _ => return ⟨mark, n, ← directives true, .scalar⟩

def typeWords : List String := ["scalar", "type", "interface", "union", "enum", "input"]

/-- Whether a definition says nothing but its name. -/
def isBare (d : TypeDefinition μ) : Bool :=
  d.directives.isEmpty && match d.body with
  | .scalar => true
  | .object is fs => is.isEmpty && fs.isEmpty
  | .interface is fs => is.isEmpty && fs.isEmpty
  | .union ms => ms.isEmpty
  | .enum vs => vs.isEmpty
  | .input fs => fs.isEmpty

def extension (mark : μ) : Parser (Definition μ) := do
  let t ← lookAhead
  match t.lexeme with
  | .name w =>
    if w = "schema" then
      advance
      expectWord "schema"
      let ds ← directives true
      let os ← optionalMany .braceLeft .braceRight operationType
      if ds.isEmpty && os.isEmpty then unexpected else return .extendSchema ⟨mark, ds, os⟩
    else if typeWords.contains w then
      advance
      let d ← typeDefinition mark w
      if isBare d then unexpected else return .extendType d
    else unexpectedToken t
  | _ => unexpectedToken t

def definition : Parser (Definition μ) := do
  let mark ← here
  let described := match ← peek with
    | .string .. => true
    | _ => false
  let key ← if described then lookAhead else front
  match key.lexeme with
  | .punctuation .braceLeft =>
    if described then fail .shorthandDescription else return .operation (← operation)
  | .name w =>
    if w = "schema" then
      let desc ← description
      expectWord w
      let ds ← directives true
      return .schema desc ⟨mark, ds, ← many .braceLeft .braceRight operationType⟩
    else if typeWords.contains w then
      let desc ← description
      return .type desc (← typeDefinition mark w)
    else if w = "directive" then
      let desc ← description
      return .directive (← directiveDefinition mark desc)
    else if w = "query" || w = "mutation" || w = "subscription" then
      return .operation (← operation)
    else if w = "fragment" then return .fragment (← fragment)
    else if described then fail .description
    else if w = "extend" then extension mark
    else unexpectedToken key
  | _ => unexpectedToken key

/-- Definitions up to the end of the text. -/
def definitions : Nat → Parser (Document μ)
  | 0 => unexpected
  | fuel + 1 => do
    let d ← definition
    if (← peek) = .finish then return [d] else return d :: (← definitions fuel)

/-- Runs a parser on a text. -/
def run (p : Parser α) (s : String) : Except SyntaxError α :=
  match Token.scan s with
  | ⟨p, .bad e⟩ :: _ => .error ⟨p, .scan e⟩
  | ts => (StateT.run p ts).map (·.1)

end Parser

def Document.parse (μ : Type) [Marking μ] (s : String) : Except SyntaxError (Document μ) :=
  Parser.run (do Parser.definitions (← Parser.tokensLeft)) s

end Subgraph
