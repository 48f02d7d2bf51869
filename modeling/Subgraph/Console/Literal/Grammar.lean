import Subgraph.Console.Literal.Syntax

/-!
The grammar of expressions.

A rule has alternatives, and the first that fits is taken; there is no way back into a rule behind
its end. Some alternatives are there to say what is wrong with a text, and most of them are only
looked at once it is known that something is.
-/

namespace Subgraph.Console.Literal

inductive Rule where
  | input
  | template
  | expressions
  | expression
  | plainExpression
  | yielded
  | starExpressions
  | starExpression
  | items
  | item
  | binding
  | namedExpression
  | disjunction
  | conjunction
  | inversion
  | comparison
  | comparisonTail
  | bitOr
  | bitXor
  | bitAnd
  | shift
  | sum
  | term
  | factor
  | power
  | awaited
  | primary
  | atom
  | texts
  | group
  | lambda
  | parameters
  | parameterList
  | slashPlain
  | slashDefaults
  | starParameters
  | entryParameters
  | plainParameter
  | defaultParameter
  | someParameter
  | defaultValue
  | tuple
  | generator
  | set
  | dict
  | entries
  | entry
  | pair
  | clauses
  | clause
  | setComprehension
  | dictComprehension
  | arguments
  | argumentList
  | namedArguments
  | starredArgument
  | namedOrStarred
  | namedOrEntries
  | targets
  | target
  | wholeTarget
  | targetAtom
  | targetTuple
  | targetPrimary
  | targetAhead
  | wrongExpression
  | bareCall
  | wrongBinding
  | wrongGroup
  | wrongComprehension
  | wrongDictComprehension
  | wrongParameters
  | defaultsBefore
  | wrongStarParameters
  | wrongEntryParameters
  | wrongDefault
  | wrongEntries
  | wrongPair
  | wrongTarget
  | wrongArguments
  | wrongArgument
  deriving BEq, Hashable, Repr

/-- A part of an alternative. -/
inductive Part where
  | rule (r : Rule)
  | sign (s : String)
  | keyword (s : String)
  | name
  | number
  | quoted
  /-- A name that can be a keyword elsewhere. -/
  | softKeyword
  | lineEnd
  | finish
  | optional (p : Part)
  | many (p : Part)
  | some (p : Part)
  /-- One or more, with commas between them. -/
  | separated (p : Part)
  | ahead (p : Part)
  | notAhead (p : Part)
  | oneOf (ps : List Part)
  | row (ps : List Part)
  /-- Behind it there are no more alternatives. -/
  | cut

/-- What comes of an alternative that fits. -/
inductive Outcome where
  | gives (es : List Expr)
  /-- The rule does not fit, and its other alternatives are not looked at. -/
  | fails
  | faults (m : Misuse)
  /-- A fault if brackets are open there. -/
  | faultsWithin (m : Misuse)
  /-- Texts side by side that are put together. -/
  | reads (qs : List Quoted)

/-- An alternative of a rule: its parts and what comes of the expressions that they give. One that
is a check is only looked at when it is known that something is wrong. -/
structure Alternative where
  parts : List Part
  give : List Expr → Outcome
  isCheck : Bool

namespace Rule

def alt (parts : List Part) (give : List Expr → Outcome) : Alternative := ⟨parts, give, false⟩

/-- Gives what its parts give. -/
def pass (parts : List Part) : Alternative := ⟨parts, .gives, false⟩

def check (r : Rule) : Alternative := ⟨[.rule r], .gives, true⟩

def wrong (parts : List Part) (m : Misuse) : Alternative := ⟨parts, fun _ => .faults m, false⟩

/-- Gives an expression of a kind. -/
def other (kind : String) : List Expr → Outcome := fun _ => .gives [.other kind]

def constant (c : Constant) : List Expr → Outcome := fun _ => .gives [.constant c]

def word (s : String) : Alternative := alt [.keyword s] (constant (.word s))

def one (f : Expr → Expr) : List Expr → Outcome
  | [e] => .gives [f e]
  | _ => .fails

def binary (left : Rule) (sign : String) (right : Rule) : Alternative :=
  alt [.rule left, .sign sign, .rule right] fun
    | [a, b] => .gives [.binary sign a b]
    | _ => .fails

/-- A fault that names the kind of the first expression. -/
def wrongKind (f : String → Misuse) : List Expr → Outcome
  | e :: _ => .faults (f e.kind)
  | [] => .fails

/-- One or more of a kind, or a tuple if there is a comma behind one. -/
def tupleOf (r : Rule) : List Alternative :=
  [alt [.rule r, .some (.row [.sign ",", .rule r]), .optional (.sign ",")]
      fun es => .gives [.tuple es],
   alt [.rule r, .sign ","] fun es => .gives [.tuple es],
   pass [.rule r]]

/-- An argument by place that is not starred. -/
def bareArgument : Part :=
  .row [.oneOf [.rule .binding, .row [.rule .expression, .notAhead (.sign ":=")]],
    .notAhead (.sign "=")]

def callOf (es : List Expr) : Expr :=
  .call none (es.filter (!·.isArgument)) (es.filter Expr.isArgument)

/-- What is wrong with arguments behind which there are more. -/
def lateArgument : List Expr → Outcome
  | .call _ _ named :: _ =>
    .faults (.positional (named.any fun
      | .argument isNamed => !isNamed
      | _ => false))
  | _ => .fails

/-- A generator without brackets behind other arguments. -/
def bareGenerator : List Expr → Outcome
  | .call _ placed _ :: _ => if placed.length ≤ 1 then .fails else .faults .bareGenerator
  | _ => .fails

/-- A call of something with arguments, if there are any. -/
def called : List Expr → Outcome
  | [f, .call _ placed named] => .gives [.call (some f) placed named]
  | [f] => .gives [.call (some f) [] []]
  | _ => .fails

/-- What stands behind a parameter: a comma, or the colon that ends the list. -/
def parameterEnds (parts : List Part) : List Alternative :=
  [alt (parts ++ [.sign ","]) fun _ => .gives [],
   alt (parts ++ [.ahead (.sign ":")]) fun _ => .gives []]

def slashes : Part := .oneOf [.rule .slashPlain, .rule .slashDefaults]

/-- The alternatives of a rule, in order. -/
def alternatives : Rule → List Alternative
  | .input => [pass [.rule .expressions, .many .lineEnd, .finish]]
  | .template => [pass [.rule .starExpressions]]
  | .expressions => tupleOf .expression
  | .expression =>
    [check .wrongExpression, check .bareCall,
     alt [.rule .disjunction, .keyword "if", .rule .disjunction, .keyword "else", .rule .expression]
       (other "conditional expression"),
     pass [.rule .disjunction], pass [.rule .lambda]]
  | .plainExpression =>
    [alt [.rule .disjunction, .keyword "if", .rule .disjunction, .keyword "else", .rule .expression]
       (other "conditional expression"),
     pass [.rule .disjunction], pass [.rule .lambda]]
  | .yielded =>
    [alt [.keyword "yield", .keyword "from", .rule .expression] (other "yield expression"),
     alt [.keyword "yield", .optional (.rule .starExpressions)] (other "yield expression")]
  | .starExpressions => tupleOf .starExpression
  | .starExpression =>
    [alt [.sign "*", .rule .bitOr] (one .starred), pass [.rule .expression]]
  | .items => [pass [.separated (.rule .item), .optional (.sign ",")]]
  | .item => [alt [.sign "*", .rule .bitOr] (one .starred), pass [.rule .namedExpression]]
  | .binding =>
    [alt [.name, .sign ":=", .cut, .rule .expression] (other "named expression")]
  | .namedExpression =>
    [pass [.rule .binding], check .wrongBinding, pass [.rule .expression, .notAhead (.sign ":=")]]
  | .disjunction =>
    [alt [.rule .conjunction, .some (.row [.keyword "or", .rule .conjunction])]
       (other "expression"),
     pass [.rule .conjunction]]
  | .conjunction =>
    [alt [.rule .inversion, .some (.row [.keyword "and", .rule .inversion])] (other "expression"),
     pass [.rule .inversion]]
  | .inversion =>
    [alt [.keyword "not", .rule .inversion] (one (.unary "not")), pass [.rule .comparison]]
  | .comparison =>
    [alt [.rule .bitOr, .some (.rule .comparisonTail)] (fun
       | e :: .comparison isMembership _ :: _ => .gives [.comparison isMembership e]
       | _ => .fails),
     pass [.rule .bitOr]]
  | .comparisonTail =>
    let tail := fun parts isMembership =>
      alt (parts ++ [.rule .bitOr]) (one (.comparison isMembership))
    [tail [.sign "=="] false, tail [.sign "!="] false, tail [.sign "<="] false,
     tail [.sign "<"] false, tail [.sign ">="] false, tail [.sign ">"] false,
     tail [.keyword "not", .keyword "in"] false, tail [.keyword "in"] true,
     tail [.keyword "is", .keyword "not"] false, tail [.keyword "is"] false]
  | .bitOr => [binary .bitOr "|" .bitXor, pass [.rule .bitXor]]
  | .bitXor => [binary .bitXor "^" .bitAnd, pass [.rule .bitAnd]]
  | .bitAnd => [binary .bitAnd "&" .shift, pass [.rule .shift]]
  | .shift => [binary .shift "<<" .sum, binary .shift ">>" .sum, pass [.rule .sum]]
  | .sum => [binary .sum "+" .term, binary .sum "-" .term, pass [.rule .term]]
  | .term =>
    ["*", "/", "//", "%", "@"].map (binary .term · .factor) ++ [pass [.rule .factor]]
  | .factor =>
    ["+", "-", "~"].map (fun s => alt [.sign s, .rule .factor] (one (.unary s)))
      ++ [pass [.rule .power]]
  | .power => [binary .awaited "**" .factor, pass [.rule .awaited]]
  | .awaited =>
    [alt [.keyword "await", .rule .primary] (other "await expression"), pass [.rule .primary]]
  | .primary =>
    [alt [.rule .primary, .sign ".", .name] fun _ => .gives [.attribute],
     alt [.rule .primary, .rule .generator] fun
       | [f, e] => .gives [.call (some f) [e] []]
       | _ => .fails,
     alt [.rule .primary, .sign "(", .optional (.rule .arguments), .sign ")"] called,
     pass [.rule .atom]]
  | .atom =>
    [pass [.name], word "True", word "False", word "None",
     pass [.ahead .quoted, .rule .texts], pass [.number],
     pass [.ahead (.sign "("), .oneOf [.rule .tuple, .rule .group, .rule .generator]],
     pass [.ahead (.sign "\x7b"),
       .oneOf [.rule .dict, .rule .set, .rule .dictComprehension, .rule .setComprehension]],
     alt [.sign "..."] (constant .ellipsis)]
  | .texts =>
    [alt [.some .quoted] fun es => .reads (es.filterMap fun
      | .quoted q => some q
      | _ => none)]
  | .group =>
    [pass [.sign "(", .oneOf [.rule .yielded, .rule .namedExpression], .sign ")"],
     check .wrongGroup]
  | .lambda =>
    [alt [.keyword "lambda", .optional (.rule .parameters), .sign ":", .rule .expression]
      (other "lambda")]
  | .parameters => [check .wrongParameters, pass [.rule .parameterList]]
  | .parameterList =>
    let star := Part.optional (.rule .starParameters)
    [pass [.rule .slashPlain, .many (.rule .plainParameter), .many (.rule .defaultParameter), star],
     pass [.rule .slashDefaults, .many (.rule .defaultParameter), star],
     pass [.some (.rule .plainParameter), .many (.rule .defaultParameter), star],
     pass [.some (.rule .defaultParameter), star],
     pass [.rule .starParameters]]
  | .slashPlain => parameterEnds [.some (.rule .plainParameter), .sign "/"]
  | .slashDefaults =>
    parameterEnds [.many (.rule .plainParameter), .some (.rule .defaultParameter), .sign "/"]
  | .starParameters =>
    let entries := Part.optional (.rule .entryParameters)
    [check .wrongStarParameters,
     pass [.sign "*", .rule .plainParameter, .many (.rule .someParameter), entries],
     pass [.sign "*", .sign ",", .some (.rule .someParameter), entries],
     pass [.rule .entryParameters]]
  | .entryParameters =>
    [check .wrongEntryParameters, pass [.sign "**", .rule .plainParameter]]
  | .plainParameter => parameterEnds [.name]
  | .defaultParameter => parameterEnds [.name, .rule .defaultValue]
  | .someParameter => parameterEnds [.name, .optional (.rule .defaultValue)]
  | .defaultValue => [pass [.sign "=", .rule .expression], check .wrongDefault]
  | .tuple =>
    [alt [.sign "(", .optional (.row [.rule .item, .sign ",", .optional (.rule .items)]), .sign ")"]
      fun es => .gives [.tuple es]]
  | .generator =>
    [alt [.sign "(", .oneOf [.rule .binding, .row [.rule .expression, .notAhead (.sign ":=")]],
       .rule .clauses, .sign ")"] (other "generator expression"),
     check .wrongComprehension]
  | .set =>
    [alt [.sign "\x7b", .rule .items, .sign "\x7d"] fun es => .gives [.set es]]
  | .dict =>
    [alt [.sign "\x7b", .optional (.rule .entries), .sign "\x7d"] fun es => .gives [.dict es],
     pass [.sign "\x7b", .rule .wrongEntries, .sign "\x7d"]]
  | .entries => [pass [.separated (.rule .entry), .optional (.sign ",")]]
  | .entry => [alt [.sign "**", .rule .bitOr] (one (.entry none)), pass [.rule .pair]]
  | .pair =>
    [alt [.rule .expression, .sign ":", .rule .expression] fun
      | [k, v] => .gives [.entry (some k) v]
      | _ => .fails]
  | .clauses => [pass [.some (.rule .clause)]]
  | .clause =>
    let rest : List Part :=
      [.keyword "for", .rule .targets, .keyword "in", .cut, .rule .disjunction,
       .many (.row [.keyword "if", .rule .disjunction])]
    [alt (.keyword "async" :: rest) fun _ => .gives [], alt rest fun _ => .gives [],
     check .wrongTarget]
  | .setComprehension =>
    [alt [.sign "\x7b", .rule .namedExpression, .rule .clauses, .sign "\x7d"]
       (other "set comprehension"),
     check .wrongComprehension]
  | .dictComprehension =>
    [alt [.sign "\x7b", .rule .pair, .rule .clauses, .sign "\x7d"] (other "dict comprehension"),
     check .wrongDictComprehension]
  | .arguments =>
    [pass [.rule .argumentList, .optional (.sign ","), .ahead (.sign ")")], check .wrongArguments]
  | .argumentList =>
    [alt [.separated (.oneOf [.rule .starredArgument, bareArgument]),
       .optional (.row [.sign ",", .rule .namedArguments])] fun es => .gives [callOf es],
     alt [.rule .namedArguments] fun es => .gives [callOf es]]
  | .namedArguments =>
    [pass [.separated (.rule .namedOrStarred), .sign ",", .separated (.rule .namedOrEntries)],
     pass [.separated (.rule .namedOrStarred)], pass [.separated (.rule .namedOrEntries)]]
  | .starredArgument => [alt [.sign "*", .rule .expression] (one .starred)]
  | .namedOrStarred =>
    [check .wrongArgument,
     alt [.name, .sign "=", .rule .expression] fun _ => .gives [.argument true],
     pass [.rule .starredArgument]]
  | .namedOrEntries =>
    [check .wrongArgument,
     alt [.name, .sign "=", .rule .expression] fun _ => .gives [.argument true],
     alt [.sign "**", .rule .expression] fun _ => .gives [.argument false]]
  | .targets =>
    [pass [.rule .target, .notAhead (.sign ",")],
     pass [.rule .target, .many (.row [.sign ",", .rule .target]), .optional (.sign ",")]]
  | .target =>
    [pass [.sign "*", .row [.notAhead (.sign "*"), .rule .target]], pass [.rule .wholeTarget]]
  | .wholeTarget =>
    [pass [.rule .targetPrimary, .sign ".", .name, .notAhead (.rule .targetAhead)],
     pass [.rule .targetAtom]]
  | .targetAtom =>
    [pass [.name], pass [.sign "(", .rule .wholeTarget, .sign ")"],
     pass [.sign "(", .optional (.rule .targetTuple), .sign ")"]]
  | .targetTuple =>
    [pass [.rule .target, .some (.row [.sign ",", .rule .target]), .optional (.sign ",")],
     pass [.rule .target, .sign ","]]
  | .targetPrimary =>
    let more := Part.ahead (.rule .targetAhead)
    [pass [.rule .targetPrimary, .sign ".", .name, more],
     pass [.rule .targetPrimary, .rule .generator, more],
     pass [.rule .targetPrimary, .sign "(", .optional (.rule .arguments), .sign ")", more],
     pass [.rule .atom, more]]
  | .targetAhead => [pass [.sign "("], pass [.sign "."]]
  | .wrongExpression =>
    [alt [.notAhead (.oneOf [.row [.name, .quoted], .softKeyword]), .rule .disjunction,
       .rule .plainExpression]
       fun es => if es.head?.any Expr.isBareFunction then .fails else .faultsWithin .missingComma,
     wrong [.rule .disjunction, .keyword "if", .rule .disjunction,
       .notAhead (.oneOf [.keyword "else", .sign ":"])] .missingElse]
  | .bareCall =>
    [alt [.name, .notAhead (.sign "("), .rule .starExpressions] fun
      | .name s :: _ => if (Expr.name s).isBareFunction then .faults (.bareCall s) else .fails
      | _ => .fails]
  | .wrongBinding =>
    let assigned := Part.notAhead (.oneOf [.sign "=", .sign ":="])
    [alt [.rule .expression, .sign ":=", .rule .expression] (wrongKind .bindingOf),
     wrong [.name, .sign "=", .rule .bitOr, assigned] .comparisonMeant,
     alt [.notAhead (.oneOf [.rule .tuple, .rule .generator, .keyword "True", .keyword "None",
         .keyword "False"]), .rule .bitOr, .sign "=", .rule .bitOr, assigned]
       (wrongKind .assignment)]
  | .wrongGroup =>
    [wrong [.sign "(", .rule .starredArgument, .sign ")"] .starred,
     wrong [.sign "(", .sign "**", .rule .expression, .sign ")"] .doubleStarred]
  | .wrongComprehension =>
    let brace := Part.sign "\x7b"
    [wrong [.oneOf [.sign "(", brace], .rule .starredArgument, .rule .clauses] .unpackedParts,
     wrong [brace, .rule .item, .sign ",", .rule .items, .rule .clauses] .bareTarget,
     wrong [brace, .rule .item, .sign ",", .rule .clauses] .bareTarget]
  | .wrongDictComprehension =>
    [wrong [.sign "\x7b", .sign "**", .rule .bitOr, .rule .clauses, .sign "\x7d"] .unpackedEntries]
  | .wrongParameters =>
    let more := Part.many (.rule .someParameter)
    [wrong [.many (.rule .plainParameter), .rule .defaultsBefore, .rule .plainParameter]
       .defaultBefore,
     wrong [.many (.rule .plainParameter), .sign "(", .separated .name, .optional (.sign ","),
       .sign ")"] .bracketedParameters,
     wrong [.sign "/", .sign ","] .noneBeforeSlash,
     wrong [slashes, more, .sign "/"] .secondSlash,
     wrong [.optional slashes, more, .sign "*", .oneOf [.sign ",", .rule .plainParameter], more,
       .sign "/"] .slashAfterStar,
     wrong [.some (.rule .someParameter), .sign "/", .sign "*"] .slashThenStar]
  | .defaultsBefore =>
    [pass [.rule .slashDefaults], pass [.some (.rule .defaultParameter)]]
  | .wrongStarParameters =>
    let next := Part.oneOf [.rule .plainParameter, .sign ","]
    [wrong [.sign "*", .oneOf [.sign ":",
       .row [.sign ",", .oneOf [.sign ":", .sign "**"]]]] .noneAfterStar,
     wrong [.sign "*", .name, .sign "="] .defaultOfStar,
     wrong [.sign "*", next, .many (.rule .someParameter), .sign "*", next] .secondStar]
  | .wrongEntryParameters =>
    [wrong [.sign "**", .name, .sign "="] .defaultOfEntries,
     wrong [.sign "**", .name, .sign ",", .name] .afterEntries,
     wrong [.sign "**", .name, .sign ",", .oneOf [.sign "*", .sign "**", .sign "/"]] .afterEntries]
  | .wrongDefault =>
    [wrong [.sign "=", .ahead (.oneOf [.sign ")", .sign ","])] .missingDefault]
  | .wrongEntries =>
    [pass [.separated (.rule .entry), .sign ",", .rule .wrongPair],
     wrong [.rule .expression, .sign ":", .sign "*", .rule .bitOr] .starredValue,
     wrong [.rule .expression, .sign ":", .ahead (.oneOf [.sign "\x7d", .sign ","])] .missingValue]
  | .wrongPair =>
    [wrong [.rule .expression, .notAhead (.sign ":")] .missingColon,
     wrong [.rule .expression, .sign ":", .sign "*", .rule .bitOr] .starredValue,
     wrong [.rule .expression, .sign ":", .ahead (.oneOf [.sign "\x7d", .sign ","])] .missingValue]
  | .wrongTarget =>
    [alt [.optional (.keyword "async"), .keyword "for", .rule .starExpressions] fun
      | e :: _ =>
        match e.badTarget? with
        | some t => .faults (.assignmentTo t.kind)
        | none => .fails
      | [] => .fails]
  | .wrongArguments =>
    let generator : List Part := [.rule .expression, .rule .clauses]
    [wrong [.rule .argumentList, .sign ",", .sign "*"] .itemsAfterEntries,
     wrong (generator ++ [.sign ",", .optional (.oneOf [.rule .argumentList, .row generator])])
       .bareGenerator,
     wrong ([.name, .sign "="] ++ generator) .comparisonMeant,
     alt [.rule .argumentList, .rule .clauses] bareGenerator,
     wrong ([.rule .argumentList, .sign ","] ++ generator) .bareGenerator,
     alt [.rule .argumentList, .sign ",", .rule .argumentList] lateArgument]
  | .wrongArgument =>
    [alt [.oneOf (["True", "False", "None"].map fun s => .row [.ahead (.keyword s), .rule .atom]),
       .sign "="] (wrongKind .assignmentTo),
     wrong [.name, .sign "=", .rule .expression, .rule .clauses] .comparisonMeant,
     wrong [.notAhead (.row [.name, .sign "="]), .rule .expression, .sign "="] .namedExpression]

/-- The rules whose results are kept, by where they start. -/
def kept : List Rule :=
  [.expression, .starExpression, .disjunction, .conjunction, .inversion, .factor, .awaited, .texts,
   .wrongBinding, .arguments, .target, .wholeTarget]

/-- The rules that begin with themselves. They are read again as long as they grow. -/
def leftRecursive : List Rule :=
  [.bitOr, .bitXor, .bitAnd, .shift, .sum, .term, .primary, .targetPrimary]

end Rule
end Subgraph.Console.Literal
