import Subgraph.Decimal.Numeral
import Subgraph.Text.Chars
import Subgraph.Text.Printable

/-!
What can be wrong with a text that should be a literal value: its characters, its numbers and
quotes, its brackets, its form, and what it stands for.
-/

namespace Subgraph.Console.Literal

/-- What is wrong with the form of a text beyond its being wrong. A kind is the name of what stands
where it may not. -/
inductive Misuse where
  | missingComma
  | missingElse
  | comparisonMeant
  | assignment (kind : String)
  | assignmentTo (kind : String)
  | bindingOf (kind : String)
  | bareCall (function : String)
  | starred
  | doubleStarred
  | starredValue
  | missingValue
  | missingColon
  | missingDefault
  | unpackedParts
  | unpackedEntries
  | bareTarget
  | bareGenerator
  | itemsAfterEntries
  | positional (isLate : Bool)
  | namedExpression
  | defaultBefore
  | bracketedParameters
  | noneBeforeSlash
  | secondSlash
  | slashAfterStar
  | slashThenStar
  | noneAfterStar
  | defaultOfStar
  | secondStar
  | defaultOfEntries
  | afterEntries
  deriving DecidableEq, Repr

def Misuse.message : Misuse → String
  | .missingComma => "invalid syntax. Perhaps you forgot a comma?"
  | .missingElse => "expected 'else' after 'if' expression"
  | .comparisonMeant => "invalid syntax. Maybe you meant '==' or ':=' instead of '='?"
  | .assignment k => "cannot assign to " ++ k ++ " here. Maybe you meant '==' instead of '='?"
  | .assignmentTo k => "cannot assign to " ++ k
  | .bindingOf k => "cannot use assignment expressions with " ++ k
  | .bareCall f =>
    "Missing parentheses in call to '" ++ f ++ "'. Did you mean " ++ f ++ "(...)?"
  | .starred => "cannot use starred expression here"
  | .doubleStarred => "cannot use double starred expression here"
  | .starredValue => "cannot use a starred expression in a dictionary value"
  | .missingValue => "expression expected after dictionary key and ':'"
  | .missingColon => "':' expected after dictionary key"
  | .missingDefault => "expected default value expression"
  | .unpackedParts => "iterable unpacking cannot be used in comprehension"
  | .unpackedEntries => "dict unpacking cannot be used in dict comprehension"
  | .bareTarget => "did you forget parentheses around the comprehension target?"
  | .bareGenerator => "Generator expression must be parenthesized"
  | .itemsAfterEntries => "iterable argument unpacking follows keyword argument unpacking"
  | .positional isLate =>
    "positional argument follows keyword argument" ++ (if isLate then " unpacking" else "")
  | .namedExpression => "expression cannot contain assignment, perhaps you meant \"==\"?"
  | .defaultBefore => "non-default argument follows default argument"
  | .bracketedParameters => "Lambda expression parameters cannot be parenthesized"
  | .noneBeforeSlash => "at least one argument must precede /"
  | .secondSlash => "/ may appear only once"
  | .slashAfterStar => "/ must be ahead of *"
  | .slashThenStar => "expected comma between / and *"
  | .noneAfterStar => "named arguments must follow bare *"
  | .defaultOfStar => "var-positional argument cannot have default value"
  | .secondStar => "* argument may appear only once"
  | .defaultOfEntries => "var-keyword argument cannot have default value"
  | .afterEntries => "arguments cannot follow var-keyword argument"

/-- What is wrong with the braces in a template. -/
inductive BraceFault where
  | unclosed
  | singleClosing
  | noPart
  | noPartBefore (c : Char)
  | tooDeep
  | backslash
  | comment
  | tooManyBrackets
  | unmatched (c : Char)
  | mismatched (closing opening : Char)
  | openQuote
  | conversion
  | endOfText
  deriving DecidableEq, Repr

def BraceFault.message : BraceFault → String
  | .unclosed => "f-string: expecting '\x7d'"
  | .singleClosing => "f-string: single '\x7d' is not allowed"
  | .noPart => "f-string: empty expression not allowed"
  | .noPartBefore c => "f-string: expression required before '" ++ c.toString ++ "'"
  | .tooDeep => "f-string: expressions nested too deeply"
  | .backslash => "f-string expression part cannot include a backslash"
  | .comment => "f-string expression part cannot include '#'"
  | .tooManyBrackets => "f-string: too many nested parenthesis"
  | .unmatched c => "f-string: unmatched '" ++ c.toString ++ "'"
  | .mismatched c o =>
    "f-string: closing parenthesis '" ++ c.toString ++ "' does not match opening parenthesis '"
      ++ o.toString ++ "'"
  | .openQuote => "f-string: unterminated string"
  | .conversion => "f-string: invalid conversion character: expected 's', 'r', or 'a'"
  | .endOfText => "f-string: unexpected end of string"

inductive Fault where
  | nullCharacter
  | strayCharacter (c : Char)
  | wrongNumber (kind : String)
  | wrongDigit (digit : Char) (kind : String)
  | leadingZero
  | longNumber (digits : Nat)
  | openQuote (isLong : Bool) (line : Nat)
  | neverClosed (opening : Char)
  | unmatched (closing : Char)
  | mismatched (closing opening : Char) (line : Option Nat)
  | tooDeep
  | strayBackslash
  | endOfText
  | indented
  | unevenIndent
  | mixedIndent
  | wrongForm
  | misuse (m : Misuse)
  | mixedTexts
  | foreignByte
  | byteEscape (position : Nat)
  | textEscape (first last : Nat) (why : String)
  | brace (f : BraceFault)
  | inBraces (f : Fault)
  | unhashable (kind : String)
  | tooLarge
  | notLiteral (isPlaced : Bool)
  deriving DecidableEq, Repr

namespace Fault

/-- Whether a text shows a fault before its form is looked at. -/
def isOfCharacters : Fault → Bool
  | .strayCharacter _ => true
  | .wrongNumber _ => true
  | .wrongDigit .. => true
  | .leadingZero => true
  | .openQuote .. => true
  | .unmatched _ => true
  | .mismatched .. => true
  | .tooDeep => true
  | _ => false

/-- Whether a text has the form of a value, and only what it stands for is at fault. -/
def isOfValue : Fault → Bool
  | .nullCharacter => true
  | .unhashable _ => true
  | .tooLarge => true
  | .notLiteral _ => true
  | _ => false

def message : Fault → String
  | .nullCharacter => "source code string cannot contain null bytes"
  | .strayCharacter c =>
    let code := "U+" ++ String.ofList (Text.upperHex 4 c.toNat)
    if Text.isPrintable c then "invalid character '" ++ c.toString ++ "' (" ++ code ++ ")"
    else "invalid non-printable character " ++ code
  | .wrongNumber k => "invalid " ++ k ++ " literal"
  | .wrongDigit d k => "invalid digit '" ++ d.toString ++ "' in " ++ k ++ " literal"
  | .leadingZero =>
    "leading zeros in decimal integer literals are not permitted; "
      ++ "use an 0o prefix for octal integers"
  | .longNumber n =>
    Numeral.tooLongMessage n ++ " - Consider hexadecimal for huge integer literals "
      ++ "to avoid decimal conversion limits."
  | .openQuote isLong line =>
    "unterminated " ++ (if isLong then "triple-quoted " else "")
      ++ "string literal (detected at line " ++ toString line ++ ")"
  | .neverClosed c => "'" ++ c.toString ++ "' was never closed"
  | .unmatched c => "unmatched '" ++ c.toString ++ "'"
  | .mismatched c o line =>
    "closing parenthesis '" ++ c.toString ++ "' does not match opening parenthesis '"
      ++ o.toString ++ "'" ++ (line.map fun n => " on line " ++ toString n).getD ""
  | .tooDeep => "too many nested parentheses"
  | .strayBackslash => "unexpected character after line continuation character"
  | .endOfText => "unexpected EOF while parsing"
  | .indented => "unexpected indent"
  | .unevenIndent => "unindent does not match any outer indentation level"
  | .mixedIndent => "inconsistent use of tabs and spaces in indentation"
  | .wrongForm => "invalid syntax"
  | .misuse m => m.message
  | .mixedTexts => "cannot mix bytes and nonbytes literals"
  | .foreignByte => "bytes can only contain ASCII literal characters"
  | .byteEscape p => "(value error) invalid \\x escape at position " ++ toString p
  | .textEscape a b why =>
    "(unicode error) 'unicodeescape' codec can't decode "
      ++ (if a = b then "byte 0x5c in position " ++ toString a
        else "bytes in position " ++ toString a ++ "-" ++ toString b) ++ ": " ++ why
  | .brace f => f.message
  | .inBraces f => (if f.isOfCharacters then "" else "f-string: ") ++ f.message
  | .unhashable k => "unhashable type: '" ++ k ++ "'"
  | .tooLarge => Numeral.tooLargeMessage
  | .notLiteral isPlaced =>
    if isPlaced then "malformed node or string on line 1" else "malformed node or string: None"

end Fault
end Subgraph.Console.Literal
