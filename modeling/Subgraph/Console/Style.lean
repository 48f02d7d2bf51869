import Subgraph.Decimal.Numeral
import Subgraph.Entries
import Subgraph.Text.Display
import Subgraph.Text.Lower

/-!
Styles of texts on a console, and their names.

A name is a row of words: attributes, by long or short words and with a negation or without, a
color of the letters, one of the background, and a link. `normal` gives names that mean the same
the same form; a name that means nothing is only stripped and put in lower case.
-/

namespace Subgraph.Console

/-- The names of colors, divided by blanks, apart from the shades of gray. -/
def colorNames : List String :=
  ["black red green yellow blue magenta cyan white bright_black bright_red bright_green",
   "bright_yellow bright_blue bright_magenta bright_cyan bright_white navy_blue dark_blue blue3",
   "blue1 dark_green deep_sky_blue4 dodger_blue3 dodger_blue2 green4 spring_green4 turquoise4",
   "deep_sky_blue3 dodger_blue1 green3 spring_green3 dark_cyan light_sea_green deep_sky_blue2",
   "deep_sky_blue1 spring_green2 cyan3 dark_turquoise turquoise2 green1 spring_green1",
   "medium_spring_green cyan2 cyan1 dark_red deep_pink4 purple4 purple3 blue_violet orange4",
   "medium_purple4 slate_blue3 royal_blue1 chartreuse4 dark_sea_green4 pale_turquoise4",
   "steel_blue steel_blue3 cornflower_blue chartreuse3 cadet_blue sky_blue3 steel_blue1",
   "pale_green3 sea_green3 aquamarine3 medium_turquoise chartreuse2 sea_green2 sea_green1",
   "aquamarine1 dark_slate_gray2 dark_magenta dark_violet purple light_pink4 plum4",
   "medium_purple3 slate_blue1 yellow4 wheat4 light_slate_grey light_slate_gray medium_purple",
   "light_slate_blue dark_olive_green3 dark_sea_green light_sky_blue3 sky_blue2 dark_sea_green3",
   "dark_slate_gray3 sky_blue1 chartreuse1 light_green pale_green1 dark_slate_gray1 red3",
   "medium_violet_red magenta3 dark_orange3 indian_red hot_pink3 medium_orchid3 medium_orchid",
   "medium_purple2 dark_goldenrod light_salmon3 rosy_brown medium_purple1 gold3 dark_khaki",
   "navajo_white3 light_steel_blue3 light_steel_blue yellow3 dark_sea_green2 light_cyan3",
   "light_sky_blue1 green_yellow dark_olive_green2 dark_sea_green1 pale_turquoise1 deep_pink3",
   "magenta2 hot_pink2 orchid medium_orchid1 orange3 light_pink3 pink3 plum3 violet",
   "light_goldenrod3 tan misty_rose3 thistle3 plum2 khaki3 light_goldenrod2 light_yellow3",
   "light_steel_blue1 yellow2 dark_olive_green1 honeydew2 light_cyan1 red1 deep_pink2 deep_pink1",
   "magenta1 orange_red1 indian_red1 hot_pink dark_orange salmon1 light_coral pale_violet_red1",
   "orchid2 orchid1 orange1 sandy_brown light_salmon1 light_pink1 pink1 plum1 gold1",
   "navajo_white1 misty_rose1 thistle1 yellow1 light_goldenrod1 khaki1 wheat1 cornsilk1"]

/-- How light the shades of gray are that have names. -/
def grayShades : List Nat :=
  [0, 3, 7, 11, 15, 19, 23, 27, 30, 35, 37, 39, 42, 46, 50, 53, 54, 58, 62, 63, 66, 69, 70, 74, 78,
   82, 84, 85, 89, 93, 100]

def namedColors : List String :=
  colorNames.flatMap (Text.pieces ' ')
    ++ grayShades.flatMap fun n => ["grey" ++ toString n, "gray" ++ toString n]

/-- The attributes in the order in which they are written, with short words for them. -/
def attributeWords : List (String × List String) :=
  [("bold", ["b"]), ("dim", ["d"]), ("italic", ["i"]), ("underline", ["u"]), ("blink", []),
   ("blink2", []), ("reverse", ["r"]), ("conceal", ["c"]), ("strike", ["s"]),
   ("underline2", ["uu"]), ("frame", []), ("encircle", []), ("overline", ["o"])]

def attribute? (word : String) : Option String :=
  (attributeWords.find? fun a => a.1 == word || a.2.contains word).map (·.1)

/-- Why a row of words is no style. A part of a color that should be a number may be none. -/
inductive StyleFault where
  | meaningless
  | noNumber (text : String) (f : Numeral.Fault)
  deriving DecidableEq, Repr

namespace Color

/-- The text between two others that a text begins and ends with. -/
def inside? (s opening closing : String) : Option String :=
  if s.startsWith opening && s.endsWith closing then
    some (String.ofList ((s.toList.drop opening.length).take
      (s.length - opening.length - closing.length)))
  else none

def isHex (s : String) : Bool :=
  match s.toList with
  | '#' :: ds => ds.length == 6 && ds.all fun c => (Text.hexValue? c).isSome
  | _ => false

/-- A color by its number. -/
def isNumbered (s : String) : Bool :=
  match inside? s "color(" ")" with
  | some ds =>
    !ds.isEmpty && ds.length ≤ 3 && ds.all Text.isDigit && Nat.ofDigitChars 10 ds.toList 0 ≤ 255
  | none => false

/-- A color by three parts, each a number. -/
def isMixed (s : String) : Except StyleFault Bool :=
  match inside? s "rgb(" ")" with
  | none => .ok false
  | some parts =>
    let values := Text.pieces ',' parts
    if parts.isEmpty || values.length != 3
        || !parts.all fun c => c == ',' || (Text.decimalValue? c).isSome then .ok false
    else do
      let ns ← values.mapM fun v => (Numeral.int 10 v).mapError (.noNumber v)
      return ns.all (· ≤ 255)

/-- The name of a color, if a word is one. -/
def name? (word : String) : Except StyleFault (Option String) := do
  let s := Text.lower word
  if s == "default" || namedColors.contains s || isHex s || isNumbered s then return some s
  else return if ← isMixed s then some s else none

end Color

structure Style where
  attributes : Entries Bool
  color : Option String
  background : Option String
  link : Option String
  deriving Repr, Inhabited

namespace Style

def empty : Style := ⟨[], none, none, none⟩

def requireColor (word : String) : Except StyleFault String := do
  match ← Color.name? word with
  | some c => return c
  | none => throw .meaningless

/-- Reads the words of a style into one that has some already. -/
def readWords (s : Style) : List String → Except StyleFault Style
  | [] => .ok s
  | [word] => readWord word
  | first :: second :: r =>
    match Text.lower first with
    | "on" => do readWords { s with background := some (← requireColor second) } r
    | "not" =>
      match attribute? second with
      | some a => readWords { s with attributes := Entries.put s.attributes a false } r
      | none => .error .meaningless
    | "link" => readWords { s with link := some second } r
    | _ => do readWords (← readWord first) (second :: r)
where
  /-- Reads a word that stands by itself. -/
  readWord (word : String) : Except StyleFault Style :=
    match attribute? (Text.lower word) with
    | some a => .ok { s with attributes := Entries.put s.attributes a true }
    | none => do return { s with color := some (← requireColor word) }

/-- The words of a text, which blanks of any kind divide. -/
def words (s : String) : List String :=
  ((Text.splitAt Text.isWhite s.toList).filter (!·.isEmpty)).map String.ofList

def read (name : String) : Except StyleFault Style :=
  if Text.stripped name == "none" then .ok empty else readWords empty (words name)

/-- The written form of a style. -/
def text (s : Style) : String :=
  let attributes := attributeWords.filterMap fun (a, _) =>
    (Entries.get? s.attributes a).map fun b => if b then a else "not " ++ a
  let parts := attributes ++ s.color.toList ++ (s.background.toList.map ("on " ++ ·))
    ++ s.link.toList.map ("link " ++ ·)
  if parts.isEmpty then "none" else " ".intercalate parts

/-- The name of a style in the form that all names of it have. -/
def normal (name : String) : Except StyleFault String :=
  match read name with
  | .ok s => .ok s.text
  | .error .meaningless => .ok (Text.lower (Text.stripped name))
  | .error f => .error f

end Style
end Subgraph.Console
