import PodLaunch.Text.Digit
import PodLaunch.Text.Lines
import PodLaunch.Text.Lower

/-!
# Styles

A style is written as words: attributes such as `bold`, the name of a color, `on` and the color
behind the text, and `link` with its target. Two styles are the same if their normal forms are, in
which the words have a fixed order. Words that form no style are compared as they stand.
-/

namespace PodLaunch.Console

open Text

/-- Why words form no style. -/
inductive StyleDefect where
  /-- A word has no meaning. -/
  | unknownWord
  /-- A color is written with something that is no number. -/
  | noNumber (numeral : String)
  deriving DecidableEq, Repr

/-! ## Colors -/

/-- The names of colors, with single spaces between them. -/
def colorNames : List String :=
  ["black red green yellow blue magenta cyan white bright_black bright_red bright_green",
    "bright_yellow bright_blue bright_magenta bright_cyan bright_white grey0 gray0 navy_blue",
    "dark_blue blue3 blue1 dark_green deep_sky_blue4 dodger_blue3 dodger_blue2 green4",
    "spring_green4 turquoise4 deep_sky_blue3 dodger_blue1 green3 spring_green3 dark_cyan",
    "light_sea_green deep_sky_blue2 deep_sky_blue1 spring_green2 cyan3 dark_turquoise",
    "turquoise2 green1 spring_green1 medium_spring_green cyan2 cyan1 dark_red deep_pink4",
    "purple4 purple3 blue_violet orange4 grey37 gray37 medium_purple4 slate_blue3 royal_blue1",
    "chartreuse4 dark_sea_green4 pale_turquoise4 steel_blue steel_blue3 cornflower_blue",
    "chartreuse3 cadet_blue sky_blue3 steel_blue1 pale_green3 sea_green3 aquamarine3",
    "medium_turquoise chartreuse2 sea_green2 sea_green1 aquamarine1 dark_slate_gray2",
    "dark_magenta dark_violet purple light_pink4 plum4 medium_purple3 slate_blue1 yellow4",
    "wheat4 grey53 gray53 light_slate_grey light_slate_gray medium_purple light_slate_blue",
    "dark_olive_green3 dark_sea_green light_sky_blue3 sky_blue2 dark_sea_green3",
    "dark_slate_gray3 sky_blue1 chartreuse1 light_green pale_green1 dark_slate_gray1 red3",
    "medium_violet_red magenta3 dark_orange3 indian_red hot_pink3 medium_orchid3 medium_orchid",
    "medium_purple2 dark_goldenrod light_salmon3 rosy_brown grey63 gray63 medium_purple1 gold3",
    "dark_khaki navajo_white3 grey69 gray69 light_steel_blue3 light_steel_blue yellow3",
    "dark_sea_green2 light_cyan3 light_sky_blue1 green_yellow dark_olive_green2 dark_sea_green1",
    "pale_turquoise1 deep_pink3 magenta2 hot_pink2 orchid medium_orchid1 orange3 light_pink3",
    "pink3 plum3 violet light_goldenrod3 tan misty_rose3 thistle3 plum2 khaki3 light_goldenrod2",
    "light_yellow3 grey84 gray84 light_steel_blue1 yellow2 dark_olive_green1 honeydew2",
    "light_cyan1 red1 deep_pink2 deep_pink1 magenta1 orange_red1 indian_red1 hot_pink",
    "dark_orange salmon1 light_coral pale_violet_red1 orchid2 orchid1 orange1 sandy_brown",
    "light_salmon1 light_pink1 pink1 plum1 gold1 navajo_white1 misty_rose1 thistle1 yellow1",
    "light_goldenrod1 khaki1 wheat1 cornsilk1 grey100 gray100 grey3 gray3 grey7 gray7 grey11",
    "gray11 grey15 gray15 grey19 gray19 grey23 gray23 grey27 gray27 grey30 gray30 grey35 gray35",
    "grey39 gray39 grey42 gray42 grey46 gray46 grey50 gray50 grey54 gray54 grey58 gray58 grey62",
    "gray62 grey66 gray66 grey70 gray70 grey74 gray74 grey78 gray78 grey82 gray82 grey85 gray85",
    "grey89 gray89 grey93 gray93"]

/-- Whether a text is the name of a color. -/
def isColorName (name : List Char) : Bool :=
  name = "default".toList || colorNames.any fun line => (splitOnChar ' ' line.toList).contains name

/-- Whether a text consists of six hexadecimal digits, with small letters. -/
def isColorCode (digits : List Char) : Bool :=
  digits.length = 6 && digits.all fun c => c.isDigit || ('a' ≤ c && c ≤ 'f')

/-- Whether a text is the number of a color, with up to three digits. -/
def isColorNumber (digits : List Char) : Bool :=
  1 ≤ digits.length && digits.length ≤ 3 && digits.all Char.isDigit &&
    (numeralValue? 10 digits).any (· ≤ 255)

/-- The largest number of digits of a number. -/
def longestNumeral : Nat := 4300

/-- The value of a part of a color: a number with the digits of any script, and not too many of
them. -/
def colorPart (digits : List Char) : Except StyleDefect Nat :=
  match numeralValue? 10 (digits.map plainNumeralChar) with
  | some value =>
    if digits.isEmpty || longestNumeral < digits.length then
      .error (.noNumber (String.ofList digits))
    else .ok value
  | none => .error (.noNumber (String.ofList digits))

/-- Check the three parts of a color, which are separated by commas. -/
def checkColorParts (parts : List Char) : Except StyleDefect Unit :=
  if parts.isEmpty || !parts.all fun c => c = ',' || (decimalValue? c).isSome then
    .error .unknownWord
  else
    match splitOnChar ',' parts with
    | [red, green, blue] => do
      let red ← colorPart red
      let green ← colorPart green
      let blue ← colorPart blue
      if red ≤ 255 && green ≤ 255 && blue ≤ 255 then return () else throw .unknownWord
    | _ => .error .unknownWord

/-- The text between an opening text and a closing bracket. -/
def between? (opening : String) (word : List Char) : Option (List Char) :=
  if opening.toList.isPrefixOf word && word.getLast? = some ')' then
    some ((word.drop opening.length).dropLast)
  else none

/-- A word in lower case, if it is a color: by its name, by its code, by its number, or by its three
parts. -/
def color (word : String) : Except StyleDefect String :=
  let name := (lowerText word).toList
  let accepted : Except StyleDefect String := .ok (String.ofList name)
  if isColorName name then accepted
  else if name.head? = some '#' && isColorCode (name.drop 1) then accepted
  else
    match between? "color(" name, between? "rgb(" name with
    | some digits, _ => if isColorNumber digits then accepted else .error .unknownWord
    | none, some parts => do
      checkColorParts parts
      accepted
    | none, none => .error .unknownWord

/-! ## Attributes -/

/-- The attributes, in the order of the normal form. -/
def attributeNames : List String :=
  ["bold", "dim", "italic", "underline", "blink", "blink2", "reverse", "conceal", "strike",
    "underline2", "frame", "encircle", "overline"]

/-- Short names of attributes. -/
def shortNames : List (String × String) :=
  [("b", "bold"), ("d", "dim"), ("i", "italic"), ("u", "underline"), ("r", "reverse"),
    ("s", "strike"), ("uu", "underline2"), ("c", "conceal"), ("o", "overline")]

/-- The attribute that a word names. -/
def attribute? (word : String) : Option String :=
  if attributeNames.contains word then some word else shortNames.lookup word

/-! ## Words -/

/-- What words say about a style. -/
structure Style where
  /-- The attributes that are set or cleared, the last one first. -/
  attributes : List (String × Bool) := []
  /-- The color. -/
  color : Option String := none
  /-- The color behind the text. -/
  background : Option String := none
  /-- The target of a link. -/
  link : Option String := none
  deriving DecidableEq, Repr

namespace Style

/-- The style that words describe, behind earlier words. -/
def ofWords (style : Style) : List String → Except StyleDefect Style
  | [] => .ok style
  | written :: words =>
    let word := lowerText written
    if word = "on" then
      match words with
      | [] => .error .unknownWord
      | next :: rest => do
        let background ← Console.color next
        ofWords { style with background } rest
    else if word = "not" then
      match words with
      | [] => .error .unknownWord
      | next :: rest =>
        match attribute? next with
        | some name => ofWords { style with attributes := (name, false) :: style.attributes } rest
        | none => .error .unknownWord
    else if word = "link" then
      match words with
      | [] => .error .unknownWord
      | next :: rest => ofWords { style with link := some next } rest
    else
      match attribute? word with
      | some name => ofWords { style with attributes := (name, true) :: style.attributes } words
      | none => do
        let color ← Console.color word
        ofWords { style with color } words

/-- The words of an attribute, if it is mentioned. -/
def attributeWords (style : Style) (name : String) : List String :=
  match style.attributes.lookup name with
  | some true => [name]
  | some false => ["not", name]
  | none => []

/-- The words of a style in their order. -/
def toWords (style : Style) : List String :=
  attributeNames.flatMap style.attributeWords ++ style.color.toList ++
    (style.background.map fun name => ["on", name]).getD [] ++
    (style.link.map fun target => ["link", target]).getD []

/-- The text of a style. -/
def toText (style : Style) : String :=
  match style.toWords with
  | [] => "none"
  | words => joinTexts " " words

end Style

/-- The words of a text, between its blanks. -/
def wordsBetweenBlanks (s : List Char) : List String :=
  let pieces := splitOnChar ' ' (s.map fun c => if isBlank c then ' ' else c)
  (pieces.filter (!·.isEmpty)).map String.ofList

/-- The style that a text describes. -/
def parseStyle (s : List Char) : Except StyleDefect Style :=
  if s.isEmpty || trim s = "none".toList then .ok {}
  else Style.ofWords {} (wordsBetweenBlanks s)

/-- The normal form of a style, or what stands for words that form no style: the text without blanks
around it, in lower case. A color with something that is no number has no normal form; what stands
in the place of the number is given instead. -/
def normalStyle (s : List Char) : Except String String :=
  match parseStyle s with
  | .ok style => .ok style.toText
  | .error .unknownWord => .ok (lowerText (String.ofList (trim s)))
  | .error (.noNumber numeral) => .error numeral

end PodLaunch.Console
