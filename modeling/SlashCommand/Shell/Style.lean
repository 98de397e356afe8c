import SlashCommand.Number.Numeral
import SlashCommand.Text.Lowercase
import SlashCommand.Text.Split

/-!
# Styles

A style says how text is shown: with attributes such as bold, in a color, on a color, and as a
link.  It is named by words in any order, and attributes have short names.  Two names of the same
style have the same normal form, by which the tag that ends a style finds the one that began it.
A name of no style is its own normal form, letter case aside.
-/

namespace SlashCommand.Shell

/-- The attributes, in the order of normal forms, each with its short name. -/
def attributeNames : List (String × String) :=
  [("bold", "b"), ("dim", "d"), ("italic", "i"), ("underline", "u"), ("blink", "blink"),
    ("blink2", "blink2"), ("reverse", "r"), ("conceal", "c"), ("strike", "s"),
    ("underline2", "uu"), ("frame", "frame"), ("encircle", "encircle"), ("overline", "o")]

/-- The names of colors. -/
def colorNames : List String :=
  ["black red green yellow blue magenta cyan white bright_black bright_red bright_green",
    "bright_yellow bright_blue bright_magenta bright_cyan bright_white grey0 gray0 navy_blue",
    "dark_blue blue3 blue1 dark_green deep_sky_blue4 dodger_blue3 dodger_blue2 green4",
    "spring_green4 turquoise4 deep_sky_blue3 dodger_blue1 green3 spring_green3 dark_cyan",
    "light_sea_green deep_sky_blue2 deep_sky_blue1 spring_green2 cyan3 dark_turquoise",
    "turquoise2 green1 spring_green1 medium_spring_green cyan2 cyan1 dark_red deep_pink4",
    "purple4 purple3 blue_violet orange4 grey37 gray37 medium_purple4 slate_blue3 royal_blue1",
    "chartreuse4 dark_sea_green4 pale_turquoise4 steel_blue steel_blue3 cornflower_blue",
    "chartreuse3 cadet_blue sky_blue3 steel_blue1 pale_green3 sea_green3 aquamarine3",
    "medium_turquoise chartreuse2 sea_green2 sea_green1 aquamarine1 dark_slate_gray2",
    "dark_magenta dark_violet purple light_pink4 plum4 medium_purple3 slate_blue1 yellow4",
    "wheat4 grey53 gray53 light_slate_grey light_slate_gray medium_purple light_slate_blue",
    "dark_olive_green3 dark_sea_green light_sky_blue3 sky_blue2 dark_sea_green3",
    "dark_slate_gray3 sky_blue1 chartreuse1 light_green pale_green1 dark_slate_gray1 red3",
    "medium_violet_red magenta3 dark_orange3 indian_red hot_pink3 medium_orchid3 medium_orchid",
    "medium_purple2 dark_goldenrod light_salmon3 rosy_brown grey63 gray63 medium_purple1 gold3",
    "dark_khaki navajo_white3 grey69 gray69 light_steel_blue3 light_steel_blue yellow3",
    "dark_sea_green2 light_cyan3 light_sky_blue1 green_yellow dark_olive_green2 dark_sea_green1",
    "pale_turquoise1 deep_pink3 magenta2 hot_pink2 orchid medium_orchid1 orange3 light_pink3",
    "pink3 plum3 violet light_goldenrod3 tan misty_rose3 thistle3 plum2 khaki3 light_goldenrod2",
    "light_yellow3 grey84 gray84 light_steel_blue1 yellow2 dark_olive_green1 honeydew2",
    "light_cyan1 red1 deep_pink2 deep_pink1 magenta1 orange_red1 indian_red1 hot_pink",
    "dark_orange salmon1 light_coral pale_violet_red1 orchid2 orchid1 orange1 sandy_brown",
    "light_salmon1 light_pink1 pink1 plum1 gold1 navajo_white1 misty_rose1 thistle1 yellow1",
    "light_goldenrod1 khaki1 wheat1 cornsilk1 grey100 gray100 grey3 gray3 grey7 gray7 grey11",
    "gray11 grey15 gray15 grey19 gray19 grey23 gray23 grey27 gray27 grey30 gray30 grey35 gray35",
    "grey39 gray39 grey42 gray42 grey46 gray46 grey50 gray50 grey54 gray54 grey58 gray58 grey62",
    "gray62 grey66 gray66 grey70 gray70 grey74 gray74 grey78 gray78 grey82 gray82 grey85 gray85",
    "grey89 gray89 grey93 gray93"]

/-- What names a style. -/
structure Style where
  /-- The attributes that are set, and those that are unset. -/
  attributes : List (String × Bool)
  color : Option String
  background : Option String
  link : Option String

namespace Style

/-- The style that is as nothing. -/
def plain : Style :=
  ⟨[], none, none, none⟩

/-- The attribute with a name. -/
def attribute? (word : String) : Option String :=
  (attributeNames.find? fun (name, short) => name == word || short == word).map (·.1)

/-- A share of a color that is no number. -/
structure BadShare where
  error : Number.NumeralError
  text : String
  deriving DecidableEq, Repr

/-- What is said of a share that is no number. -/
def BadShare.message (share : BadShare) : String :=
  share.error.message 10 share.text.toList

/-- Why words name no style. -/
inductive Misnaming where
  /-- They are words for something else. -/
  | noStyle
  | badShare (share : BadShare)
  deriving DecidableEq, Repr

/-- The number that a share of a color is. -/
def share (digits : List Char) : Except Misnaming Int :=
  (Number.readDecimal digits).mapError fun error => .badShare ⟨error, String.ofList digits⟩

/-- What a word in lowercase holds between some beginning and a closing bracket. -/
def within? (opening : String) (cs : List Char) : Option (List Char) :=
  if opening.toList.isPrefixOf cs && cs.getLast? = some ')' then
    some (cs.drop opening.length).dropLast
  else none

/-- Whether a word in lowercase is a color by the digits of its shares, or by its number. -/
def isNumberedColor (cs : List Char) : Bool :=
  (cs.head? = some '#' && cs.length = 7 &&
      cs.tail.all fun c => c.isDigit || ('a' ≤ c && c ≤ 'f')) ||
    (within? "color(" cs).any fun digits =>
      !digits.isEmpty && digits.length ≤ 3 && digits.all Char.isDigit &&
        Text.decimalValue digits ≤ 255

/-- Whether a word in lowercase names a color: by its name, by its number, or by its shares of
red, green and blue. -/
def isColor (word : String) : Except Misnaming Bool := do
  let cs := word.toList
  match within? "rgb(" cs with
  | some shares =>
    let parts := Text.pieces ',' shares
    if !shares.isEmpty && (shares.all fun c => Text.isDigit c || c == ',') && parts.length = 3 then
      return (← parts.mapM share).all fun share => share ≤ 255
    else return false
  | none =>
    return word == "default" || (colorNames.any fun line => (line.splitOn " ").contains word) ||
      isNumberedColor cs

/-- A color in lowercase by its name. -/
def readColor (word : String) : Except Misnaming String := do
  let lowered := Text.lowercase word
  if ← isColor lowered then return lowered else throw .noStyle

/-- Reads the words of a style.  The color that is named last is taken, and so is every other
part. -/
def ofWords (style : Style) : List String → Except Misnaming Style
  | [] => .ok style
  | word :: words =>
    let lowered := Text.lowercase word
    if lowered = "on" then
      match words with
      | name :: words => do
        ofWords { style with background := some (← readColor name) } words
      | [] => .error .noStyle
    else if lowered = "not" then
      match words with
      | name :: words =>
        match attribute? name with
        | some name => ofWords { style with attributes := (name, false) :: style.attributes } words
        | none => .error .noStyle
      | [] => .error .noStyle
    else if lowered = "link" then
      match words with
      | target :: words => ofWords { style with link := some target } words
      | [] => .error .noStyle
    else match attribute? lowered with
      | some name => ofWords { style with attributes := (name, true) :: style.attributes } words
      | none => do
        ofWords { style with color := some (← readColor word) } words

/-- The normal form of a style. -/
def normal (style : Style) : String :=
  let attributes := attributeNames.filterMap fun (name, _) =>
    (style.attributes.lookup name).map fun isSet => if isSet then name else "not " ++ name
  let words := attributes ++ style.color.toList ++
    (style.background.toList.map fun color => "on " ++ color) ++
    style.link.toList.map fun target => "link " ++ target
  if words.isEmpty then "none" else " ".intercalate words

end Style

/-- The normal form of the name of a style. -/
def normalStyle (name : List Char) : Except Style.BadShare String :=
  let words := Text.wordsOf name
  match if words = ["none"] then .ok Style.plain else Style.ofWords .plain words with
  | .ok style => .ok style.normal
  | .error .noStyle => .ok (Text.lowercase (String.ofList (Text.trimmed Text.isBlank name)))
  | .error (.badShare share) => .error share

end SlashCommand.Shell
