import RuleReview.Decimal.Integer
import RuleReview.Text.Blank
import RuleReview.Text.Case
import RuleReview.Text.Lines
import RuleReview.Text.Numeral

/-! Styles: attributes that are on or off, colours, and a link. A colour is given by name, by number,
or by its parts of red, green and blue. All words for a style have one spelling in common, by which
a closing tag is matched with its opening one. -/

namespace RuleReview.Console.Markup

/-! ### Colours -/

/-- The names of colours, many to a line. -/
def colorNames : List String := [
  "black red green yellow blue magenta cyan white bright_black bright_red bright_green",
  "bright_yellow bright_blue bright_magenta bright_cyan bright_white grey0 gray0 navy_blue",
  "dark_blue blue3 blue1 dark_green deep_sky_blue4 dodger_blue3 dodger_blue2 green4",
  "spring_green4 turquoise4 deep_sky_blue3 dodger_blue1 green3 spring_green3 dark_cyan",
  "light_sea_green deep_sky_blue2 deep_sky_blue1 spring_green2 cyan3 dark_turquoise turquoise2",
  "green1 spring_green1 medium_spring_green cyan2 cyan1 dark_red deep_pink4 purple4 purple3",
  "blue_violet orange4 grey37 gray37 medium_purple4 slate_blue3 royal_blue1 chartreuse4",
  "dark_sea_green4 pale_turquoise4 steel_blue steel_blue3 cornflower_blue chartreuse3",
  "cadet_blue sky_blue3 steel_blue1 pale_green3 sea_green3 aquamarine3 medium_turquoise",
  "chartreuse2 sea_green2 sea_green1 aquamarine1 dark_slate_gray2 dark_magenta dark_violet",
  "purple light_pink4 plum4 medium_purple3 slate_blue1 yellow4 wheat4 grey53 gray53",
  "light_slate_grey light_slate_gray medium_purple light_slate_blue dark_olive_green3",
  "dark_sea_green light_sky_blue3 sky_blue2 dark_sea_green3 dark_slate_gray3 sky_blue1",
  "chartreuse1 light_green pale_green1 dark_slate_gray1 red3 medium_violet_red magenta3",
  "dark_orange3 indian_red hot_pink3 medium_orchid3 medium_orchid medium_purple2 dark_goldenrod",
  "light_salmon3 rosy_brown grey63 gray63 medium_purple1 gold3 dark_khaki navajo_white3 grey69",
  "gray69 light_steel_blue3 light_steel_blue yellow3 dark_sea_green2 light_cyan3",
  "light_sky_blue1 green_yellow dark_olive_green2 dark_sea_green1 pale_turquoise1 deep_pink3",
  "magenta2 hot_pink2 orchid medium_orchid1 orange3 light_pink3 pink3 plum3 violet",
  "light_goldenrod3 tan misty_rose3 thistle3 plum2 khaki3 light_goldenrod2 light_yellow3 grey84",
  "gray84 light_steel_blue1 yellow2 dark_olive_green1 honeydew2 light_cyan1 red1 deep_pink2",
  "deep_pink1 magenta1 orange_red1 indian_red1 hot_pink dark_orange salmon1 light_coral",
  "pale_violet_red1 orchid2 orchid1 orange1 sandy_brown light_salmon1 light_pink1 pink1 plum1",
  "gold1 navajo_white1 misty_rose1 thistle1 yellow1 light_goldenrod1 khaki1 wheat1 cornsilk1",
  "grey100 gray100 grey3 gray3 grey7 gray7 grey11 gray11 grey15 gray15 grey19 gray19 grey23",
  "gray23 grey27 gray27 grey30 gray30 grey35 gray35 grey39 gray39 grey42 gray42 grey46 gray46",
  "grey50 gray50 grey54 gray54 grey58 gray58 grey62 gray62 grey66 gray66 grey70 gray70 grey74",
  "gray74 grey78 gray78 grey82 gray82 grey85 gray85 grey89 gray89 grey93 gray93"]

/-- Whether a text is the name of a colour. -/
def isColorName (s : String) : Bool :=
  s == "default" || colorNames.any fun row => (Text.split ' ' row).contains s

/-- The text between a word with a bracket and a closing bracket at the end. -/
def between? (front : String) (cs : List Char) : Option (List Char) :=
  if front.toList.isPrefixOf cs && front.length < cs.length && cs.getLast? == some ')' then
    some (cs.drop front.length).dropLast
  else none

/-- Whether a text is a colour by number. -/
def isNumbered (cs : List Char) : Bool :=
  match between? "color(" cs with
  | some ds => !ds.isEmpty && ds.length ≤ 3 && ds.all Char.isDigit && Text.valueIn 10 ds ≤ 255
  | none => false

/-- Whether a text is a colour in hexadecimal digits. -/
def isHexColor (cs : List Char) : Bool :=
  cs.length == 7 && cs.head? == some '#' && (cs.drop 1).all Text.isHex

/-- Whether a text is a colour by parts, unless a part is no number. -/
def hasParts (cs : List Char) : Except Decimal.IntegerError Bool :=
  match between? "rgb(" cs with
  | none => .ok false
  | some inner =>
    if inner.isEmpty || !inner.all (fun c => c == ',' || Text.isDecimal c) then .ok false
    else match Text.splitOn ',' inner with
      | [r, g, b] => do
        let ns ← [r, g, b].mapM fun part => Decimal.readInteger (String.ofList part)
        return ns.all (· ≤ 255)
      | _ => .ok false

/-- The colour of a word in small letters, if it is one. -/
def color? (word : String) : Except Decimal.IntegerError (Option String) := do
  let s := Text.toLower word
  if isColorName s || isHexColor s.toList || isNumbered s.toList then return some s
  return if ← hasParts s.toList then some s else none

/-! ### Styles -/

/-- The attributes of a style, in the order in which they are spelled. -/
def attributes : List String := [
  "bold", "dim", "italic", "underline", "blink", "blink2", "reverse", "conceal", "strike",
  "underline2", "frame", "encircle", "overline"]

def shortNames : List (String × String) := [
  ("b", "bold"), ("c", "conceal"), ("d", "dim"), ("i", "italic"), ("o", "overline"),
  ("r", "reverse"), ("s", "strike"), ("u", "underline"), ("uu", "underline2")]

def attribute? (word : String) : Option String :=
  (shortNames.lookup word).orElse fun _ => if attributes.contains word then some word else none

structure Style where
  set : List (String × Bool) := []
  color : Option String := none
  background : Option String := none
  link : Option String := none
  deriving DecidableEq, Repr

namespace Style

def put (s : Style) (name : String) (value : Bool) : Style :=
  { s with set := (name, value) :: s.set }

/-- The style that words make of another one; none where a word has no meaning. -/
def take (s : Style) : List String → Except Decimal.IntegerError (Option Style)
  | [] => return some s
  | word :: words => do
    match Text.toLower word, words with
    | "on", c :: words =>
      match ← color? c with
      | some c => take { s with background := some c } words
      | none => return none
    | "not", a :: words =>
      match attribute? a with
      | some a => take (s.put a false) words
      | none => return none
    | "link", l :: words => take { s with link := some l } words
    | "on", [] | "not", [] | "link", [] => return none
    | w, words =>
      match attribute? w with
      | some a => take (s.put a true) words
      | none =>
        match ← color? w with
        | some c => take { s with color := some c } words
        | none => return none

def text (s : Style) : String :=
  let set := attributes.filterMap fun a =>
    (s.set.lookup a).map fun value => if value then a else "not " ++ a
  let words := set ++ s.color.toList ++ (s.background.map ("on " ++ ·)).toList
    ++ (s.link.map ("link " ++ ·)).toList
  if words.isEmpty then "none" else " ".intercalate words

end Style

/-- The spelling of the style of a tag. A tag that is no style is spelled in small letters. -/
def styleName (cs : List Char) : Except Decimal.IntegerError String := do
  match ← Style.take {} ((Text.words cs).map String.ofList) with
  | some s => return s.text
  | none => return String.ofList (Text.lower (Text.trim cs))

end RuleReview.Console.Markup
