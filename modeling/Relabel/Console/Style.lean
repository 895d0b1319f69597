import Relabel.Text.Blank
import Relabel.Text.Digit
import Relabel.Text.Lower

/-!
# Styles

A style is described by words: attributes, which `not` turns off, colors, a color after `on` for the
background, and an address after `link`. Descriptions of one style have one normal form. What is no
description of a style is its own normal form, in lowercase letters and without blanks at its ends.
-/

namespace Relabel.Console

/-- What is wrong with the description of a style. -/
inductive StyleFault where
  /-- A word is out of place. -/
  | misplaced
  /-- The parts of a color are no numbers. -/
  | number (digits : String)
deriving Repr, DecidableEq

namespace Style

/-- The names of colors. -/
def colorNames : List String :=
  ["black", "red", "green", "yellow", "blue", "magenta", "cyan", "white", "bright_black",
    "bright_red", "bright_green", "bright_yellow", "bright_blue", "bright_magenta", "bright_cyan",
    "bright_white", "grey0", "gray0", "navy_blue", "dark_blue", "blue3", "blue1", "dark_green",
    "deep_sky_blue4", "dodger_blue3", "dodger_blue2", "green4", "spring_green4", "turquoise4",
    "deep_sky_blue3", "dodger_blue1", "green3", "spring_green3", "dark_cyan", "light_sea_green",
    "deep_sky_blue2", "deep_sky_blue1", "spring_green2", "cyan3", "dark_turquoise", "turquoise2",
    "green1", "spring_green1", "medium_spring_green", "cyan2", "cyan1", "dark_red", "deep_pink4",
    "purple4", "purple3", "blue_violet", "orange4", "grey37", "gray37", "medium_purple4",
    "slate_blue3", "royal_blue1", "chartreuse4", "dark_sea_green4", "pale_turquoise4",
    "steel_blue", "steel_blue3", "cornflower_blue", "chartreuse3", "cadet_blue", "sky_blue3",
    "steel_blue1", "pale_green3", "sea_green3", "aquamarine3", "medium_turquoise", "chartreuse2",
    "sea_green2", "sea_green1", "aquamarine1", "dark_slate_gray2", "dark_magenta", "dark_violet",
    "purple", "light_pink4", "plum4", "medium_purple3", "slate_blue1", "yellow4", "wheat4",
    "grey53", "gray53", "light_slate_grey", "light_slate_gray", "medium_purple",
    "light_slate_blue", "dark_olive_green3", "dark_sea_green", "light_sky_blue3", "sky_blue2",
    "dark_sea_green3", "dark_slate_gray3", "sky_blue1", "chartreuse1", "light_green",
    "pale_green1", "dark_slate_gray1", "red3", "medium_violet_red", "magenta3", "dark_orange3",
    "indian_red", "hot_pink3", "medium_orchid3", "medium_orchid", "medium_purple2",
    "dark_goldenrod", "light_salmon3", "rosy_brown", "grey63", "gray63", "medium_purple1", "gold3",
    "dark_khaki", "navajo_white3", "grey69", "gray69", "light_steel_blue3", "light_steel_blue",
    "yellow3", "dark_sea_green2", "light_cyan3", "light_sky_blue1", "green_yellow",
    "dark_olive_green2", "dark_sea_green1", "pale_turquoise1", "deep_pink3", "magenta2",
    "hot_pink2", "orchid", "medium_orchid1", "orange3", "light_pink3", "pink3", "plum3", "violet",
    "light_goldenrod3", "tan", "misty_rose3", "thistle3", "plum2", "khaki3", "light_goldenrod2",
    "light_yellow3", "grey84", "gray84", "light_steel_blue1", "yellow2", "dark_olive_green1",
    "honeydew2", "light_cyan1", "red1", "deep_pink2", "deep_pink1", "magenta1", "orange_red1",
    "indian_red1", "hot_pink", "dark_orange", "salmon1", "light_coral", "pale_violet_red1",
    "orchid2", "orchid1", "orange1", "sandy_brown", "light_salmon1", "light_pink1", "pink1",
    "plum1", "gold1", "navajo_white1", "misty_rose1", "thistle1", "yellow1", "light_goldenrod1",
    "khaki1", "wheat1", "cornsilk1", "grey100", "gray100", "grey3", "gray3", "grey7", "gray7",
    "grey11", "gray11", "grey15", "gray15", "grey19", "gray19", "grey23", "gray23", "grey27",
    "gray27", "grey30", "gray30", "grey35", "gray35", "grey39", "gray39", "grey42", "gray42",
    "grey46", "gray46", "grey50", "gray50", "grey54", "gray54", "grey58", "gray58", "grey62",
    "gray62", "grey66", "gray66", "grey70", "gray70", "grey74", "gray74", "grey78", "gray78",
    "grey82", "gray82", "grey85", "gray85", "grey89", "gray89", "grey93", "gray93"]

def number (digits : List Char) : Except StyleFault Nat :=
  if digits.isEmpty || Text.digitLimit < digits.length then .error (.number (String.ofList digits))
  else .ok ((digits.filterMap Text.digit?).foldl (fun n d ↦ 10 * n + d) 0)

/-- What stands in parentheses after a word, at the end of a text. -/
def call? (word : String) (cs : List Char) : Option (List Char) :=
  if (word.toList ++ ['(']).isPrefixOf cs && cs.getLast? == some ')' then
    some ((cs.drop (word.length + 1)).dropLast)
  else none

def isHexColor : List Char → Bool
  | '#' :: digits =>
    digits.length == 6 && digits.all fun c ↦ c.isDigit || ('a' ≤ c && c ≤ 'f')
  | _ => false

/-- The parts of a text between commas. -/
def parts (cs : List Char) : List (List Char) :=
  cs.splitOn ','

/-- A color of a number or of three parts, none of them above 255. -/
def checkColor (cs : List Char) : Except StyleFault Unit := do
  match call? "color" cs, call? "rgb" cs with
  | some digits, _ =>
    unless 0 < digits.length && digits.length ≤ 3 && digits.all Char.isDigit do throw .misplaced
    unless (← number digits) ≤ 255 do throw .misplaced
  | none, some inner =>
    unless inner.all fun c ↦ c == ',' || (Text.digit? c).isSome do throw .misplaced
    unless (parts inner).length == 3 do throw .misplaced
    unless (← (parts inner).mapM number).all (· ≤ 255) do throw .misplaced
  | none, none => throw .misplaced

/-- The name of a color, if a word is one. -/
def readColor (word : List Char) : Except StyleFault (List Char) := do
  let name := Text.lower word
  unless name == "default".toList || colorNames.contains (String.ofList name) || isHexColor name do
    checkColor name
  return name

/-- Attributes in the order of normal forms, each with its short names. -/
def attributes : List (String × List String) :=
  [("bold", ["b"]), ("dim", ["d"]), ("italic", ["i"]), ("underline", ["u"]), ("blink", []),
    ("blink2", []), ("reverse", ["r"]), ("conceal", ["c"]), ("strike", ["s"]),
    ("underline2", ["uu"]), ("frame", []), ("encircle", []), ("overline", ["o"])]

def attribute? (word : List Char) : Option String :=
  (attributes.find? fun (name, short) ↦
    name.toList == word || short.any (·.toList == word)).map (·.1)

end Style

structure Style where
  /-- Attributes that are turned on or off, last one first. -/
  settings : List (String × Bool) := []
  foreground : Option (List Char) := none
  background : Option (List Char) := none
  link : Option (List Char) := none

namespace Style

/-- Reads a description by its words. -/
def read (s : Style) : List (List Char) → Except StyleFault Style
  | [] => .ok s
  | word :: rest => do
    let word := Text.lower word
    if word == "on".toList then
      match rest with
      | [] => throw .misplaced
      | name :: rest => read { s with background := some (← readColor name) } rest
    else if word == "not".toList then
      match rest with
      | [] => throw .misplaced
      | name :: rest =>
        let some name := attribute? name | throw .misplaced
        read { s with settings := (name, false) :: s.settings } rest
    else if word == "link".toList then
      match rest with
      | [] => throw .misplaced
      | address :: rest => read { s with link := some address } rest
    else
      match attribute? word with
      | some name => read { s with settings := (name, true) :: s.settings } rest
      | none => read { s with foreground := some (← readColor word) } rest

/-- The words of the normal form. -/
def words (s : Style) : List (List Char) :=
  let settings := attributes.flatMap fun (name, _) ↦
    match s.settings.lookup name with
    | some true => [name.toList]
    | some false => ["not".toList, name.toList]
    | none => []
  settings ++ s.foreground.toList ++ (s.background.map (["on".toList, ·])).getD [] ++
    (s.link.map (["link".toList, ·])).getD []

/-- The words of a text, which have blanks between them. -/
def wordsOf (cs : List Char) : List (List Char) :=
  (cs.splitOnP Text.isBlank).filter (!·.isEmpty)

/-- The text without blanks at its ends. -/
def trim (cs : List Char) : List Char :=
  Text.trimEnd (cs.dropWhile Text.isBlank)

/-- The normal form of a description. It fails where the parts of a color are no numbers. -/
def normalize (description : List Char) : Except String (List Char) :=
  match read {} (wordsOf description) with
  | .ok s => .ok (if s.words.isEmpty then "none".toList else [' '].intercalate s.words)
  | .error .misplaced => .ok (Text.lower (trim description))
  | .error (.number digits) => .error digits

end Style

end Relabel.Console
