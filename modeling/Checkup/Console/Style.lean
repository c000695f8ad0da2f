import Checkup.Decimal.Numeral
import Checkup.Named
import Checkup.Text.Lowercase
import Checkup.Text.Search

/-!
# Styles

A style is written as words: effects, `not` in front of an effect that is off, a colour, `on`
in front of the colour of the background, and `link` in front of an address. `text` writes every
style in one way, so that two spellings of a style can be compared.
-/

namespace Checkup

inductive Effect
  | bold
  | dim
  | italic
  | underline
  | blink
  | fastBlink
  | reverse
  | conceal
  | strike
  | doubleUnderline
  | frame
  | encircle
  | overline
  deriving DecidableEq, Repr

structure Style where
  /-- the effects that are on or off, the others being left as they are -/
  effects : List (Effect × Bool)
  colour : Option String
  background : Option String
  link : Option String
  deriving DecidableEq, Repr

inductive StyleFault
  /-- a word that means nothing where it stands -/
  | unknown
  /-- a part of a colour that is no number -/
  | numeral (text : String) (cause : Decimal.NumeralFault)
  deriving DecidableEq, Repr

namespace Effect

def all : List Effect :=
  [bold, dim, italic, underline, blink, fastBlink, reverse, conceal, strike, doubleUnderline, frame,
    encircle, overline]

def name : Effect → String
  | bold => "bold"
  | dim => "dim"
  | italic => "italic"
  | underline => "underline"
  | blink => "blink"
  | fastBlink => "blink2"
  | reverse => "reverse"
  | conceal => "conceal"
  | strike => "strike"
  | doubleUnderline => "underline2"
  | frame => "frame"
  | encircle => "encircle"
  | overline => "overline"

def shortName? : Effect → Option String
  | bold => some "b"
  | dim => some "d"
  | italic => some "i"
  | underline => some "u"
  | reverse => some "r"
  | conceal => some "c"
  | strike => some "s"
  | doubleUnderline => some "uu"
  | overline => some "o"
  | blink | fastBlink | frame | encircle => none

def ofWord? (word : String) : Option Effect :=
  all.find? fun effect => effect.name == word || effect.shortName? == some word

end Effect

namespace Colour

def names : List String :=
  ["black", "red", "green", "yellow", "blue", "magenta", "cyan", "white", "bright_black",
    "bright_red", "bright_green", "bright_yellow", "bright_blue", "bright_magenta", "bright_cyan",
    "bright_white", "grey0", "gray0", "navy_blue", "dark_blue", "blue3", "blue1", "dark_green",
    "deep_sky_blue4", "dodger_blue3", "dodger_blue2", "green4", "spring_green4", "turquoise4",
    "deep_sky_blue3", "dodger_blue1", "green3", "spring_green3", "dark_cyan", "light_sea_green",
    "deep_sky_blue2", "deep_sky_blue1", "spring_green2", "cyan3", "dark_turquoise", "turquoise2",
    "green1", "spring_green1", "medium_spring_green", "cyan2", "cyan1", "dark_red", "deep_pink4",
    "purple4", "purple3", "blue_violet", "orange4", "grey37", "gray37", "medium_purple4",
    "slate_blue3", "royal_blue1", "chartreuse4", "dark_sea_green4", "pale_turquoise4",
    "steel_blue", "steel_blue3", "cornflower_blue", "chartreuse3", "cadet_blue", "sky_blue3",
    "steel_blue1", "pale_green3", "sea_green3", "aquamarine3", "medium_turquoise", "chartreuse2",
    "sea_green2", "sea_green1", "aquamarine1", "dark_slate_gray2", "dark_magenta", "dark_violet",
    "purple", "light_pink4", "plum4", "medium_purple3", "slate_blue1", "yellow4", "wheat4",
    "grey53", "gray53", "light_slate_grey", "light_slate_gray", "medium_purple",
    "light_slate_blue", "dark_olive_green3", "dark_sea_green", "light_sky_blue3", "sky_blue2",
    "dark_sea_green3", "dark_slate_gray3", "sky_blue1", "chartreuse1", "light_green",
    "pale_green1", "dark_slate_gray1", "red3", "medium_violet_red", "magenta3", "dark_orange3",
    "indian_red", "hot_pink3", "medium_orchid3", "medium_orchid", "medium_purple2",
    "dark_goldenrod", "light_salmon3", "rosy_brown", "grey63", "gray63", "medium_purple1",
    "gold3", "dark_khaki", "navajo_white3", "grey69", "gray69", "light_steel_blue3",
    "light_steel_blue", "yellow3", "dark_sea_green2", "light_cyan3", "light_sky_blue1",
    "green_yellow", "dark_olive_green2", "dark_sea_green1", "pale_turquoise1", "deep_pink3",
    "magenta2", "hot_pink2", "orchid", "medium_orchid1", "orange3", "light_pink3", "pink3",
    "plum3", "violet", "light_goldenrod3", "tan", "misty_rose3", "thistle3", "plum2", "khaki3",
    "light_goldenrod2", "light_yellow3", "grey84", "gray84", "light_steel_blue1", "yellow2",
    "dark_olive_green1", "honeydew2", "light_cyan1", "red1", "deep_pink2", "deep_pink1",
    "magenta1", "orange_red1", "indian_red1", "hot_pink", "dark_orange", "salmon1", "light_coral",
    "pale_violet_red1", "orchid2", "orchid1", "orange1", "sandy_brown", "light_salmon1",
    "light_pink1", "pink1", "plum1", "gold1", "navajo_white1", "misty_rose1", "thistle1",
    "yellow1", "light_goldenrod1", "khaki1", "wheat1", "cornsilk1", "grey100", "gray100", "grey3",
    "gray3", "grey7", "gray7", "grey11", "gray11", "grey15", "gray15", "grey19", "gray19",
    "grey23", "gray23", "grey27", "gray27", "grey30", "gray30", "grey35", "gray35", "grey39",
    "gray39", "grey42", "gray42", "grey46", "gray46", "grey50", "gray50", "grey54", "gray54",
    "grey58", "gray58", "grey62", "gray62", "grey66", "gray66", "grey70", "gray70", "grey74",
    "gray74", "grey78", "gray78", "grey82", "gray82", "grey85", "gray85", "grey89", "gray89",
    "grey93", "gray93"]

def limit : Nat := 255

/-- The text between a word with its opening bracket and the closing bracket at the end. -/
def inside? (start : String) (cs : List Char) : Option (List Char) := do
  let rest ← Text.after? start.toList cs
  if rest.getLast? == some ')' then some rest.dropLast else none

def isHexadecimal (cs : List Char) : Bool :=
  cs.length == 6 && cs.all fun c => c.isDigit || ('a' ≤ c && c ≤ 'f')

def isNumber (cs : List Char) : Bool :=
  !cs.isEmpty && cs.length ≤ 3 && cs.all (·.isDigit) &&
    Decimal.ofDigits (cs.map fun c => c.toNat - '0'.toNat) ≤ limit

def part (cs : List Char) : Except StyleFault Int :=
  match Decimal.readWhole (String.ofList cs) with
  | .ok n => .ok n
  | .error cause => .error (.numeral (String.ofList cs) cause)

/-- Whether the text is made of what the parts of a colour are made of. -/
def isParts (cs : List Char) : Bool :=
  !cs.isEmpty && cs.all fun c => c == ',' || Text.isDigit c

def checkParts (cs : List Char) : Except StyleFault Unit := do
  match Text.cut ',' cs with
  | [red, green, blue] =>
    let parts := [← part red, ← part green, ← part blue]
    if parts.all (· ≤ limit) then return else throw .unknown
  | _ => throw .unknown

/-- Reads a colour, which is known by its name in lower case: a named colour, six digits after a
number sign, a number, or red, green and blue. -/
def read (word : String) : Except StyleFault String := do
  let name := Text.lowercase word
  if name == "default" || names.contains name then return name
  if (Text.after? ['#'] name.toList).any isHexadecimal then return name
  if (inside? "color(" name.toList).any isNumber then return name
  match (inside? "rgb(" name.toList).filter isParts with
  | some parts =>
    checkParts parts
    return name
  | none => throw .unknown

end Colour

namespace Style

def plain : Style := ⟨[], none, none, none⟩

def put (style : Style) (effect : Effect) (isOn : Bool) : Style :=
  { style with effects := (effect, isOn) :: style.effects }

def value? (style : Style) (effect : Effect) : Option Bool :=
  (style.effects.find? (·.1 == effect)).map (·.2)

def extend (style : Style) : List String → Except StyleFault Style
  | [] => .ok style
  | word :: rest => do
    let lower := Text.lowercase word
    if lower == "on" then
      match rest with
      | [] => throw .unknown
      | shade :: more =>
        let background ← Colour.read shade
        extend { style with background := some background } more
    else if lower == "not" then
      match rest with
      | [] => throw .unknown
      | name :: more =>
        match Effect.ofWord? name with
        | none => throw .unknown
        | some effect => extend (style.put effect false) more
    else if lower == "link" then
      match rest with
      | [] => throw .unknown
      | address :: more => extend { style with link := some address } more
    else match Effect.ofWord? lower with
      | some effect => extend (style.put effect true) rest
      | none =>
        let colour ← Colour.read lower
        extend { style with colour := some colour } rest

def read (cs : List Char) : Except StyleFault Style :=
  extend plain ((Text.words cs).map String.ofList)

def effectWords (style : Style) (effect : Effect) : List String :=
  match style.value? effect with
  | none => []
  | some true => [effect.name]
  | some false => ["not", effect.name]

def words (style : Style) : List String :=
  Effect.all.flatMap style.effectWords ++ style.colour.toList ++
    (style.background.toList.flatMap fun colour => ["on", colour]) ++
    (style.link.toList.flatMap fun address => ["link", address])

def text (style : Style) : String :=
  match style.words with
  | [] => "none"
  | words => String.intercalate " " words

/-- The one text for what a tag names: that of its style if it names one, else its lower case. -/
def normalize (cs : List Char) : Except StyleFault String :=
  match read cs with
  | .ok style => .ok style.text
  | .error .unknown => .ok (Text.lowercase (String.ofList (Text.trim cs)))
  | .error fault => .error fault

end Style

end Checkup
