import NamedConditions.Text.Blank
import NamedConditions.Text.Digit
import NamedConditions.Text.Split
/-!
Styles: what the name of a tag says about how text is shown. A style is written as words: attributes
of letters, each perhaps with `not` before it, a color, a color behind `on`, and an address behind
`link`. Names that say the same have one normal form, by which an opening and a closing tag are
matched.
-/
namespace NamedConditions.Markup

/-- Why words are no style. -/
inductive StyleProblem
  | unknown
  /-- A part of a color is no number. -/
  | noNumber
  deriving DecidableEq

/-- The names of colors. -/
def colorNames : List String := [
    "black", "red", "green", "yellow", "blue", "magenta", "cyan", "white", "bright_black",
    "bright_red", "bright_green", "bright_yellow", "bright_blue", "bright_magenta", "bright_cyan",
    "bright_white", "grey0", "gray0", "navy_blue", "dark_blue", "blue3", "blue1", "dark_green",
    "deep_sky_blue4", "dodger_blue3", "dodger_blue2", "green4", "spring_green4", "turquoise4",
    "deep_sky_blue3", "dodger_blue1", "green3", "spring_green3", "dark_cyan", "light_sea_green",
    "deep_sky_blue2", "deep_sky_blue1", "spring_green2", "cyan3", "dark_turquoise", "turquoise2",
    "green1", "spring_green1", "medium_spring_green", "cyan2", "cyan1", "dark_red", "deep_pink4",
    "purple4", "purple3", "blue_violet", "orange4", "grey37", "gray37", "medium_purple4",
    "slate_blue3", "royal_blue1", "chartreuse4", "dark_sea_green4", "pale_turquoise4", "steel_blue",
    "steel_blue3", "cornflower_blue", "chartreuse3", "cadet_blue", "sky_blue3", "steel_blue1",
    "pale_green3", "sea_green3", "aquamarine3", "medium_turquoise", "chartreuse2", "sea_green2",
    "sea_green1", "aquamarine1", "dark_slate_gray2", "dark_magenta", "dark_violet", "purple",
    "light_pink4", "plum4", "medium_purple3", "slate_blue1", "yellow4", "wheat4", "grey53",
    "gray53", "light_slate_grey", "light_slate_gray", "medium_purple", "light_slate_blue",
    "dark_olive_green3", "dark_sea_green", "light_sky_blue3", "sky_blue2", "dark_sea_green3",
    "dark_slate_gray3", "sky_blue1", "chartreuse1", "light_green", "pale_green1",
    "dark_slate_gray1", "red3", "medium_violet_red", "magenta3", "dark_orange3", "indian_red",
    "hot_pink3", "medium_orchid3", "medium_orchid", "medium_purple2", "dark_goldenrod",
    "light_salmon3", "rosy_brown", "grey63", "gray63", "medium_purple1", "gold3", "dark_khaki",
    "navajo_white3", "grey69", "gray69", "light_steel_blue3", "light_steel_blue", "yellow3",
    "dark_sea_green2", "light_cyan3", "light_sky_blue1", "green_yellow", "dark_olive_green2",
    "dark_sea_green1", "pale_turquoise1", "deep_pink3", "magenta2", "hot_pink2", "orchid",
    "medium_orchid1", "orange3", "light_pink3", "pink3", "plum3", "violet", "light_goldenrod3",
    "tan", "misty_rose3", "thistle3", "plum2", "khaki3", "light_goldenrod2", "light_yellow3",
    "grey84", "gray84", "light_steel_blue1", "yellow2", "dark_olive_green1", "honeydew2",
    "light_cyan1", "red1", "deep_pink2", "deep_pink1", "magenta1", "orange_red1", "indian_red1",
    "hot_pink", "dark_orange", "salmon1", "light_coral", "pale_violet_red1", "orchid2", "orchid1",
    "orange1", "sandy_brown", "light_salmon1", "light_pink1", "pink1", "plum1", "gold1",
    "navajo_white1", "misty_rose1", "thistle1", "yellow1", "light_goldenrod1", "khaki1", "wheat1",
    "cornsilk1", "grey100", "gray100", "grey3", "gray3", "grey7", "gray7", "grey11", "gray11",
    "grey15", "gray15", "grey19", "gray19", "grey23", "gray23", "grey27", "gray27", "grey30",
    "gray30", "grey35", "gray35", "grey39", "gray39", "grey42", "gray42", "grey46", "gray46",
    "grey50", "gray50", "grey54", "gray54", "grey58", "gray58", "grey62", "gray62", "grey66",
    "gray66", "grey70", "gray70", "grey74", "gray74", "grey78", "gray78", "grey82", "gray82",
    "grey85", "gray85", "grey89", "gray89", "grey93", "gray93"]

/-- The attributes of letters, in the order in which they are written. -/
def attributeNames : List String :=
  ["bold", "dim", "italic", "underline", "blink", "blink2", "reverse", "conceal", "strike",
    "underline2", "frame", "encircle", "overline"]

/-- Short words for attributes. -/
def shortNames : List (String × String) :=
  [("d", "dim"), ("b", "bold"), ("i", "italic"), ("u", "underline"), ("r", "reverse"),
    ("c", "conceal"), ("s", "strike"), ("uu", "underline2"), ("o", "overline")]

/-- The attribute that a word means. -/
def attribute? (word : String) : Option String :=
  (shortNames.lookup word).or (if word ∈ attributeNames then some word else none)

/-- What says how text is shown. -/
structure Style where
  attributes : List (String × Bool)
  color? : Option String
  background? : Option String
  link? : Option String

/-! ## Colors -/

/-- A word in small letters. -/
def lowered (word : String) : String := String.ofList (word.toList.map Char.toLower)

/-- What stands between an opening and a closing part of a text. -/
def between? (opening closing : String) (text : String) : Option (List Char) :=
  let size := text.length - opening.length - closing.length
  let inner := (text.toList.drop opening.length).take size
  if opening ++ String.ofList inner ++ closing = text then some inner else none

/-- The value of a run of digits of any script. -/
def digitsValue (digits : List Nat) : Nat := digits.foldl (fun n d => 10 * n + d) 0

/-- The value of a text of digits. -/
def count? (text : List Char) : Option Nat :=
  if text.isEmpty then none else (text.mapM Text.digitValue?).map digitsValue

/-- Whether a number can be a part of a color. -/
def isColorPart (n : Nat) : Bool := n ≤ 255

/-- Whether three texts are the parts of a color. -/
def checkParts (parts : List (List Char)) : Except StyleProblem Unit :=
  if parts.length ≠ 3 then .error .unknown
  else
    match parts.mapM count? with
    | none => .error .noNumber
    | some values => if values.all isColorPart then .ok () else .error .unknown

/-- Whether a word is the number of a color, in ASCII. -/
def isColorNumber (digits : List Char) : Bool :=
  digits.all Char.isDigit && 1 ≤ digits.length && digits.length ≤ 3 &&
    (count? digits).any isColorPart

/-- Whether a word is a color with six hexadecimal digits. -/
def isHexColor (word : String) : Bool :=
  match word.toList with
  | '#' :: digits =>
    digits.length = 6 && digits.all fun c => c.isDigit || ('a' ≤ c && c ≤ 'f')
  | _ => false

/-- Reads a word as a color and gives its name. -/
def color (word : String) : Except StyleProblem String :=
  let name := lowered word
  if name = "default" || name ∈ colorNames || isHexColor name then .ok name
  else if ((between? "color(" ")" name).any isColorNumber) then .ok name
  else
    match between? "rgb(" ")" name with
    | none => .error .unknown
    | some parts =>
      if !parts.isEmpty && parts.all fun c => c = ',' || (Text.digitValue? c).isSome then
        (checkParts (Text.pieces ',' parts)).map fun _ => name
      else .error .unknown

/-! ## Styles -/

namespace Style

/-- The style that says nothing. -/
def plain : Style := ⟨[], none, none, none⟩

/-- Sets an attribute. -/
def setAttribute (name : String) (b : Bool) (s : Style) : Style :=
  { s with attributes := (name, b) :: s.attributes.filter fun a => a.1 ≠ name }

/-- Adds to a style what words say. -/
def read (s : Style) : List String → Except StyleProblem Style
  | [] => .ok s
  | word :: words =>
    match lowered word, words with
    | "on", name :: words => do read { s with background? := some (← color name) } words
    | "not", name :: words =>
      match attribute? name with
      | some name => read (s.setAttribute name false) words
      | none => .error .unknown
    | "link", address :: words => read { s with link? := some address } words
    | "on", [] | "not", [] | "link", [] => .error .unknown
    | name, words =>
      match attribute? name with
      | some name => read (s.setAttribute name true) words
      | none => do read { s with color? := some (← color name) } words

/-- The words for a style. -/
def words (s : Style) : List String :=
  (attributeNames.flatMap fun name =>
    match s.attributes.lookup name with
    | some true => [name]
    | some false => ["not", name]
    | none => []) ++
  s.color?.toList ++ (s.background?.elim [] fun name => ["on", name]) ++
  (s.link?.elim [] fun address => ["link", address])

/-- A style in its normal form. -/
def text (s : Style) : String :=
  if s.words.isEmpty then "none" else " ".intercalate s.words

end Style

/-- The words of a text between blanks. -/
def wordsOf (text : List Char) : List String :=
  ((Text.pieces ' ' (text.map fun c => if Text.isBlank c then ' ' else c)).filter
    fun w => !w.isEmpty).map String.ofList

/-- The normal form of a name: that of the style that it is, or else the name in small letters. -/
def normalName (name : List Char) : Except StyleProblem String :=
  match Style.plain.read (wordsOf name) with
  | .ok style => .ok style.text
  | .error .unknown => .ok (lowered (String.ofList (Text.strip name)))
  | .error .noNumber => .error .noNumber

end NamedConditions.Markup
