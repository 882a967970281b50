import LintBundle.Fault
import LintBundle.Number.Reading

/-!
# Console/Style — styles by their descriptions

A style is described by words: attributes, which can be negated, a colour, a background after `on`,
and an address after `link`.  Two descriptions are one style if they have the same canonical text,
which lists the attributes in a fixed order before the colours.  What describes no style is a name,
in any case.
-/

namespace LintBundle

/-- A style. -/
structure Style where
  /-- The attributes that are on or off. -/
  attributes : List (String × Bool)
  color : Option (List Char)
  background : Option (List Char)
  link : Option (List Point)

namespace Style

/-- The style that changes nothing. -/
def plain : Style := ⟨[], none, none, none⟩

instance : Inhabited Style := ⟨plain⟩

/-! ## Words -/

/-- The attributes in canonical order, each with its short name where it has one. -/
def attributeNames : List (String × Option String) :=
  [ ("bold", "b"), ("dim", "d"), ("italic", "i"), ("underline", "u"), ("blink", none),
    ("blink2", none), ("reverse", "r"), ("conceal", "c"), ("strike", "s"), ("underline2", "uu"),
    ("frame", none), ("encircle", none), ("overline", "o") ]

/-- The attribute with a name. -/
def attribute? (word : List Char) : Option String :=
  let word := String.ofList word
  (attributeNames.find? fun (name, short) => name = word || short = some word).map Prod.fst

/-- The shades of grey. -/
def greys : List Nat :=
  [ 0, 3, 7, 11, 15, 19, 23, 27, 30, 35, 37, 39, 42, 46, 50, 53, 54, 58, 62, 63, 66, 69,
    70, 74, 78, 82, 84, 85, 89, 93, 100 ]

/-- The names of colours: whether the name alone is one, and the numbers of its shades. -/
def colorNames : List (String × Bool × List Nat) :=
  [ ("black", true, []), ("red", true, [1, 3]), ("green", true, [1, 3, 4]),
    ("yellow", true, [1, 2, 3, 4]), ("blue", true, [1, 3]), ("magenta", true, [1, 2, 3]),
    ("cyan", true, [1, 2, 3]), ("white", true, []), ("bright_black", true, []),
    ("bright_red", true, []), ("bright_green", true, []), ("bright_yellow", true, []),
    ("bright_blue", true, []), ("bright_magenta", true, []), ("bright_cyan", true, []),
    ("bright_white", true, []), ("grey", false, greys), ("gray", false, greys),
    ("navy_blue", true, []), ("dark_blue", true, []), ("dark_green", true, []),
    ("deep_sky_blue", false, [1, 2, 3, 4]), ("dodger_blue", false, [1, 2, 3]),
    ("spring_green", false, [1, 2, 3, 4]), ("turquoise", false, [2, 4]), ("dark_cyan", true, []),
    ("light_sea_green", true, []), ("dark_turquoise", true, []),
    ("medium_spring_green", true, []), ("dark_red", true, []),
    ("deep_pink", false, [1, 2, 3, 4]), ("purple", true, [3, 4]), ("blue_violet", true, []),
    ("orange", false, [1, 3, 4]), ("medium_purple", true, [1, 2, 3, 4]),
    ("slate_blue", false, [1, 3]), ("royal_blue", false, [1]),
    ("chartreuse", false, [1, 2, 3, 4]), ("dark_sea_green", true, [1, 2, 3, 4]),
    ("pale_turquoise", false, [1, 4]), ("steel_blue", true, [1, 3]),
    ("cornflower_blue", true, []), ("cadet_blue", true, []), ("sky_blue", false, [1, 2, 3]),
    ("pale_green", false, [1, 3]), ("sea_green", false, [1, 2, 3]),
    ("aquamarine", false, [1, 3]), ("medium_turquoise", true, []),
    ("dark_slate_gray", false, [1, 2, 3]), ("dark_magenta", true, []), ("dark_violet", true, []),
    ("light_pink", false, [1, 3, 4]), ("plum", false, [1, 2, 3, 4]), ("wheat", false, [1, 4]),
    ("light_slate_grey", true, []), ("light_slate_gray", true, []),
    ("light_slate_blue", true, []), ("dark_olive_green", false, [1, 2, 3]),
    ("light_sky_blue", false, [1, 3]), ("light_green", true, []),
    ("medium_violet_red", true, []), ("dark_orange", true, [3]), ("indian_red", true, [1]),
    ("hot_pink", true, [2, 3]), ("medium_orchid", true, [1, 3]), ("dark_goldenrod", true, []),
    ("light_salmon", false, [1, 3]), ("rosy_brown", true, []), ("gold", false, [1, 3]),
    ("dark_khaki", true, []), ("navajo_white", false, [1, 3]),
    ("light_steel_blue", true, [1, 3]), ("light_cyan", false, [1, 3]),
    ("green_yellow", true, []), ("orchid", true, [1, 2]), ("pink", false, [1, 3]),
    ("violet", true, []), ("light_goldenrod", false, [1, 2, 3]), ("tan", true, []),
    ("misty_rose", false, [1, 3]), ("thistle", false, [1, 3]), ("khaki", false, [1, 3]),
    ("light_yellow", false, [3]), ("honeydew", false, [2]), ("orange_red", false, [1]),
    ("salmon", false, [1]), ("light_coral", true, []), ("pale_violet_red", false, [1]),
    ("sandy_brown", true, []), ("cornsilk", false, [1]) ]

/-- Whether a word, in lower case, is the name of a colour. -/
def isColorName (word : List Char) : Bool :=
  word = "default".toList ||
    colorNames.any fun (name, isColor, shades) =>
      (isColor && word = name.toList)
        || shades.any fun shade => word = name.toList ++ decimalText shade

/-- What stands between a beginning and a closing bracket. -/
def between? (opening : String) (word : List Char) : Option (List Char) :=
  let lead := opening.toList
  if lead.isPrefixOf word && word.getLast? = some ')' then some ((word.drop lead.length).dropLast)
  else none

/-- Whether a number names one of the 256 colours. -/
def isColorNumber (digits : List Char) : Bool :=
  digits.length ≤ 3 && digits.all Char.isDigit && (Reading.int? 10 digits).any (· ≤ 255)

/-- Whether a list of parts is a colour given by red, green and blue; each part has to be there. -/
def isMixed (parts : List Char) : Except Fault Bool :=
  if parts.isEmpty || !parts.all fun c => c = ',' || (digitValue? c).isSome then .ok false
  else
    match Text.split ',' parts with
    | [red, green, blue] =>
      match [red, green, blue].mapM (Reading.int? 10) with
      | some values => .ok (values.all (· ≤ 255))
      | none => .error .badColor
    | _ => .ok false

/-- Whether a word is a colour: a name, six hexadecimal digits, a number, or three. -/
def isColor (word : List Char) : Except Fault Bool :=
  let word := Reading.lower word
  match word, between? "color(" word, between? "rgb(" word with
  | _, some digits, _ => .ok (isColorNumber digits)
  | _, _, some parts => isMixed parts
  | '#' :: digits, _, _ =>
    .ok (digits.length = 6 && digits.all fun c => (Text.hexValue? c).isSome)
  | word, _, _ => .ok (isColorName word)

/-! ## Descriptions -/

/-- A style with an attribute on or off. -/
def withAttribute (s : Style) (name : String) (isOn : Bool) : Style :=
  { s with attributes := (name, isOn) :: s.attributes.filter fun (n, _) => n ≠ name }

/-- The style of words, on top of another; nothing if they describe none. -/
def ofWords (s : Style) : List (List Point) → Except Fault (Option Style)
  | [] => .ok (some s)
  | word :: rest =>
    match String.ofList (Reading.lower (Text.shapes word)), rest with
    | "on", [] | "not", [] | "link", [] => .ok none
    | "on", color :: rest => do
      let color := Reading.lower (Text.shapes color)
      if ← isColor color then ofWords { s with background := some color } rest else return none
    | "not", name :: rest =>
      match attribute? (Text.shapes name) with
      | some name => ofWords (s.withAttribute name false) rest
      | none => .ok none
    | "link", address :: rest => ofWords { s with link := some address } rest
    | _, rest => do
      let word := Reading.lower (Text.shapes word)
      match attribute? word with
      | some name => ofWords (s.withAttribute name true) rest
      | none =>
        if ← isColor word then ofWords { s with color := some word } rest else return none

/-- The words of a style's canonical text. -/
def words (s : Style) : List (List Point) :=
  let attributes := attributeNames.flatMap fun (name, _) =>
    match s.attributes.lookup name with
    | some true => [name.toList]
    | some false => ["not".toList, name.toList]
    | none => []
  let written := attributes ++ s.color.toList
    ++ (s.background.elim [] fun color => ["on".toList, color])
  written.map (·.map .char)
    ++ (s.link.elim [] fun address => ["link".toList.map .char, address])

/-- The canonical text of a style; one that changes nothing has a word of its own. -/
def text (s : Style) : List Point :=
  if s.words.isEmpty then "none".toList.map .char else Text.join (.char ' ') s.words

/-- A code point in lower case, for ASCII letters. -/
def lower : Point → Point
  | .char c => .char c.toLower
  | .half i => .half i

/-- **The canonical text of a description.** -/
def canonical (description : List Point) : Except Fault (List Point) := do
  let words := Text.words description
  if words = ["none".toList.map .char] then return plain.text
  match ← ofWords plain words with
  | some s => return s.text
  | none => return (Text.trim Point.isSpace description).map lower

end Style

end LintBundle
