import LintBundle.Text.Character
import LintBundle.Yaml.Glyph

/-!
# Yaml/Tag — what a node is, by its tag or its spelling

A node without a tag has the tag of its form, and a plain scalar the one its spelling suggests:
`null`, truth values spelled `true` and `false`, and numbers.  Every other plain scalar is a text,
also where it looks like a date or like another word for a truth value.
-/

namespace LintBundle.Yaml

/-- The tags with a meaning; all others are `unknown`. -/
inductive Tag
  | null | bool | int | float | binary | timestamp | str | seq | map | set | omap | pairs
  /-- The key that merges another mapping in. -/
  | merge
  /-- The key that stands for the value of a mapping. -/
  | value
  | unknown
  deriving DecidableEq, Repr

namespace Tag

/-- The names of tags, after the part that all of them share. -/
def names : List (String × Tag) :=
  [ ("null", null), ("bool", bool), ("int", int), ("float", float), ("binary", binary),
    ("timestamp", timestamp), ("str", str), ("seq", seq), ("map", map), ("set", set),
    ("omap", omap), ("pairs", pairs), ("merge", merge), ("value", value) ]

/-- The part that all tags share. -/
def family : List Char := "tag:yaml.org,2002:".toList

/-- The tag written in full. -/
def ofUri (uri : List Char) : Tag :=
  ((names.find? fun (name, _) => family ++ name.toList = uri).map Prod.snd).getD unknown

/-! ## Spellings -/

/-- A text without its sign. -/
def unsigned : List Char → List Char
  | '-' :: r => r
  | '+' :: r => r
  | r => r

/-- A digit or the underscore that may stand between digits. -/
def isDigitOr_ (c : Char) : Bool := c.isDigit || c = '_'

/-- One or more characters of a class. -/
def isRun (p : Char → Bool) (cs : List Char) : Bool := !cs.isEmpty && cs.all p

/-- One or two digits below sixty. -/
def isSixtieth : List Char → Bool
  | [d] => d.isDigit
  | [t, d] => '0' ≤ t && t ≤ '5' && d.isDigit
  | _ => false

/-- Digits followed by one or more sixtieths; `leading` says which digit may be the first. -/
def isSexagesimal (leading : Char → Bool) (cs : List Char) : Bool :=
  match Text.split ':' cs with
  | (d :: ds) :: part :: more => leading d && ds.all isDigitOr_ && (part :: more).all isSixtieth
  | _ => false

/-- The digits one to nine. -/
def isNonzeroDigit (c : Char) : Bool := '1' ≤ c && c ≤ '9'

/-- The spellings of whole numbers. -/
def isInt (cs : List Char) : Bool :=
  match unsigned cs with
  | '0' :: 'b' :: r => isRun (fun c => c = '0' || c = '1' || c = '_') r
  | '0' :: 'x' :: r => isRun (fun c => c = '_' || (Text.hexValue? c).isSome) r
  | '0' :: r => r.all fun c => ('0' ≤ c && c ≤ '7') || c = '_'
  | d :: r => (isNonzeroDigit d && r.all isDigitOr_) || isSexagesimal isNonzeroDigit (d :: r)
  | [] => false

/-- The spellings of an exponent, or none; its sign is required. -/
def isExponent : List Char → Bool
  | [] => true
  | e :: s :: r => (e = 'e' || e = 'E') && (s = '-' || s = '+') && isRun Char.isDigit r
  | _ => false

/-- The digits after a point, and an exponent. -/
def isFraction (cs : List Char) : Bool := isExponent (cs.dropWhile isDigitOr_)

/-- The spellings of numbers with a fraction. -/
def isFloat (cs : List Char) : Bool :=
  let body := unsigned cs
  match body with
  | '.' :: r =>
    (cs = body && (r.head?.any Char.isDigit) && isFraction r)
      || ["inf", "Inf", "INF"].contains (String.ofList r)
      || (cs = body && ["nan", "NaN", "NAN"].contains (String.ofList r))
  | d :: _ =>
    let whole := body.takeWhile (· ≠ '.')
    match body.dropWhile (· ≠ '.') with
    | '.' :: r =>
      d.isDigit && ((whole.all isDigitOr_ && isFraction r)
        || (isSexagesimal Char.isDigit whole && r.all isDigitOr_))
    | _ => false
  | [] => false

/-- The spellings of truth values. -/
def isBool (cs : List Char) : Bool :=
  ["true", "True", "TRUE", "false", "False", "FALSE"].contains (String.ofList cs)

/-- The spellings of `null`, nothing being one. -/
def isNull (cs : List Char) : Bool := ["", "~", "null", "Null", "NULL"].contains (String.ofList cs)

/-- A text without one line break at its end. -/
def beforeBreak (cs : List Char) : List Char :=
  if cs.getLast? = some '\n' then cs.dropLast else cs

/-- **The tag that the spelling of a plain scalar suggests.** -/
def ofSpelling (text : List Char) : Tag :=
  let cs := beforeBreak text
  if isBool cs then bool
  else if isFloat cs then float
  else if isInt cs then int
  else if cs = ['<', '<'] then merge
  else if isNull cs && text ≠ ['\n'] then null
  else if cs = ['='] then value
  else if cs = ['!'] || cs = ['&'] || cs = ['*'] then unknown
  else str

end Tag

end LintBundle.Yaml
