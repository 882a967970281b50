import LintBundle.Json.Basic
import LintBundle.Text.Character

/-!
# Json/Reader — JSON text as data

The grammar is that of JSON, with the words for infinities and `nan` as further numbers.  Control
characters have to be escaped inside a text, and nothing but blanks may follow the data.  Escaped
halves of a surrogate pair are joined; a half that stands alone stays one.
-/

namespace LintBundle.Json

namespace Reader

/-- The blanks between tokens. -/
def skipBlank : List Char → List Char
  | [] => []
  | c :: r => if c = ' ' || c = '\t' || c = '\n' || c = '\r' then skipBlank r else c :: r

/-- The code unit four digits name. -/
def unit? (a b c d : Char) : Option Point := (Text.hexCode? [a, b, c, d]).map Point.ofNat

/-- The character of an escape of one letter. -/
def simpleEscape? (c : Char) : Option Char :=
  if c = '"' || c = '\\' || c = '/' then some c
  else if c = 'b' then some '\x08'
  else if c = 'f' then some '\x0c'
  else if c = 'n' then some '\n'
  else if c = 'r' then some '\r'
  else if c = 't' then some '\t'
  else none

/-- A text after its opening quote: plain characters and escaped code units, and what follows the
closing quote. -/
def units : List Char → Option (List Point × List Char)
  | '"' :: r => some ([], r)
  | '\\' :: 'u' :: a :: b :: c :: d :: r => do
    let u ← unit? a b c d
    let (us, rest) ← units r
    return (u :: us, rest)
  | '\\' :: c :: r => do
    let c ← simpleEscape? c
    let (us, rest) ← units r
    return (.char c :: us, rest)
  | c :: r =>
    if c.toNat < 0x20 || c = '\\' then none
    else do
      let (us, rest) ← units r
      return (.char c :: us, rest)
  | [] => none

/-- A text after its opening quote. -/
def text (cs : List Char) : Except TextFault (Text × List Char) :=
  match units cs with
  | some (us, rest) => .ok (.ofList (Text.joined us), rest)
  | none => .error .malformed

/-! ## Numbers -/

/-- The digits in front, and what follows. -/
def spanDigits : List Char → List Nat × List Char
  | [] => ([], [])
  | c :: r =>
    if '0' ≤ c && c ≤ '9' then
      let (ds, rest) := spanDigits r
      ((c.toNat - '0'.toNat) :: ds, rest)
    else ([], c :: r)

/-- A fraction part: a point with digits after it, or nothing. -/
def fraction (cs : List Char) : Option (List Nat) × List Char :=
  match cs with
  | '.' :: r =>
    match spanDigits r with
    | ([], _) => (none, cs)
    | (ds, rest) => (some ds, rest)
  | _ => (none, cs)

/-- An exponent part: `e` with an optional sign and digits, or nothing. -/
def exponent (cs : List Char) : Option Int × List Char :=
  match cs with
  | c :: r =>
    if c = 'e' || c = 'E' then
      let (negative, r) := Reading.sign r
      match spanDigits r with
      | ([], _) => (none, cs)
      | (ds, rest) =>
        let n : Int := Reading.ofDigits 10 ds
        (some (if negative then -n else n), rest)
    else (none, cs)
  | [] => (none, [])

/-- A number without its sign: the whole part has no leading zero, and a number without fraction
and exponent is a whole number. -/
def number (negative : Bool) (cs : List Char) : Except TextFault (Json × List Char) :=
  let (whole, rest) := match cs with
    | '0' :: r => ([0], r)
    | cs => spanDigits cs
  if whole.isEmpty then .error .malformed
  else
    let (part, rest) := fraction rest
    let (e, rest) := exponent rest
    if part.isNone && e.isNone then
      if decimalDigitLimit < whole.length then .error .notANumber
      else
        let n : Int := Reading.ofDigits 10 whole
        .ok (.int (if negative then -n else n), rest)
    else
      let part := part.getD []
      .ok (.float (.ofDecimal negative (whole ++ part) (e.getD 0 - part.length)), rest)

/-- What follows a word in front of the text. -/
def afterWord? (word : String) (cs : List Char) : Option (List Char) :=
  if word.toList.isPrefixOf cs then some (cs.drop word.toList.length) else none

/-- The words that are data of their own. -/
def words : List (String × Json) :=
  [ ("null", .null), ("true", .bool true), ("false", .bool false), ("NaN", .float .nan),
    ("Infinity", .float (.infinite false)), ("-Infinity", .float (.infinite true)) ]

/-- A word or a number. -/
def scalar (cs : List Char) : Except TextFault (Json × List Char) :=
  match words.findSome? fun (word, j) => (afterWord? word cs).map (j, ·) with
  | some found => .ok found
  | none =>
    match cs with
    | '-' :: r => number true r
    | cs => number false cs

/-! ## Data -/

/-- How deep arrays and objects can lie in one another. -/
def nestingLimit : Nat := 975

mutual

/-- Data after blanks, and what follows it; `room` is how many levels may still begin, and `fuel`
bounds the steps. -/
def value (room : Nat) : Nat → List Char → Except TextFault (Json × List Char)
  | 0, _ => .error .malformed
  | fuel + 1, cs =>
    match skipBlank cs with
    | '"' :: r => do
      let (s, rest) ← text r
      return (.str s, rest)
    | '[' :: r => do
      if room = 0 then throw .tooDeep
      match skipBlank r with
      | ']' :: rest => return (.array [], rest)
      | r =>
        let (items, rest) ← items (room - 1) fuel r
        return (.array items, rest)
    | '\x7b' :: r => do
      if room = 0 then throw .tooDeep
      match skipBlank r with
      | '\x7d' :: rest => return (.object [], rest)
      | r =>
        let (members, rest) ← members (room - 1) fuel r
        return (.object members, rest)
    | cs => scalar cs
termination_by structural fuel => fuel

/-- The items of an array up to its closing bracket. -/
def items (room : Nat) : Nat → List Char → Except TextFault (List Json × List Char)
  | 0, _ => .error .malformed
  | fuel + 1, cs => do
    let (j, rest) ← value room fuel cs
    match skipBlank rest with
    | ',' :: r =>
      let (js, rest) ← items room fuel r
      return (j :: js, rest)
    | ']' :: rest => return ([j], rest)
    | _ => .error .malformed
termination_by structural fuel => fuel

/-- The members of an object up to its closing bracket. -/
def members (room : Nat) : Nat → List Char → Except TextFault (List (Text × Json) × List Char)
  | 0, _ => .error .malformed
  | fuel + 1, cs =>
    match skipBlank cs with
    | '"' :: r => do
      let (name, rest) ← text r
      match skipBlank rest with
      | ':' :: r =>
        let (j, rest) ← value room fuel r
        match skipBlank rest with
        | ',' :: r =>
          let (more, rest) ← members room fuel r
          return ((name, j) :: more, rest)
        | '\x7d' :: rest => return ([(name, j)], rest)
        | _ => .error .malformed
      | _ => .error .malformed
    | _ => .error .malformed
termination_by structural fuel => fuel

end

end Reader

/-- **The data a JSON text writes.** -/
def read (cs : List Char) : Except TextFault Json := do
  let (j, rest) ← Reader.value Reader.nestingLimit (2 * cs.length + 2) cs
  if (Reader.skipBlank rest).isEmpty then return j else .error .malformed

end LintBundle.Json
