import LintBundle.Number.Reading
import LintBundle.Yaml.Tag

/-!
# Yaml/Tag/Reading — scalars as values

A scalar's text is read as its tag says.  Numbers may have underscores between digits and parts
that count sixtieths; a tag written out may be given to a text that does not suit it, and each
kind of mismatch is a fault of its own.
-/

namespace LintBundle.Yaml.Tag

/-! ## Truth values and whole numbers -/

/-- The words for truth values, in any case. -/
def readBool (text : List Char) : Except TextFault Value :=
  let word := String.ofList (Reading.lower text)
  if ["yes", "true", "on"].contains word then .ok (.bool true)
  else if ["no", "false", "off"].contains word then .ok (.bool false)
  else .error .unknownWord

/-- A value that has to be there. -/
def orNotANumber {α : Type} (x : Option α) : Except TextFault α :=
  x.elim (.error .notANumber) .ok

/-- A whole number in parts of sixtieths. -/
def sexagesimal? (cs : List Char) : Option Int :=
  (Text.split ':' cs).foldlM (fun n part => (Reading.int? 10 part).map (60 * n + ·)) 0

/-- A whole number without its sign: in base two, sixteen or eight after a zero, in sixtieths, or
in decimal. -/
def magnitude? (cs : List Char) : Option Int :=
  match cs with
  | ['0'] => some 0
  | '0' :: 'b' :: r => Reading.int? 2 r
  | '0' :: 'x' :: r => Reading.int? 16 r
  | '0' :: _ => Reading.int? 8 cs
  | _ => if cs.contains ':' then sexagesimal? cs else Reading.int? 10 cs

/-- A whole number; underscores do not count. -/
def readInt (text : List Char) : Except TextFault Value := do
  let cs := text.filter (· ≠ '_')
  let (negative, body) := Reading.sign cs
  if body.isEmpty then .error .emptyNumeral
  let n ← orNotANumber (magnitude? body)
  return .int (if negative then -n else n)

/-! ## Numbers with a fraction -/

/-- The weight of the part with a number, counted from the last; it has to be a finite number. -/
def weight (i : Nat) : Except TextFault Binary64 :=
  match Binary64.ofInt (Nat.pow 60 i) with
  | .finite s m q h => .ok (.finite s m q h)
  | _ => .error .tooLarge

/-- A number in parts of sixtieths, the last of which has the least weight and is added first. -/
def sexagesimalFloat (cs : List Char) : Except TextFault Binary64 := do
  let parts ← orNotANumber ((Text.split ':' cs).reverse.mapM Reading.float?)
  let weights ← (List.range parts.length).mapM weight
  return (List.zipWith Binary64.mul parts weights).foldl Binary64.add (.zero false)

/-- The sign of a number with a fraction and its numeral in lower case, without underscores. -/
def numeral (text : List Char) : Bool × List Char :=
  Reading.sign (Reading.lower (text.filter (· ≠ '_')))

/-- Whether a numeral is the word for `nan`. -/
def isNanWord (text : List Char) : Bool := (numeral text).2 = ".nan".toList

/-- A number with a fraction; underscores and case do not count. -/
def readFloat (text : List Char) : Except TextFault Value := do
  if text.all (· = '_') then .error .emptyNumeral
  let (negative, body) := numeral text
  if body = ".inf".toList then return .float (.infinite negative)
  else if body = ".nan".toList then return .float .nan
  else
    let x ← if body.contains ':' then sexagesimalFloat body else orNotANumber (Reading.float? body)
    return .float (if negative then x.neg else x)

/-! ## Byte strings -/

/-- The value of a base-64 digit. -/
def base64Value? (c : Char) : Option Nat :=
  if 'A' ≤ c && c ≤ 'Z' then some (c.toNat - 'A'.toNat)
  else if 'a' ≤ c && c ≤ 'z' then some (c.toNat - 'a'.toNat + 26)
  else if '0' ≤ c && c ≤ '9' then some (c.toNat - '0'.toNat + 52)
  else if c = '+' then some 62
  else if c = '/' then some 63
  else none

/-- The bytes of base-64 text, given how many digits of the current group were read, the bits left
over from the last one, and how many padding marks followed it.  Other characters are skipped; the
text is over when a group is full with its padding. -/
def base64? (count left pads : Nat) : List Char → Option (List UInt8)
  | [] => if count = 0 then some [] else none
  | c :: r =>
    if c = '=' then
      if 2 ≤ count then
        if 4 ≤ count + pads + 1 then some [] else base64? count left (pads + 1) r
      else base64? count left pads r
    else
      match base64Value? c with
      | none => base64? count left pads r
      | some d =>
        match count with
        | 0 => base64? 1 d 0 r
        | 1 => (base64? 2 (d % 16) 0 r).map (UInt8.ofNat (left * 4 + d / 16) :: ·)
        | 2 => (base64? 3 (d % 4) 0 r).map (UInt8.ofNat (left * 16 + d / 4) :: ·)
        | _ => (base64? 0 0 0 r).map (UInt8.ofNat (left * 64 + d) :: ·)

/-- A byte string. -/
def readBinary (text : List Char) : Except TextFault Value :=
  if text.all fun c => c.toNat < 128 then
    (base64? 0 0 0 text).elim (.error .malformed) fun bytes => .ok (.bytes bytes)
  else .error .malformed

/-! ## Dates -/

/-- One or two digits in front. -/
def oneOrTwo : List Char → Option (Nat × List Char)
  | a :: b :: r =>
    if a.isDigit then
      if b.isDigit then some (10 * digit a + digit b, r) else some (digit a, b :: r)
    else none
  | [a] => if a.isDigit then some (digit a, []) else none
  | [] => none
where
  digit (c : Char) : Nat := c.toNat - '0'.toNat

/-- Exactly two digits in front. -/
def exactlyTwo (cs : List Char) : Option (Nat × List Char) :=
  match cs with
  | a :: b :: _ => if a.isDigit && b.isDigit then oneOrTwo cs else none
  | _ => none

/-- What follows a character in front. -/
def after (c : Char) : List Char → Option (List Char)
  | d :: r => if d = c then some r else none
  | [] => none

/-- The offset of a zone in seconds: `Z`, or a sign with hours and perhaps minutes. -/
def zone? (cs : List Char) : Option (Option Int) :=
  match cs.dropWhile fun c => c = ' ' || c = '\t' with
  | [] => if cs.isEmpty then some none else none
  | ['Z'] => some (some 0)
  | s :: r => do
    if s ≠ '+' && s ≠ '-' then none
    let (hours, rest) ← oneOrTwo r
    let minutes ← match rest with
      | [] => some 0
      | ':' :: r => do
        let (minutes, rest) ← exactlyTwo r
        if rest.isEmpty then some minutes else none
      | _ => none
    let seconds : Int := 3600 * hours + 60 * minutes
    return some (if s = '-' then -seconds else seconds)

/-- Digits of a fraction as microseconds; those after the sixth do not count. -/
def microseconds (ds : List Char) : Nat :=
  Reading.ofDigits 10 ((ds.take 6 ++ List.replicate (6 - ds.length) '0').map
    fun c => c.toNat - '0'.toNat)

/-- The time of day after a date. -/
def time? (date : Nat × Nat × Nat) (cs : List Char) : Option (Except TextFault Value) := do
  let (hour, rest) ← oneOrTwo cs
  let (minute, rest) ← exactlyTwo (← after ':' rest)
  let (second, rest) ← exactlyTwo (← after ':' rest)
  let (fraction, rest) := match rest with
    | '.' :: r => (microseconds (r.takeWhile Char.isDigit), r.dropWhile Char.isDigit)
    | r => (0, r)
  let offset ← zone? rest
  let (year, month, day) := date
  return orNotANumber do
    let date ← Date.ofNumbers? year month day
    return .moment (← Moment.ofNumbers? date hour minute second fraction offset)

/-- A date, or a date and a time after `T` or blanks; nothing if the text looks like neither. -/
def timestamp? (text : List Char) : Option (Except TextFault Value) := do
  let cs := beforeBreak text
  let (century, rest) ← exactlyTwo cs
  let (years, rest) ← exactlyTwo rest
  let year := 100 * century + years
  let (month, rest) ← oneOrTwo (← after '-' rest)
  let (day, rest) ← oneOrTwo (← after '-' rest)
  match rest with
  | [] => return orNotANumber ((Date.ofNumbers? year month day).map .date)
  | c :: r =>
    if c = 'T' || c = 't' then time? (year, month, day) r
    else if c = ' ' || c = '\t' then
      time? (year, month, day) (r.dropWhile fun c => c = ' ' || c = '\t')
    else none

/-- A date or a moment. -/
def readTimestamp (text : List Char) : Except TextFault Value :=
  (timestamp? text).getD (.error .notADate)

/-! ## Scalars -/

/-- Whether a tag is one that a text is read by. -/
def isScalar : Tag → Bool
  | null | bool | int | float | binary | timestamp | str => true
  | _ => false

/-- **The value of a scalar's text.** -/
def read (tag : Tag) (text : List Point) : Except TextFault Value :=
  match tag with
  | null => .ok .null
  | bool => readBool (Text.shapes text)
  | int => readInt (Text.shapes text)
  | float => readFloat (Text.shapes text)
  | binary => readBinary (Text.shapes text)
  | timestamp => readTimestamp (Text.shapes text)
  | str => .ok (.str (.ofList text))
  | _ => .error .malformed

end LintBundle.Yaml.Tag
