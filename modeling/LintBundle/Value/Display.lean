import LintBundle.Value.Basic
import LintBundle.Text.Printable

/-!
# Value/Display — values as messages name them

A message shows a text as it stands, and everything else in a form that tells texts, numbers and
containers apart: texts inside containers are quoted, with the quote mark that needs no escape
where there is one, and code points that do not show are written by their code.  A container that
contains itself shows brackets with dots at the place where it returns.  Whole numbers have a limit
on their length; a value with a longer one cannot be shown.
-/

namespace LintBundle

namespace Display

/-- One hexadecimal digit. -/
def hexDigit (n : Nat) : Char := if n < 10 then Char.ofNat (48 + n) else Char.ofNat (87 + n)

/-- The last `width` hexadecimal digits of a number. -/
def hex (width n : Nat) : List Char :=
  match width with
  | 0 => []
  | w + 1 => hex w (n / 16) ++ [hexDigit (n % 16)]

/-- The quote mark for a text: double where the text has a single quote and no double one. -/
def quoteMark (hasSingle hasDouble : Bool) : Char := if hasSingle && !hasDouble then '"' else '\''

/-- A character inside quotes. -/
def quotedChar (mark c : Char) : List Char :=
  if c = mark || c = '\\' then ['\\', c]
  else if c = '\n' then ['\\', 'n']
  else if c = '\r' then ['\\', 'r']
  else if c = '\t' then ['\\', 't']
  else if isPrintable c then [c]
  else if c.toNat < 0x100 then '\\' :: 'x' :: hex 2 c.toNat
  else if c.toNat < 0x10000 then '\\' :: 'u' :: hex 4 c.toNat
  else '\\' :: 'U' :: hex 8 c.toNat

/-- The escape of a half of a surrogate pair. -/
def halfEscape (i : Fin 2048) : List Char := '\\' :: 'u' :: hex 4 (0xd800 + i)

/-- A code point inside quotes. -/
def quotedPoint (mark : Char) : Point → List Char
  | .char c => quotedChar mark c
  | .half i => halfEscape i

/-- A text in quotes. -/
def quoted (ps : List Point) : List Char :=
  let mark := quoteMark (ps.contains '\'') (ps.contains '"')
  mark :: ps.flatMap (quotedPoint mark) ++ [mark]

/-- A byte string in quotes, each byte a character below 256. -/
def quotedBytes (data : List UInt8) : List Char :=
  let cs := data.map fun b => Char.ofNat b.toNat
  let mark := quoteMark (cs.contains '\'') (cs.contains '"')
  let byte (c : Char) : List Char :=
    if c.toNat < 0x7f then quotedChar mark c else '\\' :: 'x' :: hex 2 c.toNat
  'b' :: mark :: cs.flatMap byte ++ [mark]

/-- Texts with a comma between them. -/
def commaSeparated (parts : List (List Char)) : List Char := (parts.intersperse [',', ' ']).flatten

/-- A constructor with its arguments. -/
def applied (name : String) (arguments : List (List Char)) : List Char :=
  name.toList ++ '(' :: commaSeparated arguments ++ [')']

/-- A date inside a container. -/
def dateParts (d : Date) : List (List Char) := [d.year, d.month, d.day].map decimalText

/-- The zone of a moment: the offset in days and seconds of a day. -/
def zone (seconds : Int) : List Char :=
  if seconds = 0 then "datetime.timezone.utc".toList
  else
    let days := if seconds < 0 then ["days=-1".toList] else []
    let rest := if seconds < 0 then seconds + 86400 else seconds
    let delta := applied "datetime.timedelta" (days ++ ["seconds=".toList ++ intText rest])
    applied "datetime.timezone" [delta]

/-- A moment inside a container; seconds are left out where they and the fraction are zero. -/
def moment (m : Moment) : List Char :=
  let fine :=
    if m.microsecond ≠ 0 then [m.second, m.microsecond]
    else if m.second ≠ 0 then [m.second] else []
  let clock := [m.hour, m.minute] ++ fine
  applied "datetime.datetime" (dateParts m.date ++ clock.map decimalText
    ++ (m.offset.elim [] fun s => ["tzinfo=".toList ++ zone s]))

end Display

namespace Value

open Display

/-- The bracketed dots that stand for a container inside itself. -/
def dots : Kind → List Char
  | .list => "[...]".toList
  | .tuple => "(...)".toList
  | .map => "\x7b...\x7d".toList
  | _ => "...".toList

mutual

/-- **A value inside a container**, where `around` holds the labels of the containers around it and
what stands for each. -/
def inner (around : List (Nat × List Char)) : Value → List Char
  | null => "None".toList
  | bool b => if b then "True".toList else "False".toList
  | int n => intText n
  | float x => x.text
  | str s => quoted s.toList
  | list items => '[' :: commaSeparated (innerItems around items) ++ [']']
  | tuple [v] => '(' :: inner around v ++ [',', ')']
  | tuple items => '(' :: commaSeparated (innerItems around items) ++ [')']
  | set [] => "set()".toList
  | set items => '\x7b' :: commaSeparated (innerItems around items) ++ ['\x7d']
  | map entries => '\x7b' :: commaSeparated (innerEntries around entries) ++ ['\x7d']
  | bytes data => quotedBytes data
  | date d => applied "datetime.date" (dateParts d)
  | moment m => Display.moment m
  | function name => "<function ".toList ++ name.toList ++ ['>']
  | object attributes =>
    "namespace(".toList ++ commaSeparated (innerAttributes around attributes) ++ [')']
  | document rules parents =>
    "ConfigDocument(rules=\x7b".toList ++ commaSeparated (innerEntries around rules)
      ++ "\x7d, extends=(".toList ++ commaSeparated (innerItems around parents)
      ++ (if parents.length = 1 then ",))".toList else "))".toList)
  | cyclic l v =>
    match around.lookup l with
    | some shown => shown
    | none => inner ((l, dots v.kind) :: around) v
  | back l => (around.lookup l).getD "...".toList

def innerItems (around : List (Nat × List Char)) : List Value → List (List Char)
  | [] => []
  | v :: rest => inner around v :: innerItems around rest

def innerEntries (around : List (Nat × List Char)) : List (Value × Value) → List (List Char)
  | [] => []
  | (k, v) :: rest => (inner around k ++ ':' :: ' ' :: inner around v) :: innerEntries around rest

def innerAttributes (around : List (Nat × List Char)) : List (String × Value) → List (List Char)
  | [] => []
  | (k, v) :: rest =>
    if k = "" then innerAttributes around rest
    else (k.toList ++ '=' :: inner around v) :: innerAttributes around rest

end

/-- **A value as a message shows it.** -/
def display : Value → Text
  | str s => s
  | date d => .ofChars d.iso
  | moment m => .ofChars (m.iso ' ')
  | v => .ofChars (inner [] v)

/-! ## Numbers that cannot be shown -/

mutual

/-- Whether a whole number in a value has more digits than may be written. -/
def hasLongNumber : Value → Bool
  | int n => isTooLong n
  | list items | tuple items | set items => anyLong items
  | map entries => anyLongEntry entries
  | object attributes => anyLongAttribute attributes
  | document rules parents => anyLongEntry rules || anyLong parents
  | cyclic _ v => hasLongNumber v
  | _ => false

def anyLong : List Value → Bool
  | [] => false
  | v :: rest => hasLongNumber v || anyLong rest

def anyLongEntry : List (Value × Value) → Bool
  | [] => false
  | (k, v) :: rest => hasLongNumber k || hasLongNumber v || anyLongEntry rest

def anyLongAttribute : List (String × Value) → Bool
  | [] => false
  | (k, v) :: rest => (k ≠ "" && hasLongNumber v) || anyLongAttribute rest

end

end Value

end LintBundle
