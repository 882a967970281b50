import LintBundle.Number.Binary64
import LintBundle.Text.Character

/-!
# Number/Reading — numerals as they are written and typed

Whole numbers are written in decimal, without leading zeros.  There is a limit on the digits that
are read or written, so a number that is no longer than that has a text, and any other has none.

In a numeral that is typed, blanks around it and an optional sign are allowed.  A whole number may
be given in a base with that base's mark (`0b`, `0o`, `0x`); a decimal fraction may have an
exponent, and the words for infinity and `nan` count as numerals. -/

namespace LintBundle

/-! ## Whole numbers in decimal -/

/-- The decimal digits of a number, the leading one first. -/
def decimalDigits (n : Nat) : List Nat := (Nat.toDigits 10 n).map fun c => c.toNat - '0'.toNat

/-- The text of a number in decimal. -/
def decimalText (n : Nat) : List Char := Nat.toDigits 10 n

/-- The text of a whole number, with its minus sign. -/
def intText (n : Int) : List Char :=
  if n < 0 then '-' :: decimalText n.natAbs else decimalText n.natAbs

/-- The most digits a decimal whole number is read from or written with. -/
def decimalDigitLimit : Nat := 4300

/-- Whether a whole number has more digits than may be written. -/
def isTooLong (n : Int) : Bool := decimalDigitLimit < (decimalText n.natAbs).length

/-! ## Numerals as they are typed -/

namespace Reading

/-- A text without the blanks around it.  The four separators count as blanks where the text goes
beyond ASCII. -/
def strip (cs : List Char) : List Char :=
  let isGap := if cs.all (·.toNat < 128) then isBlank else isSpace
  ((cs.dropWhile isGap).reverse.dropWhile isGap).reverse

/-- Splits an optional sign off. -/
def sign : List Char → Bool × List Char
  | '-' :: r => (true, r)
  | '+' :: r => (false, r)
  | r => (false, r)

/-- The digits of a whole text in a base; no digit at all is no number. -/
def digits? (base : Nat) : List Char → Option (List Nat)
  | [] => none
  | cs => cs.mapM (digitValueIn? base)

/-- The value of digits in a base. -/
def ofDigits (base : Nat) (ds : List Nat) : Nat := ds.foldl (fun n d => base * n + d) 0

/-- Drops a base's mark from the front of a numeral in that base. -/
def dropMark (base : Nat) : List Char → List Char
  | '0' :: c :: r =>
    if (base = 2 && (c = 'b' || c = 'B')) || (base = 8 && (c = 'o' || c = 'O'))
      || (base = 16 && (c = 'x' || c = 'X')) then r else '0' :: c :: r
  | r => r

/-- **A whole number in a base**, or nothing. -/
def int? (base : Nat) (cs : List Char) : Option Int := do
  let (negative, body) := sign (strip cs)
  let ds ← digits? base (dropMark base body)
  if base = 10 && decimalDigitLimit < ds.length then none
  else
    let n : Int := ofDigits base ds
    pure (if negative then -n else n)

/-- The leading decimal digits of a text, and what follows them. -/
def spanDigits : List Char → List Nat × List Char
  | [] => ([], [])
  | c :: r =>
    match digitValue? c with
    | some d => let (ds, rest) := spanDigits r; (d :: ds, rest)
    | none => ([], c :: r)

/-- An exponent part, `e` with an optional sign and digits; none is the exponent zero. -/
def exponent? : List Char → Option Int
  | [] => some 0
  | e :: r =>
    if e = 'e' || e = 'E' then do
      let (negative, body) := sign r
      match spanDigits body with
      | ([], _) | (_, _ :: _) => none
      | (ds, []) =>
        let n : Int := ofDigits 10 ds
        some (if negative then -n else n)
    else none

/-- A decimal fraction without its sign. -/
def fraction? (negative : Bool) (cs : List Char) : Option Binary64 := do
  let (whole, rest) := spanDigits cs
  let (part, rest) := match rest with
    | '.' :: r => spanDigits r
    | r => ([], r)
  if whole.isEmpty && part.isEmpty then none
  else
    let e ← exponent? rest
    pure (.ofDecimal negative (whole ++ part) (e - part.length))

/-- A text in lower case, for ASCII letters. -/
def lower (cs : List Char) : List Char := cs.map Char.toLower

/-- **A number with a fraction**, an infinity or `nan`, or nothing. -/
def float? (cs : List Char) : Option Binary64 :=
  let (negative, body) := sign (strip cs)
  let word := String.ofList (lower body)
  if word = "inf" || word = "infinity" then some (.infinite negative)
  else if word = "nan" then some .nan
  else fraction? negative body

end Reading

end LintBundle
