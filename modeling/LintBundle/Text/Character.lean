import LintBundle.Text.Basic

/-!
# Text/Character — blanks, digits, and characters by their code

The character classes that numerals and words are written with.  They reach beyond ASCII: each
script's ten decimal digits stand in a row, so a digit is found by the zero its row starts at.

Escapes in texts name code points in hexadecimal digits.  A character beyond the first 65536 takes
two code units, the halves of a surrogate pair; where a reader joins them, `joined` says how.
-/

namespace LintBundle

/-- A blank, as it may surround a numeral. -/
def isBlank (c : Char) : Bool :=
  (9 ≤ c.toNat && c.toNat ≤ 13) || c = ' ' || [0x85, 0xa0, 0x1680, 0x2028, 0x2029, 0x202f, 0x205f,
    0x3000].contains c.toNat || (0x2000 ≤ c.toNat && c.toNat ≤ 0x200a)

/-- A blank between words: the four separators below the plain space count as well. -/
def isSpace (c : Char) : Bool := isBlank c || (0x1c ≤ c.toNat && c.toNat ≤ 0x1f)

/-- Whether a code point is a blank between words. -/
def Point.isSpace (p : Point) : Bool := LintBundle.isSpace p.shape

/-- The zeros of the scripts' decimal digits. -/
def digitZeros : List Nat :=
  [ 0x30, 0x660, 0x6f0, 0x7c0, 0x966, 0x9e6, 0xa66, 0xae6, 0xb66, 0xbe6, 0xc66, 0xce6, 0xd66, 0xde6,
    0xe50, 0xed0, 0xf20, 0x1040, 0x1090, 0x17e0, 0x1810, 0x1946, 0x19d0, 0x1a80, 0x1a90, 0x1b50,
    0x1bb0, 0x1c40, 0x1c50, 0xa620, 0xa8d0, 0xa900, 0xa9d0, 0xa9f0, 0xaa50, 0xabf0, 0xff10,
    0x104a0, 0x10d30, 0x11066, 0x110f0, 0x11136, 0x111d0, 0x112f0, 0x11450, 0x114d0, 0x11650,
    0x116c0, 0x11730, 0x118e0, 0x11950, 0x11c50, 0x11d50, 0x11da0, 0x16a60, 0x16ac0, 0x16b50,
    0x1d7ce, 0x1d7d8, 0x1d7e2, 0x1d7ec, 0x1d7f6, 0x1e140, 0x1e2f0, 0x1e950, 0x1fbf0 ]

/-- The value of a decimal digit of any script. -/
def digitValue? (c : Char) : Option Nat :=
  (digitZeros.find? fun low => low ≤ c.toNat && c.toNat < low + 10).map (c.toNat - ·)

/-- The value of a digit or letter in a numeral of a base up to sixteen. -/
def digitValueIn? (base : Nat) (c : Char) : Option Nat :=
  let value :=
    if 'a' ≤ c && c ≤ 'f' then some (c.toNat - 'a'.toNat + 10)
    else if 'A' ≤ c && c ≤ 'F' then some (c.toNat - 'A'.toNat + 10)
    else digitValue? c
  value.filter (· < base)

namespace Text

/-! ## Blanks around text -/

/-- A sequence without the blanks around it. -/
def trim {α : Type} (isGap : α → Bool) (cs : List α) : List α :=
  ((cs.dropWhile isGap).reverse.dropWhile isGap).reverse

/-- The words of a text, given the word that is begun, its latest code point first. -/
def wordsFrom (begun : List Point) : List Point → List (List Point)
  | [] => if begun.isEmpty then [] else [begun.reverse]
  | p :: rest =>
    if p.isSpace then (if begun.isEmpty then [] else [begun.reverse]) ++ wordsFrom [] rest
    else wordsFrom (p :: begun) rest

/-- The words of a text. -/
def words (ps : List Point) : List (List Point) := wordsFrom [] ps

/-! ## Codes -/

/-- The value of a hexadecimal digit. -/
def hexValue? (c : Char) : Option Nat :=
  if '0' ≤ c && c ≤ '9' then some (c.toNat - '0'.toNat)
  else if 'a' ≤ c && c ≤ 'f' then some (c.toNat - 'a'.toNat + 10)
  else if 'A' ≤ c && c ≤ 'F' then some (c.toNat - 'A'.toNat + 10)
  else none

/-- The value of hexadecimal digits. -/
def hexCode? (cs : List Char) : Option Nat :=
  cs.foldlM (fun n c => (hexValue? c).map (16 * n + ·)) 0

/-- The character of two halves, if they are those of a pair: the first one high, the second low. -/
def pair? (high low : Fin 2048) : Option Char :=
  if high < 1024 && 1024 ≤ low then
    some (Char.ofNat (0x10000 + high.val * 0x400 + (low.val - 0x400)))
  else none

/-- **A text with the halves of pairs joined**, where they stand next to each other. -/
def joined : List Point → List Point
  | .half i :: .half j :: rest =>
    match pair? i j with
    | some c => .char c :: joined rest
    | none => .half i :: joined (.half j :: rest)
  | p :: rest => p :: joined rest
  | [] => []

end Text

end LintBundle
