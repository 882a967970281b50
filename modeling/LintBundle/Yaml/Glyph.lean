import LintBundle.Fault

/-!
# Yaml/Glyph — characters with their place in the text

Indentation decides the structure of a YAML text, so every character is looked at together with its
line and column.  The glyphs of a text end in a mark that stands for the end, which is the one
character a text cannot hold.
-/

namespace LintBundle.Yaml

/-- A character and its place. -/
structure Glyph where
  char : Char
  index : Nat
  line : Nat
  column : Nat
  deriving Repr

/-- The character that stands for the end of the text. -/
def endMark : Char := '\x00'

/-- The byte order mark, which takes up no column. -/
def byteOrderMark : Char := '\ufeff'

/-! ## Character classes -/

/-- The characters that end a line. -/
def isBreak (c : Char) : Bool := c = '\n' || c = '\u2028' || c = '\u2029'

/-- A line break or the end. -/
def isLineEnd (c : Char) : Bool := isBreak c || c = endMark

/-- A blank, a line break or the end. -/
def isSpaceOrEnd (c : Char) : Bool := c = ' ' || isLineEnd c

/-- A blank, a tab, a line break or the end. -/
def isGap (c : Char) : Bool := c = '\t' || isSpaceOrEnd c

/-- A blank or a tab. -/
def isWhite (c : Char) : Bool := c = ' ' || c = '\t'

/-- A letter of a name: an ASCII letter or digit, a hyphen or an underscore. -/
def isNameChar (c : Char) : Bool := c.isAlphanum || c = '-' || c = '_'

/-- The characters a text may hold. -/
def isAllowed (c : Char) : Bool :=
  let n := c.toNat
  n = 0x09 || n = 0x0a || n = 0x0d || (0x20 ≤ n && n ≤ 0x7e) || n = 0x85
    || (0xa0 ≤ n && n ≤ 0xfffd) || 0x10000 ≤ n

/-! ## Glyphs of a text -/

/-- One line break for each of the ways to end a line. -/
def unifyBreaks : List Char → List Char
  | '\r' :: '\n' :: r => '\n' :: unifyBreaks r
  | c :: r => (if c = '\r' || c = '\x85' then '\n' else c) :: unifyBreaks r
  | [] => []

/-- Characters with their places, from a place on. -/
def place (index line column : Nat) : List Char → List Glyph
  | [] => [⟨endMark, index, line, column⟩]
  | c :: r =>
    ⟨c, index, line, column⟩ ::
      (if isBreak c then place (index + 1) (line + 1) 0 r
        else place (index + 1) line (if c = byteOrderMark then column else column + 1) r)

/-- The glyphs of a text. -/
def glyphs (cs : List Char) : List Glyph := place 0 0 0 (unifyBreaks cs)

/-- The character in front. -/
def front : List Glyph → Char
  | [] => endMark
  | g :: _ => g.char

/-- The character `n` places further. -/
def ahead (n : Nat) (gs : List Glyph) : Char := front (gs.drop n)

/-- The column in front. -/
def columnOf : List Glyph → Nat
  | [] => 0
  | g :: _ => g.column

/-- The characters of glyphs. -/
def chars (gs : List Glyph) : List Char := gs.map Glyph.char

/-- The longest run of characters of a class, and what follows it. -/
def spanOf (p : Char → Bool) (gs : List Glyph) : List Char × List Glyph :=
  (chars (gs.takeWhile fun g => p g.char), gs.dropWhile fun g => p g.char)

/-- Skips blanks. -/
def skipSpaces (gs : List Glyph) : List Glyph := gs.dropWhile fun g => g.char = ' '

/-- Skips to the end of the line. -/
def skipLine (gs : List Glyph) : List Glyph := gs.dropWhile fun g => !isLineEnd g.char

/-- A comment in front, if there is one. -/
def skipComment (gs : List Glyph) : List Glyph := if front gs = '#' then skipLine gs else gs

/-- The line break in front, if there is one. -/
def takeBreak : List Glyph → List Char × List Glyph
  | [] => ([], [])
  | g :: r => if isBreak g.char then ([g.char], r) else ([], g :: r)

/-- Whether three equal characters and a gap stand in front. -/
def startsMarker (c : Char) (gs : List Glyph) : Bool :=
  ahead 0 gs = c && ahead 1 gs = c && ahead 2 gs = c && isGap (ahead 3 gs)

/-- Whether a line that separates documents stands in front. -/
def startsSeparator (gs : List Glyph) : Bool := startsMarker '-' gs || startsMarker '.' gs

/-- What folding makes of a line break and the breaks after it: a single line break is a blank, and
the first of several is dropped. -/
def folded (first more : List Char) : List Char :=
  (if first ≠ ['\n'] then first else if more.isEmpty then [' '] else []) ++ more

end LintBundle.Yaml
