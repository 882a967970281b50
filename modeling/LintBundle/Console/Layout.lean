import LintBundle.Text.Character
import LintBundle.Text.Width

/-!
# Console/Layout — text in lines of a width

Widths are counted in columns, of which a character takes none, one or two.  A line that is too wide
is broken between words; a word that is too wide for any line is broken inside, or stands on a line
of its own that is shortened afterwards.  A tab leads to the next multiple of eight columns.
-/

namespace LintBundle.Layout

/-- The columns of a console. -/
def consoleWidth : Nat := 1000

/-- The columns from one tab stop to the next. -/
def tabStop : Nat := 8

/-- A line with blanks in place of its tabs; `column` is where it begins. -/
def withoutTabs (column : Nat) : List Point → List Point
  | [] => []
  | c :: r =>
    if c = '\t' then
      let gap := tabStop - column % tabStop
      List.replicate gap (.char ' ') ++ withoutTabs (column + gap) r
    else c :: withoutTabs (column + Text.pointWidth c) r

/-! ## Widths -/

/-- As much of a text as a width holds; a character that would reach beyond it leaves a blank. -/
def cut (width : Nat) : List Point → List Point
  | [] => []
  | c :: r =>
    if width = 0 then []
    else if Text.pointWidth c ≤ width then c :: cut (width - Text.pointWidth c) r
    else [.char ' ']

/-- A text in a width, with an ellipsis where the rest is left out. -/
def shortened (width : Nat) (cs : List Point) : List Point :=
  if Text.width cs ≤ width then cs else cut (width - 1) cs ++ [.char '…']

/-- A text with blanks after it up to a width. -/
def padded (width : Nat) (cs : List Point) : List Point :=
  cs ++ List.replicate (width - Text.width cs) (.char ' ')

/-- A text without the blanks at its end. -/
def trimmedEnd (cs : List Point) : List Point := (cs.reverse.dropWhile Point.isSpace).reverse

/-- A line without those blanks at its end that make it longer than a width. -/
def withoutExcess (width : Nat) (cs : List Point) : List Point :=
  cs.take (max width (trimmedEnd cs).length)

/-- A line in the middle of a width, with the odd blank on its right. -/
def centered (width : Nat) (cs : List Point) : List Point :=
  let content := cut width (trimmedEnd cs)
  padded width (List.replicate ((width - Text.width content) / 2) (.char ' ') ++ content)

/-! ## Lines -/

/-- How a line that is too wide is broken. -/
inductive Breaking
  | never
  /-- Between words alone. -/
  | betweenWords
  /-- Between words, and inside a word that is too wide for a line. -/
  | insideWords
  deriving DecidableEq, Repr

/-- The words of a line, each with the blanks after it, and the first one also with those before it;
`begun` is the latest of them, last code point first, with blanks at its end or not. -/
def wordsFrom (begun : List Point) (hasWord : Bool) : List Point → List (List Point)
  | [] => if hasWord then [begun.reverse] else []
  | c :: r =>
    if hasWord && begun.head?.any Point.isSpace && !c.isSpace then begun.reverse ::
      wordsFrom [c] true r
    else wordsFrom (c :: begun) (hasWord || !c.isSpace) r

/-- A word in pieces that fit a width; `begun` is the piece so far, last code point first. -/
def pieces (width : Nat) (begun : List Point) : List Point → List (List Point)
  | [] => [begun.reverse]
  | c :: r =>
    if width < Text.width begun + Text.pointWidth c then begun.reverse :: pieces width [c] r
    else pieces width (c :: begun) r

/-- The lines of words, given the line begun so far. -/
def fill (breaksWords : Bool) (width : Nat) (begun : List Point) :
    List (List Point) → List (List Point)
  | [] => [begun]
  | word :: rest =>
    let whole := if begun.isEmpty then [] else [begun]
    let size := Text.width (trimmedEnd word)
    if Text.width begun + size ≤ width then fill breaksWords width (begun ++ word) rest
    else if breaksWords && width < size then
      let parts := pieces width [] word
      whole ++ parts.dropLast ++ fill breaksWords width (parts.getLast?.getD []) rest
    else whole ++ fill breaksWords width word rest

/-- The lines of a line that may be too wide. -/
def broken (breaking : Breaking) (width : Nat) (line : List Point) : List (List Point) :=
  match breaking, wordsFrom [] false line with
  | .never, _ | _, [] => [line]
  | breaking, words => fill (breaking = .insideWords) width [] words

/-- **The lines of a text** in a width. -/
def lines (breaking : Breaking) (width : Nat) (text : List Point) : List (List Point) :=
  (Text.split (.char '\n') text).flatMap fun line =>
    (broken breaking width (withoutTabs 0 line)).map (withoutExcess width)

end LintBundle.Layout
