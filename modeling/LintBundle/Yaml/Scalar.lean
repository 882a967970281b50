import LintBundle.Text.Character
import LintBundle.Yaml.Glyph

/-!
# Yaml/Scalar — the texts of plain, quoted and block scalars

Each reader takes the glyphs from the scalar's first character on and returns the scalar's text and
the glyphs after it.  Its `fuel` bounds the steps; the number of glyphs suffices.  Line breaks
inside plain and quoted scalars fold into blanks; block scalars keep them or fold them as their
header says.
-/

namespace LintBundle.Yaml

/-! ## Plain scalars -/

/-- The brackets and the comma of flow collections. -/
def isFlowMark (c : Char) : Bool := c = ',' || c = '[' || c = ']' || c = '\x7b' || c = '\x7d'

/-- Whether a plain scalar ends at a character, given the one after it. -/
def endsPlain (inFlow : Bool) (c next : Char) : Bool :=
  isGap c || (c = ':' && (isGap next || (inFlow && isFlowMark next)))
    || (inFlow && (c = '?' || isFlowMark c))

/-- A word of a plain scalar. -/
def plainWord (inFlow : Bool) : List Glyph → List Char × List Glyph
  | [] => ([], [])
  | g :: r =>
    if endsPlain inFlow g.char (front r) then ([], g :: r)
    else
      let (word, rest) := plainWord inFlow r
      (g.char :: word, rest)

/-- The blanks and line breaks after a first line break; none at a document separator. -/
def plainBreaks : List Glyph → Option (List Char) × List Glyph
  | [] => (some [], [])
  | g :: r =>
    if g.char = ' ' then plainBreaks r
    else if isBreak g.char then
      if startsSeparator r then (none, r)
      else
        let (more, rest) := plainBreaks r
        (more.map (g.char :: ·), rest)
    else (some [], g :: r)

/-- What lies between two words. -/
structure PlainGap where
  /-- What the gap becomes if another word follows. -/
  text : List Char
  /-- Whether the gap crosses a line. -/
  crosses : Bool
  rest : List Glyph

/-- The gap in front; without text the scalar is over. -/
def plainGap (gs : List Glyph) : PlainGap :=
  let (blanks, rest) := spanOf (· = ' ') gs
  match takeBreak rest with
  | ([], rest) => ⟨blanks, false, rest⟩
  | (first, rest) =>
    if startsSeparator rest then ⟨[], true, rest⟩
    else
      match plainBreaks rest with
      | (none, rest) => ⟨[], true, rest⟩
      | (some more, rest) => ⟨folded first more, true, rest⟩

/-- A plain scalar: its text, whether its last gap crosses a line, and what follows. -/
structure Plain where
  text : List Char
  crosses : Bool
  rest : List Glyph

/-- A plain scalar from a word on, with the gap in front of that word. -/
def plain (inFlow : Bool) (indent : Nat) (lead : List Char) (crosses : Bool) :
    Nat → List Glyph → Plain
  | 0, gs => ⟨[], crosses, gs⟩
  | fuel + 1, gs =>
    if front gs = '#' then ⟨[], crosses, gs⟩
    else
      match plainWord inFlow gs with
      | ([], _) => ⟨[], crosses, gs⟩
      | (word, rest) =>
        let gap := plainGap rest
        if gap.text.isEmpty || front gap.rest = '#'
          || (!inFlow && columnOf gap.rest < indent) then
          ⟨lead ++ word, gap.crosses, gap.rest⟩
        else
          let more := plain inFlow indent gap.text gap.crosses fuel gap.rest
          ⟨lead ++ word ++ more.text, more.crosses, more.rest⟩

/-! ## Quoted scalars -/

/-- The line breaks after a first one, with blanks around them. -/
def quotedBreaks : Nat → List Glyph → Except TextFault (List Char × List Glyph)
  | 0, _ => .error .malformed
  | fuel + 1, gs =>
    if startsSeparator gs then .error .malformed
    else
      match takeBreak (gs.dropWhile fun g => isWhite g.char) with
      | ([], rest) => .ok ([], rest)
      | (first, rest) => do
        let (more, rest) ← quotedBreaks fuel rest
        return (first ++ more, rest)

/-- The blanks or line breaks in front. -/
def quotedGap (fuel : Nat) (gs : List Glyph) : Except TextFault (List Char × List Glyph) :=
  let (blanks, rest) := spanOf isWhite gs
  match takeBreak rest with
  | ([], rest) => if front rest = endMark then .error .malformed else .ok (blanks, rest)
  | (first, rest) => do
    let (more, rest) ← quotedBreaks fuel rest
    return (folded first more, rest)

/-- The character of an escape of one letter. -/
def escape? (c : Char) : Option Char :=
  match c with
  | '0' => some '\x00'
  | 'a' => some '\x07'
  | 'b' => some '\x08'
  | 't' => some '\t'
  | '\t' => some '\t'
  | 'n' => some '\n'
  | 'v' => some '\x0b'
  | 'f' => some '\x0c'
  | 'r' => some '\r'
  | 'e' => some '\x1b'
  | ' ' => some ' '
  | '"' => some '"'
  | '\\' => some '\\'
  | '/' => some '/'
  | 'N' => some '\x85'
  | '_' => some '\xa0'
  | 'L' => some '\u2028'
  | 'P' => some '\u2029'
  | _ => none

/-- The count of digits in an escape by code. -/
def codeWidth? (c : Char) : Option Nat :=
  match c with
  | 'x' => some 2
  | 'u' => some 4
  | 'U' => some 8
  | _ => none

/-- The code point with a code; beyond the last character, and again beyond 31 bits, a code is out
of range. -/
def pointOfCode (code : Nat) : Except TextFault Point :=
  if 0x7fffffff < code then .error .tooLarge
  else if 0x10ffff < code then .error .notANumber
  else .ok (.ofNat code)

/-- The code point that so many digits in front name, and what follows them. -/
def takeCode (width : Nat) (gs : List Glyph) : Except TextFault (Point × List Glyph) :=
  match Text.hexCode? (chars (gs.take width)) with
  | some code => (pointOfCode code).map (·, gs.drop width)
  | none => .error .malformed

/-- A scalar after its opening quote. -/
def quoted (double : Bool) : Nat → List Glyph → Except TextFault (List Point × List Glyph)
  | 0, _ => .error .malformed
  | _, [] => .error .malformed
  | fuel + 1, g :: r =>
    if isGap g.char then do
      let (gap, rest) ← quotedGap fuel (g :: r)
      let (more, rest) ← quoted double fuel rest
      return (gap.map .char ++ more, rest)
    else if double then
      if g.char = '"' then .ok ([], r)
      else if g.char = '\\' then
        match escape? (front r), codeWidth? (front r) with
        | some c, _ => do
          let (more, rest) ← quoted double fuel (r.drop 1)
          return (.char c :: more, rest)
        | none, some width => do
          let (p, rest) ← takeCode width (r.drop 1)
          let (more, rest) ← quoted double fuel rest
          return (p :: more, rest)
        | none, none =>
          if isBreak (front r) then do
            let (breaks, rest) ← quotedBreaks fuel (r.drop 1)
            let (more, rest) ← quoted double fuel rest
            return (breaks.map .char ++ more, rest)
          else .error .malformed
      else do
        let (more, rest) ← quoted double fuel r
        return (.char g.char :: more, rest)
    else if g.char = '\'' then
      if front r = '\'' then do
        let (more, rest) ← quoted double fuel (r.drop 1)
        return (.char '\'' :: more, rest)
      else .ok ([], r)
    else do
      let (more, rest) ← quoted double fuel r
      return (.char g.char :: more, rest)

/-! ## Block scalars -/

/-- What becomes of the line breaks at the end of a block scalar. -/
inductive Chomping
  | strip | clip | keep
  deriving DecidableEq, Repr

/-- How a block scalar ends, if its header says so. -/
def chomping? (c : Char) : Option Chomping :=
  if c = '+' then some .keep else if c = '-' then some .strip else none

/-- The digit of an indentation, which is not zero. -/
def indentDigit? (c : Char) : Option Nat :=
  if '0' ≤ c && c ≤ '9' then some (c.toNat - '0'.toNat) else none

/-- The rest of a header's line, which holds a comment at most. -/
def headerEnd (gs : List Glyph) : Except TextFault (List Glyph) :=
  let rest := skipComment (skipSpaces gs)
  if isLineEnd (front rest) then .ok (takeBreak rest).2 else .error .malformed

/-- A header: an indentation and an ending in either order, each optional. -/
def blockHeader (gs : List Glyph) : Except TextFault (Chomping × Option Nat × List Glyph) := do
  let (chomping, indent, rest) :=
    match chomping? (front gs), indentDigit? (front gs) with
    | some c, _ =>
      match indentDigit? (ahead 1 gs) with
      | some n => (c, some n, gs.drop 2)
      | none => (c, none, gs.drop 1)
    | none, some n =>
      match chomping? (ahead 1 gs) with
      | some c => (c, some n, gs.drop 2)
      | none => (.clip, some n, gs.drop 1)
    | none, none => (.clip, none, gs)
  if indent = some 0 || !isSpaceOrEnd (front rest) then .error .malformed
  else return (chomping, indent, ← headerEnd rest)

/-- The empty lines in front, and the widest indentation among them and the first full line. -/
def blockIndent (widest : Nat) : List Glyph → List Char × Nat × List Glyph
  | [] => ([], widest, [])
  | g :: r =>
    if g.char = ' ' then blockIndent (max widest (columnOf r)) r
    else if isBreak g.char then
      let (breaks, widest, rest) := blockIndent widest r
      (g.char :: breaks, widest, rest)
    else ([], widest, g :: r)

/-- The empty lines in front, and the indentation of the line after them. -/
def blockBreaks (indent : Nat) : List Glyph → List Char × List Glyph
  | [] => ([], [])
  | g :: r =>
    if g.char = ' ' && g.column < indent then blockBreaks indent r
    else if isBreak g.char then
      let (breaks, rest) := blockBreaks indent r
      (g.char :: breaks, rest)
    else ([], g :: r)

/-- The lines of a block scalar, from one that stands at its indentation on. -/
def blockLines (folds : Bool) (chomping : Chomping) (indent : Nat) :
    Nat → List Glyph → List Char × List Glyph
  | 0, gs => ([], gs)
  | fuel + 1, gs =>
    let (line, rest) := spanOf (fun c => !isLineEnd c) gs
    let (lineBreak, rest) := takeBreak rest
    let (breaks, rest) := blockBreaks indent rest
    if columnOf rest = indent && front rest ≠ endMark then
      let joint :=
        if folds && lineBreak = ['\n'] && !isWhite (front gs) && !isWhite (front rest) then
          if breaks.isEmpty then [' '] else []
        else lineBreak
      let (more, rest) := blockLines folds chomping indent fuel rest
      (line ++ joint ++ breaks ++ more, rest)
    else
      let tail :=
        match chomping with
        | .strip => []
        | .clip => lineBreak
        | .keep => lineBreak ++ breaks
      (line ++ tail, rest)

/-- A block scalar after its indicator, inside a block at an indentation. -/
def block (folds : Bool) (least fuel : Nat) (gs : List Glyph) :
    Except TextFault (List Char × List Glyph) := do
  let (chomping, increment, rest) ← blockHeader gs
  let (breaks, indent, rest) :=
    match increment with
    | none =>
      let (breaks, widest, rest) := blockIndent 0 rest
      (breaks, max least widest, rest)
    | some n =>
      let indent := least + n - 1
      let (breaks, rest) := blockBreaks indent rest
      (breaks, indent, rest)
  if columnOf rest = indent && front rest ≠ endMark then
    let (body, rest) := blockLines folds chomping indent fuel rest
    return (breaks ++ body, rest)
  else return (if chomping = .keep then breaks else [], rest)

end LintBundle.Yaml
