import LintBundle.Yaml.Scalar
import LintBundle.Yaml.Token.Mark

/-!
# Yaml/Token/Lexer — a text as tokens

A key in front of a colon looks like any other scalar or collection until the colon is seen, so the
lexer remembers, for each level of flow brackets, where a key could have begun, and puts the key's
token there once a colon proves it right.  Such a key stays on one line and is at most 1024
characters long.  Where a line can only begin with a key, its colon has to follow.
-/

namespace LintBundle.Yaml

/-- A place where a key could have begun. -/
structure KeyPlace where
  /-- The number of the token that would be the key. -/
  token : Nat
  /-- Whether nothing but a key can stand here. -/
  isRequired : Bool
  index : Nat
  line : Nat
  column : Nat
  deriving Repr

/-- The state of reading: the glyphs left, and the tokens found, the latest first. -/
structure Lexer where
  rest : List Glyph
  tokens : List Token
  /-- The number of tokens found. -/
  count : Nat
  /-- The levels of flow brackets that are open. -/
  flow : Nat
  /-- The columns of the open blocks, the innermost first. -/
  blocks : List Nat
  /-- Whether a key may begin in front. -/
  keyAllowed : Bool
  /-- The places where keys could have begun, by level of flow brackets. -/
  keys : List (Nat × KeyPlace)

namespace Lexer

/-- The lexer in front of a text. -/
def start (gs : List Glyph) : Lexer :=
  { rest := if front gs = byteOrderMark then gs.drop 1 else gs
    tokens := [], count := 0, flow := 0, blocks := [], keyAllowed := true, keys := [] }

/-- Adds a token. -/
def push (lx : Lexer) (t : Token) : Lexer :=
  { lx with tokens := t :: lx.tokens, count := lx.count + 1 }

/-- Adds a token and moves on. -/
def emit (lx : Lexer) (t : Token) (rest : List Glyph) : Lexer :=
  { lx.push t with rest := rest }

/-- Adds a token in front of the token with a number. -/
def insertAt (lx : Lexer) (number : Nat) (t : Token) : Lexer :=
  let later := lx.count - number
  { lx with
    tokens := lx.tokens.take later ++ t :: lx.tokens.drop later
    count := lx.count + 1 }

/-- The column in front. -/
def column (lx : Lexer) : Nat := columnOf lx.rest

/-! ## Blocks -/

/-- Whether a column is further in than the innermost block. -/
def isDeeper (lx : Lexer) (column : Nat) : Bool :=
  match lx.blocks with
  | [] => true
  | c :: _ => c < column

/-- Opens a block at a column that is further in, with a token. -/
def openBlock (lx : Lexer) (column : Nat) (t : Token) : Lexer :=
  if lx.isDeeper column then { lx.push t with blocks := column :: lx.blocks }
  else lx

/-- The blocks that a line at a column ends, and those that stay open. -/
def splitBlocks (column : Nat) : List Nat → Nat × List Nat
  | [] => (0, [])
  | c :: r =>
    if column < c then
      let (count, blocks) := splitBlocks column r
      (count + 1, blocks)
    else (0, c :: r)

/-- Closes so many blocks, of which these stay open. -/
def closeBlocks (lx : Lexer) (number : Nat) (blocks : List Nat) : Lexer :=
  { lx with
    blocks := blocks
    tokens := List.replicate number .blockEnd ++ lx.tokens
    count := lx.count + number }

/-- Closes the blocks further in than a column; flow collections ignore indentation. -/
def closeTo (lx : Lexer) (column : Nat) : Lexer :=
  if lx.flow = 0 then
    let (number, blocks) := splitBlocks column lx.blocks
    lx.closeBlocks number blocks
  else lx

/-- Closes all blocks. -/
def closeAll (lx : Lexer) : Lexer :=
  if lx.flow = 0 then lx.closeBlocks lx.blocks.length [] else lx

/-! ## Keys -/

/-- Gives up the key that could have begun on this level, unless it is required. -/
def dropKey (lx : Lexer) : Except TextFault Lexer :=
  if lx.keys.any fun (level, key) => level = lx.flow && key.isRequired then .error .malformed
  else .ok { lx with keys := lx.keys.filter fun (level, _) => level ≠ lx.flow }

/-- Remembers that a key could begin in front. -/
def saveKey (lx : Lexer) : Except TextFault Lexer :=
  if lx.keyAllowed then do
    let lx ← lx.dropKey
    match lx.rest with
    | [] => return lx
    | g :: _ =>
      let isRequired := lx.flow = 0 && lx.blocks.head? = some g.column
      let key : KeyPlace := ⟨lx.count, isRequired, g.index, g.line, g.column⟩
      return { lx with keys := (lx.flow, key) :: lx.keys }
  else .ok lx

/-- Whether a key can still have begun at a place. -/
def isFresh (lx : Lexer) (key : KeyPlace) : Bool :=
  match lx.rest with
  | [] => false
  | g :: _ => key.line = g.line && g.index ≤ key.index + 1024

/-- Gives up the keys that are too far back. -/
def dropStale (lx : Lexer) : Except TextFault Lexer :=
  if lx.keys.any fun (_, key) => !lx.isFresh key && key.isRequired then .error .malformed
  else .ok { lx with keys := lx.keys.filter fun (_, key) => lx.isFresh key }

/-! ## Between tokens -/

/-- Skips blanks, comments and line ends; after a line end outside flow brackets a key may begin. -/
def skipGap (inFlow : Bool) (keyAllowed : Bool) : Nat → List Glyph → Bool × List Glyph
  | 0, gs => (keyAllowed, gs)
  | fuel + 1, gs =>
    match takeBreak (skipComment (skipSpaces gs)) with
    | ([], rest) => (keyAllowed, rest)
    | (_, rest) => skipGap inFlow (keyAllowed || !inFlow) fuel rest

/-- Moves on to the next token. -/
def advance (lx : Lexer) (fuel : Nat) : Except TextFault Lexer := do
  let (keyAllowed, rest) := skipGap (lx.flow ≠ 0) lx.keyAllowed fuel lx.rest
  let lx ← dropStale { lx with rest := rest, keyAllowed := keyAllowed }
  return lx.closeTo lx.column

/-! ## Tokens -/

/-- A directive or a line that separates documents: it ends all blocks. -/
def boundary (lx : Lexer) (t : Token) (rest : List Glyph) : Except TextFault Lexer := do
  let lx ← lx.closeAll.dropKey
  return { lx with keyAllowed := false }.emit t rest

/-- A flow collection begins. -/
def openFlow (lx : Lexer) (t : Token) : Except TextFault Lexer := do
  let lx ← lx.saveKey
  return { lx with flow := lx.flow + 1, keyAllowed := true }.emit t (lx.rest.drop 1)

/-- A flow collection ends; one has to be open. -/
def closeFlow (lx : Lexer) (t : Token) : Except TextFault Lexer := do
  let lx ← lx.dropKey
  match lx.flow with
  | 0 => .error .malformed
  | level + 1 => return { lx with flow := level, keyAllowed := false }.emit t (lx.rest.drop 1)

/-- A comma. -/
def comma (lx : Lexer) : Except TextFault Lexer := do
  let lx ← lx.dropKey
  return { lx with keyAllowed := true }.emit .comma (lx.rest.drop 1)

/-- An entry of a block sequence, which may open it. -/
def entry (lx : Lexer) : Except TextFault Lexer := do
  let lx ←
    if lx.flow = 0 then
      if lx.keyAllowed then pure (lx.openBlock lx.column .blockSequence) else .error .malformed
    else pure lx
  let lx ← lx.dropKey
  return { lx with keyAllowed := true }.emit .entry (lx.rest.drop 1)

/-- A key with a mark of its own, which may open a block mapping. -/
def key (lx : Lexer) : Except TextFault Lexer := do
  let lx ←
    if lx.flow = 0 then
      if lx.keyAllowed then pure (lx.openBlock lx.column .blockMapping) else .error .malformed
    else pure lx
  let lx ← lx.dropKey
  return { lx with keyAllowed := lx.flow = 0 }.emit .key (lx.rest.drop 1)

/-- A colon: it proves a key right that could have begun on this level, and else belongs to a key
with a mark of its own. -/
def value (lx : Lexer) : Except TextFault Lexer := do
  match lx.keys.find? fun (level, _) => level = lx.flow with
  | some (_, key) =>
    let lx := { lx with keys := lx.keys.filter fun (level, _) => level ≠ lx.flow }
    let lx := lx.insertAt key.token .key
    let lx :=
      if lx.flow = 0 && lx.isDeeper key.column then
        { lx with blocks := key.column :: lx.blocks }.insertAt key.token .blockMapping
      else lx
    return { lx with keyAllowed := false }.emit .value (lx.rest.drop 1)
  | none =>
    let lx ←
      if lx.flow = 0 then
        if lx.keyAllowed then pure (lx.openBlock lx.column .blockMapping) else .error .malformed
      else pure lx
    let lx ← { lx with keyAllowed := lx.flow = 0 }.dropKey
    return lx.emit .value (lx.rest.drop 1)

/-- A token that may begin a key. -/
def piece (lx : Lexer) (read : List Glyph → Except TextFault (Token × List Glyph)) :
    Except TextFault Lexer := do
  let lx ← lx.saveKey
  let (t, rest) ← read lx.rest
  return { lx with keyAllowed := false }.emit t rest

/-- A block scalar. -/
def blockScalar (lx : Lexer) (fuel : Nat) (folds : Bool) : Except TextFault Lexer := do
  let lx ← { lx with keyAllowed := true }.dropKey
  let least := match lx.blocks with
    | [] => 1
    | c :: _ => c + 1
  let (text, rest) ← block folds least fuel (lx.rest.drop 1)
  return lx.emit (.scalar (text.map .char) false) rest

/-- A quoted scalar. -/
def quotedScalar (lx : Lexer) (fuel : Nat) (double : Bool) : Except TextFault Lexer :=
  lx.piece fun gs => do
    let (text, rest) ← quoted double fuel (gs.drop 1)
    return (.scalar text false, rest)

/-- A plain scalar; if it ends with a line, a key may follow. -/
def plainScalar (lx : Lexer) (fuel : Nat) : Except TextFault Lexer := do
  let lx ← lx.saveKey
  let indent := match lx.blocks with
    | [] => 0
    | c :: _ => c + 1
  let found := plain (lx.flow ≠ 0) indent [] false fuel lx.rest
  return { lx with keyAllowed := found.crosses }.emit
    (.scalar (found.text.map .char) true) found.rest

/-- Whether a plain scalar can begin with a character, given the one after it. -/
def startsPlain (inFlow : Bool) (c next : Char) : Bool :=
  !(isGap c || "-?:,[]\x7b\x7d#&*!|>'\"%@`".toList.contains c)
    || (!isGap next && (c = '-' || (!inFlow && (c = '?' || c = ':'))))

/-- The token in front, which is not the end. -/
def next (lx : Lexer) (fuel : Nat) : Except TextFault Lexer :=
  let gs := lx.rest
  let c := front gs
  let inFlow := lx.flow ≠ 0
  if c = '%' && lx.column = 0 then do
    let lx ← lx.closeAll.dropKey
    let (t, rest) ← takeDirective lx.rest
    return { lx with keyAllowed := false }.emit t rest
  else if lx.column = 0 && startsMarker '-' gs then lx.boundary .documentStart (gs.drop 3)
  else if lx.column = 0 && startsMarker '.' gs then lx.boundary .documentEnd (gs.drop 3)
  else if c = '[' then lx.openFlow .flowSequence
  else if c = '\x7b' then lx.openFlow .flowMapping
  else if c = ']' then lx.closeFlow .flowSequenceEnd
  else if c = '\x7d' then lx.closeFlow .flowMappingEnd
  else if c = ',' then lx.comma
  else if c = '-' && isGap (ahead 1 gs) then lx.entry
  else if c = '?' && (inFlow || isGap (ahead 1 gs)) then lx.key
  else if c = ':' && (inFlow || isGap (ahead 1 gs)) then lx.value
  else if c = '*' then lx.piece (takeMarked .aliasOf)
  else if c = '&' then lx.piece (takeMarked .anchor)
  else if c = '!' then lx.piece takeTag
  else if c = '|' && !inFlow then lx.blockScalar fuel false
  else if c = '>' && !inFlow then lx.blockScalar fuel true
  else if c = '\'' then lx.quotedScalar fuel false
  else if c = '"' then lx.quotedScalar fuel true
  else if startsPlain inFlow c (ahead 1 gs) then lx.plainScalar fuel
  else .error .malformed

/-- The lexer after the end of the text. -/
def finish (lx : Lexer) : Except TextFault Lexer := lx.closeAll.dropKey

/-- Reads up to the end, or as far as the text can be read; `fuel` bounds the number of tokens in
the text and, as every token takes a glyph, the glyphs that are left. -/
def run : Nat → Lexer → Lexer × Option TextFault
  | 0, lx => (lx, some .malformed)
  | fuel + 1, lx =>
    let step : Except TextFault (Lexer × Bool) := do
      let lx ← lx.advance fuel
      if front lx.rest = endMark then return (← lx.finish, true)
      else return (← (← lx.next fuel).dropStale, false)
    match step with
    | .ok (lx, true) => (lx, none)
    | .ok (lx, false) => run fuel lx
    | .error cause => (lx, some cause)

/-- The number of tokens that nothing read later can change: a key's token may still come in front
of the others. -/
def settled (lx : Lexer) : Nat := lx.keys.foldl (fun n (_, key) => min n key.token) lx.count

end Lexer

/-- **The tokens of a text.**  Of a text that cannot be read to its end they are those in front of
the place where reading fails, as far as they are settled by then. -/
def Token.scan (cs : List Char) : List Token :=
  if cs.all isAllowed then
    let gs := glyphs cs
    match (Lexer.start gs).run (gs.length + 1) with
    | (lx, none) => lx.tokens.reverse
    | (lx, some cause) => lx.tokens.reverse.take lx.settled ++ [.unreadable cause]
  else [.unreadable .malformed]

end LintBundle.Yaml
