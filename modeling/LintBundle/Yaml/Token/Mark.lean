import LintBundle.Text.Character
import LintBundle.Yaml.Token

/-!
# Yaml/Token/Mark — directives, anchors and tags

The readers of the tokens that hold names.  A tag ends only at a blank or the end of its line, and
escaped bytes in it have to be UTF-8.
-/

namespace LintBundle.Yaml

open TextFault (malformed)

/-- A name and what follows it; names are not empty. -/
def takeName (gs : List Glyph) : Except TextFault (List Char × List Glyph) :=
  match spanOf isNameChar gs with
  | ([], _) => .error .malformed
  | found => .ok found

/-! ## Tags -/

/-- A character of a tag that stands for itself. -/
def isUriChar (c : Char) : Bool :=
  c.isAlphanum || "-;/?:@&=+$,_.!~*'()[]".toList.contains c

/-- The byte two hexadecimal digits name. -/
def byteOf? (a b : Char) : Option UInt8 := (Text.hexCode? [a, b]).map UInt8.ofNat

/-- The bytes escaped in front, each a percent sign and two digits. -/
def escapedBytes : List Glyph → Except TextFault (List UInt8 × List Glyph)
  | p :: a :: b :: r =>
    if p.char = '%' then
      match byteOf? a.char b.char with
      | none => .error .malformed
      | some byte => do
        let (bytes, rest) ← escapedBytes r
        return (byte :: bytes, rest)
    else .ok ([], p :: a :: b :: r)
  | gs => if front gs = '%' then .error .malformed else .ok ([], gs)

/-- The characters bytes encode. -/
def decodeBytes (bytes : List UInt8) : Except TextFault (List Char) :=
  match String.fromUTF8? ⟨bytes.toArray⟩ with
  | some s => .ok s.toList
  | none => .error .malformed

/-- A tag's characters, in runs that stand for themselves and runs of escapes. -/
def uriParts : Nat → List Glyph → Except TextFault (List Char × List Glyph)
  | 0, gs => .ok ([], gs)
  | fuel + 1, gs =>
    let (run, rest) := spanOf isUriChar gs
    if front rest = '%' then do
      let (bytes, rest) ← escapedBytes rest
      let cs ← decodeBytes bytes
      let (more, rest) ← uriParts fuel rest
      return (run ++ cs ++ more, rest)
    else .ok (run, rest)

/-- The characters of a tag, of which there has to be one. -/
def takeUri (gs : List Glyph) : Except TextFault (List Char × List Glyph) :=
  if isUriChar (front gs) || front gs = '%' then uriParts gs.length gs else .error .malformed

/-- A tag's handle: an exclamation mark alone, or a name between two of them. -/
def takeHandle (gs : List Glyph) : Except TextFault (List Char × List Glyph) :=
  if front gs ≠ '!' then .error .malformed
  else if ahead 1 gs = ' ' then .ok (['!'], gs.drop 1)
  else
    let (name, rest) := spanOf isNameChar (gs.drop 1)
    if front rest = '!' then .ok ('!' :: name ++ ['!'], rest.drop 1) else .error .malformed

/-- Whether another exclamation mark follows before the next blank. -/
def hasHandle (gs : List Glyph) : Bool :=
  front (gs.dropWhile fun g => g.char ≠ '!' && !isSpaceOrEnd g.char) = '!'

/-- A tag as it is written, after which a blank has to follow. -/
def takeTag (gs : List Glyph) : Except TextFault (Token × List Glyph) := do
  let (tag, rest) ←
    if ahead 1 gs = '<' then do
      let (uri, rest) ← takeUri (gs.drop 2)
      if front rest = '>' then pure (Token.tag none uri, rest.drop 1) else .error malformed
    else if isGap (ahead 1 gs) then pure (Token.tag none ['!'], gs.drop 1)
    else do
      let (handle, rest) ←
        if hasHandle (gs.drop 1) then takeHandle gs else pure (['!'], gs.drop 1)
      let (suffix, rest) ← takeUri rest
      pure (Token.tag (some handle) suffix, rest)
  if isSpaceOrEnd (front rest) then return (tag, rest) else .error .malformed

/-! ## Anchors and aliases -/

/-- The characters that may follow an anchor's name. -/
def endsAnchor (c : Char) : Bool := isGap c || "?:,]\x7d%@`".toList.contains c

/-- An anchor's name after its mark. -/
def takeAnchor (gs : List Glyph) : Except TextFault (List Char × List Glyph) := do
  let (name, rest) ← takeName (gs.drop 1)
  if endsAnchor (front rest) then return (name, rest) else .error .malformed

/-- A token that marks an anchor's name. -/
def takeMarked (mark : List Char → Token) (gs : List Glyph) :
    Except TextFault (Token × List Glyph) := do
  let (name, rest) ← takeAnchor gs
  return (mark name, rest)

/-! ## Directives -/

/-- A number of a version, which is no longer than any number. -/
def takeNumber (gs : List Glyph) : Except TextFault (Nat × List Glyph) :=
  match spanOf Char.isDigit gs with
  | ([], _) => .error .malformed
  | (ds, rest) =>
    if decimalDigitLimit < ds.length then .error .notANumber
    else .ok (ds.foldl (fun n c => 10 * n + (c.toNat - '0'.toNat)) 0, rest)

/-- A version, of which the first number counts. -/
def takeVersion (gs : List Glyph) : Except TextFault (Directive × List Glyph) := do
  let (major, rest) ← takeNumber (skipSpaces gs)
  if front rest ≠ '.' then .error .malformed
  let (_, rest) ← takeNumber (rest.drop 1)
  if isSpaceOrEnd (front rest) then return (.version major, rest) else .error .malformed

/-- A handle and the tag it stands for. -/
def takeTagDirective (gs : List Glyph) : Except TextFault (Directive × List Glyph) := do
  let (handle, rest) ← takeHandle (skipSpaces gs)
  if front rest ≠ ' ' then .error .malformed
  let (uri, rest) ← takeUri (skipSpaces rest)
  if isSpaceOrEnd (front rest) then return (.tag handle uri, rest) else .error .malformed

/-- A directive with its whole line. -/
def takeDirective (gs : List Glyph) : Except TextFault (Token × List Glyph) := do
  let (name, rest) ← takeName (gs.drop 1)
  if !isSpaceOrEnd (front rest) then .error .malformed
  let (directive, rest) ←
    if name = "YAML".toList then takeVersion rest
    else if name = "TAG".toList then takeTagDirective rest
    else pure (.other, skipLine rest)
  let rest := skipComment (skipSpaces rest)
  if isLineEnd (front rest) then return (.directive directive, (takeBreak rest).2)
  else .error .malformed

end LintBundle.Yaml
