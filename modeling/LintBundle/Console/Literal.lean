import LintBundle.Text.Character

/-!
# Console/Literal — the arguments an action can have

An action in console text is called with literals: numbers, also with a sign or as a sum of a real
and an imaginary one, texts and byte strings, the words for truth values and nothing, and tuples,
sets and mappings of these.  A set has no sets or mappings in it, nor has a mapping among its keys.
-/

namespace LintBundle.Literal

/-- How a number is written. -/
inductive Spelling
  | bare | signed | sum
  deriving DecidableEq, Repr

/-- What sort of literal stands in front of a text. -/
inductive Form
  | number (isImaginary : Bool) (spelling : Spelling)
  | text
  | bytes
  | other
  /-- A set or a mapping, which no set can hold. -/
  | collection
  deriving DecidableEq, Repr

/-- What follows blanks and remarks, each of which goes from a `#` to the end of its line.  Inside
brackets, and after a backslash, a literal goes on in a further line. -/
def skipGap (inBrackets inRemark : Bool) : List Char → List Char
  | [] => []
  | '\\' :: '\n' :: r =>
    if inRemark && !inBrackets then '\n' :: r else skipGap inBrackets false r
  | c :: r =>
    if c = '\n' then if inBrackets then skipGap inBrackets false r else c :: r
    else if inRemark || c = ' ' || c = '\t' || c = '\x0c' then skipGap inBrackets inRemark r
    else if c = '#' then skipGap inBrackets true r
    else c :: r

/-- The next character that is no blank, and what follows it. -/
def gap (inBrackets : Bool) (cs : List Char) : List Char := skipGap inBrackets false cs

/-- A character of a word. -/
def isWordChar (c : Char) : Bool := c.isAlphanum || c = '_' || 128 ≤ c.toNat

/-! ## Numbers -/

/-- Digits of a class, where single underscores may stand between them, and what follows; no digits
are none. -/
def digits (isDigit : Char → Bool) (afterDigit : Bool) : List Char → Option (List Char × List Char)
  | [] => if afterDigit then some ([], []) else none
  | c :: r =>
    if isDigit c then (digits isDigit true r).map fun (ds, rest) => (c :: ds, rest)
    else if c = '_' && afterDigit then digits isDigit false r
    else if afterDigit then some ([], c :: r)
    else none

/-- Decimal digits, which may be missing. -/
def decimals (cs : List Char) : Option (List Char × List Char) :=
  if cs.head?.any Char.isDigit then digits Char.isDigit false cs else some ([], cs)

/-- What follows an exponent, if there is one. -/
def skipExponent (cs : List Char) : Option (Bool × List Char) :=
  match cs with
  | e :: r =>
    if e = 'e' || e = 'E' then
      let body := match r with
        | '+' :: r | '-' :: r => r
        | r => r
      (digits Char.isDigit false body).map fun (_, rest) => (true, rest)
    else some (false, cs)
  | [] => some (false, [])

/-- A number in a base with its mark. -/
def marked? (cs : List Char) : Option (List Char) :=
  let inBase (isDigit : Char → Bool) (r : List Char) : Option (List Char) :=
    let r := match r with
      | '_' :: r => r
      | r => r
    (digits isDigit false r).map Prod.snd
  match cs with
  | '0' :: c :: r =>
    if c = 'x' || c = 'X' then inBase (fun c => (Text.hexValue? c).isSome) r
    else if c = 'o' || c = 'O' then inBase (fun c => '0' ≤ c && c ≤ '7') r
    else if c = 'b' || c = 'B' then inBase (fun c => c = '0' || c = '1') r
    else none
  | _ => none

/-- A number with perhaps a fraction, an exponent and a mark that it is imaginary.  A whole number
has no leading zero, and no word may follow a number. -/
def number? (cs : List Char) : Option (Form × List Char) := do
  let finish (isImaginary : Bool) (rest : List Char) : Option (Form × List Char) :=
    if rest.head?.any isWordChar then none else some (.number isImaginary .bare, rest)
  match marked? cs with
  | some rest => finish false rest
  | none =>
    let (whole, rest) ← decimals cs
    let (hasPoint, part, rest) ← match rest with
      | '.' :: r => (decimals r).map fun (ds, rest) => (true, ds, rest)
      | r => some (false, [], r)
    if whole.isEmpty && part.isEmpty then none
    let (hasExponent, rest) ← skipExponent rest
    match rest with
    | 'j' :: rest | 'J' :: rest => finish true rest
    | rest =>
      if !hasPoint && !hasExponent && 1 < whole.length && whole.head? = some '0'
        && whole.any (· ≠ '0') then none
      else finish false rest

/-! ## Texts -/

/-- The count of hexadecimal digits after an escape's letter. -/
def codeWidth (isBytes : Bool) (c : Char) : Nat :=
  if c = 'x' then 2 else if isBytes then 0 else if c = 'u' then 4 else if c = 'U' then 8 else 0

/-- Whether a character's code can follow an escape's letter. -/
def isCode (isBytes : Bool) (c : Char) (r : List Char) : Bool :=
  let code := r.take (codeWidth isBytes c)
  code.length = codeWidth isBytes c && (Text.hexCode? code).any (· ≤ 0x10ffff)

/-- What follows a text after its opening quotes, which are one or three. -/
def afterText (quotes : List Char) (isRaw isBytes : Bool) : List Char → Option (List Char)
  | [] => none
  | '\\' :: c :: r =>
    if !isRaw && (!isCode isBytes c r || (!isBytes && c = 'N')) then none
    else afterText quotes isRaw isBytes r
  | c :: r =>
    if quotes.isPrefixOf (c :: r) then some (r.drop (quotes.length - 1))
    else if (c = '\n' && quotes.length = 1) || (isBytes && 128 ≤ c.toNat) then none
    else afterText quotes isRaw isBytes r

/-- The marks in front of a text, and whether they make it raw, or a byte string. -/
def textMarks : List (String × Bool × Bool) :=
  [ ("", false, false), ("u", false, false), ("r", true, false), ("b", false, true),
    ("br", true, true), ("rb", true, true) ]

/-- A text. -/
def text? (cs : List Char) : Option (Form × List Char) := do
  let mark := cs.takeWhile Char.isAlpha
  let body := cs.dropWhile Char.isAlpha
  let (_, isRaw, isBytes) ← textMarks.find? fun (m, _) => m.toList = mark.map Char.toLower
  let quote ← body.head?
  if quote ≠ '\'' && quote ≠ '"' then none
  let quotes := if [quote, quote, quote].isPrefixOf body then [quote, quote, quote] else [quote]
  let rest ← afterText quotes isRaw isBytes (body.drop quotes.length)
  return (if isBytes then .bytes else .text, rest)

/-- Texts one after the other, which are one; all of them are of one sort. -/
def texts? (inBrackets : Bool) : Nat → List Char → Option (Form × List Char)
  | 0, _ => none
  | fuel + 1, cs => do
    let (form, rest) ← text? cs
    let more := gap inBrackets rest
    match more.head? with
    | some c =>
      if c = '\'' || c = '"' || ((text? more).isSome && c.isAlpha) then do
        let (next, rest) ← texts? inBrackets fuel more
        if next = form then some (form, rest) else none
      else some (form, rest)
    | none => some (form, rest)

/-! ## Literals -/

/-- Whether a literal can be in a set, or a key. -/
def Form.isHashable : Form → Bool
  | collection => false
  | _ => true

mutual

/-- A literal without a sign; `fuel` bounds the steps. -/
def atom? (inBrackets : Bool) : Nat → List Char → Option (Form × List Char)
  | 0, _ => none
  | fuel + 1, cs =>
    match gap inBrackets cs with
    | '.' :: '.' :: '.' :: r => some (.other, r)
    | '(' :: r =>
      match gap true r with
      | ')' :: r => some (.other, r)
      | r => do
        let (forms, isTuple, rest) ← items? true fuel r
        match forms, gap true rest with
        | [form], ')' :: rest =>
          some (if !isTuple then form else if form.isHashable then .other else .collection, rest)
        | forms, ')' :: rest =>
          some (if forms.all Form.isHashable then .other else .collection, rest)
        | _, _ => none
    | '\x7b' :: r =>
      match gap true r with
      | '\x7d' :: r => some (.collection, r)
      | r => (members? fuel none r).map (.collection, ·)
    | c :: r =>
      if c.isDigit || c = '.' then number? (c :: r)
      else
        let word := String.ofList ((c :: r).takeWhile isWordChar)
        let rest := (c :: r).dropWhile isWordChar
        if ["None", "True", "False"].contains word then some (.other, rest)
        else if word = "set" then
          match gap inBrackets rest with
          | '(' :: r =>
            match gap true r with
            | ')' :: r => some (.collection, r)
            | _ => none
          | _ => none
        else texts? inBrackets fuel (c :: r)
    | [] => none

/-- A literal: a sign needs a bare number after it, and only a real number can be added to an
imaginary one. -/
def literal? (inBrackets : Bool) : Nat → List Char → Option (Form × List Char)
  | 0, _ => none
  | fuel + 1, cs => do
    let (left, rest) ←
      match gap inBrackets cs with
      | c :: r =>
        if c = '+' || c = '-' then
          match ← atom? inBrackets fuel r with
          | (.number isImaginary .bare, rest) => some (Form.number isImaginary .signed, rest)
          | _ => none
        else atom? inBrackets fuel (c :: r)
      | [] => none
    match gap inBrackets rest with
    | c :: r =>
      if c = '+' || c = '-' then
        match left, ← atom? inBrackets fuel r with
        | .number false .bare, (.number true .bare, rest)
        | .number false .signed, (.number true .bare, rest) => some (.number true .sum, rest)
        | _, _ => none
      else some (left, rest)
    | [] => some (left, rest)

/-- Literals with commas between them, and whether there is a comma at all. -/
def items? (inBrackets : Bool) : Nat → List Char → Option (List Form × Bool × List Char)
  | 0, _ => none
  | fuel + 1, cs => do
    let (form, rest) ← literal? inBrackets fuel cs
    match gap inBrackets rest with
    | ',' :: r =>
      match gap inBrackets r with
      | [] | ')' :: _ => some ([form], true, r)
      | r => do
        let (forms, _, rest) ← items? inBrackets fuel r
        some (form :: forms, true, rest)
    | rest => some ([form], false, rest)

/-- The members of a set or a mapping up to its closing brace; the first one says which it is. -/
def members? : Nat → Option Bool → List Char → Option (List Char)
  | 0, _, _ => none
  | fuel + 1, isMapping, cs => do
    let (form, rest) ← literal? true fuel cs
    if !form.isHashable then none
    let (hasValue, rest) ←
      match gap true rest with
      | ':' :: r => (literal? true fuel r).map fun (_, rest) => (true, gap true rest)
      | rest => some (false, rest)
    if isMapping.getD hasValue ≠ hasValue then none
    match rest with
    | '\x7d' :: r => some r
    | ',' :: r =>
      match gap true r with
      | '\x7d' :: r => some r
      | r => members? fuel (some hasValue) r
    | _ => none

end

/-- **Whether a text is a literal**, or several with commas between them. -/
def isLiteral (cs : List Char) : Bool :=
  match items? false (4 * cs.length + 4) (gap true cs) with
  | some (_, _, rest) => (gap true rest).isEmpty
  | none => false

/-- Whether characters call an action. -/
def callsAction (cs : List Char) : Bool :=
  let cs := Text.trim isSpace cs
  let arguments := cs.dropWhile fun c => isWordChar c || c = '.'
  if arguments.isEmpty then true
  else if arguments.head? = some '(' && arguments.getLast? = some ')' && !arguments.contains '\n'
  then isLiteral arguments
  else isLiteral cs

/-- **Whether a text calls an action**: a name with literals in round brackets or without, or
literals alone.  A text with a half in it is none of these. -/
def isCall (ps : List Point) : Bool := (Text.chars? ps).any callsAction

end LintBundle.Literal
