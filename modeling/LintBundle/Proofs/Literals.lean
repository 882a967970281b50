import LintBundle.Module.Text
import Mathlib.Data.Nat.Notation
import Mathlib.Logic.Function.Basic
import Mathlib.Tactic.SplitIfs

/-!
# Proofs/Literals — a quoted text is one literal, whatever follows it

    text ──literal──▸ 'text' ++ rest ──read──▸ code points of the text, rest

`read` is the grammar of single-quoted literals at large, not of those that are written here: all
letters, digits and braces that may follow a backslash, line ends that a backslash takes away, and
escapes by code for every code point, a half of a pair among them.  Each code point is written so
that this grammar reads it as itself and goes on behind it (`characters_escapePoint`); so a literal
ends with its own last quote.  The value of a literal in UTF-16 are the code units of what is read.
-/

namespace LintBundle

namespace Quoted

/-! ## The grammar of literals -/

/-- The code points that end a line. -/
def endsLine (p : Point) : Bool := p = '\n' || p = '\r' || p = '\u2028' || p = '\u2029'

/-- What a character behind a backslash stands for by itself. -/
def singleEscape (p : Point) : Point :=
  if p = 'b' then '\x08'
  else if p = 'f' then '\x0c'
  else if p = 'n' then '\n'
  else if p = 'r' then '\r'
  else if p = 't' then '\t'
  else if p = 'v' then '\x0b'
  else p

/-- The code that digits name. -/
def code? (digits : List Point) : Option ℕ := Text.hexCode? (Text.shapes digits)

/-- The code point in braces behind `u`, and how many characters it takes. -/
def braced? (ps : List Point) : Option (List Point × ℕ) := do
  let digits := ps.takeWhile (· ≠ .char '\x7d')
  guard (digits ≠ [] ∧ digits.length < ps.length)
  let code ← code? digits
  guard (code ≤ 0x10ffff)
  return ([.ofNat code], digits.length + 3)

/-- **What follows a backslash**: the code points it stands for, and how many characters it takes.
The end of a line stands for nothing, and a digit for nothing that is allowed, unless it is a zero
that no digit follows. -/
def escape? : List Point → Option (List Point × ℕ)
  | .char 'x' :: a :: b :: _ => (code? [a, b]).map fun code => ([.ofNat code], 3)
  | .char 'u' :: .char '\x7b' :: rest => braced? rest
  | .char 'u' :: a :: b :: c :: d :: _ => (code? [a, b, c, d]).map fun code => ([.ofNat code], 5)
  | p :: rest =>
    if p = 'x' || p = 'u' then none
    else if endsLine p then some ([], if p = '\r' && rest.head? = some (.char '\n') then 2 else 1)
    else if p = '0' && !rest.head?.any (·.shape.isDigit) then some (['\x00'], 1)
    else if p.shape.isDigit then none
    else some ([singleEscape p], 1)
  | [] => none

/-- The code points of a literal up to the quote that closes it, and what follows that; `left` of
them belong to an escape that was read already.  No line may end before the quote. -/
def characters : (left : ℕ) → List Point → Option (List Point × List Point)
  | _, [] => none
  | left + 1, _ :: rest => characters left rest
  | 0, p :: rest =>
    if p = '\'' then some ([], rest)
    else if p = '\\' then do
      let (points, length) ← escape? rest
      let (more, after) ← characters length rest
      return (points ++ more, after)
    else if endsLine p then none
    else do
      let (more, after) ← characters 0 rest
      return (p :: more, after)

/-- **A literal in front of a text**: the code points it stands for, and what follows it. -/
def read : List Point → Option (List Point × List Point)
  | .char '\'' :: rest => characters 0 rest
  | _ => none

/-! ## Literals are read back -/

/-- An escape of one character is read, and the code points behind it. -/
theorem characters_single {letter p : Point} (rest : List Point)
    (h : escape? (letter :: rest) = some ([p], 1)) :
    characters 0 (.char '\\' :: letter :: rest)
      = (characters 0 rest).map fun (points, after) => (p :: points, after) := by
  rw [characters, if_neg (by decide), if_pos rfl, h]
  cases hrest : characters 0 rest <;> simp [characters, hrest]

/-- An escape by a code is read, and the code points behind it. -/
theorem characters_code {a b c d p : Point} (rest : List Point)
    (h : escape? (.char 'u' :: a :: b :: c :: d :: rest) = some ([p], 5)) :
    characters 0 (.char '\\' :: .char 'u' :: a :: b :: c :: d :: rest)
      = (characters 0 rest).map fun (points, after) => (p :: points, after) := by
  rw [characters, if_neg (by decide), if_pos rfl, h]
  cases hrest : characters 0 rest <;> simp [characters, hrest]

/-- A code point that needs no escape is read, and the code points behind it. -/
theorem characters_plain {p : Point} (hquote : p ≠ '\'') (hslash : p ≠ '\\')
    (hline : endsLine p = false) (rest : List Point) :
    characters 0 (p :: rest)
      = (characters 0 rest).map fun (points, after) => (p :: points, after) := by
  rw [characters, if_neg hquote, if_neg hslash, hline, if_neg (by decide)]
  cases characters 0 rest <;> rfl

/-- **A code point is read as itself**, however it is written. -/
theorem characters_escapePoint (p : Point) (rest : List Point) :
    characters 0 (escapePoint p ++ rest)
      = (characters 0 rest).map fun (points, after) => (p :: points, after) := by
  cases p with
  | half i => exact characters_plain (by simp) (by simp) (by simp [endsLine]) rest
  | char c =>
    rw [escapePoint, escape]
    split
    · subst c
      exact characters_single rest rfl
    split
    · subst c
      exact characters_single rest rfl
    split
    · subst c
      exact characters_single rest rfl
    split
    · subst c
      exact characters_single rest rfl
    split
    · subst c
      exact characters_code rest rfl
    split
    · subst c
      exact characters_code rest rfl
    rename_i hslash hquote hn hr hls hps
    exact characters_plain (by simpa using hquote) (by simpa using hslash)
      (by simp [endsLine, hn, hr, hls, hps]) rest

@[simp] theorem characters_flatMap (ps rest : List Point) :
    characters 0 (ps.flatMap escapePoint ++ .char '\'' :: rest) = some (ps, rest) := by
  induction ps with
  | nil => rfl
  | cons p ps ih =>
    rw [List.flatMap_cons, List.append_assoc, characters_escapePoint, ih]
    rfl

/-- **A literal is read as its text, up to its end**, whatever follows it. -/
@[simp] theorem read_literal (s rest : Text) :
    read (literal s ++ rest).toList = some (s.toList, rest.toList) := by
  have htext : (literal s ++ rest).toList
      = .char '\'' :: (s.toList.flatMap escapePoint ++ .char '\'' :: rest.toList) := by
    simp [literal, encode]
  rw [htext]
  exact characters_flatMap s.toList rest.toList

/-- No line ends in a literal. -/
@[simp] theorem any_endsLine_literal (s : Text) : (literal s).toList.any endsLine = false := by
  have hescape : ∀ c, (escape c).any (fun c => endsLine (.char c)) = false := by
    intro c
    unfold escape
    split_ifs with hslash hquote hn hr hls hps
    all_goals simp_all [endsLine]
  have hpoint : ∀ p, (escapePoint p).any endsLine = false := by
    intro p
    cases p with
    | half i => simp [escapePoint, endsLine]
    | char c => simpa [escapePoint] using hescape c
  simp [literal, encode, hpoint, endsLine]

/-- Texts with one literal are one text. -/
theorem literal_injective : Function.Injective literal := by
  intro s s' h
  have hread := read_literal s ""
  rw [h, read_literal s' ""] at hread
  exact Text.ext (Prod.mk.inj (Option.some.inj hread)).1.symm

/-- **A literal is safe and can be read back.**  In front of any text, a literal is read up to its
own end, and stands for its text; no line ends in it; and different texts have different
literals. -/
theorem literal_safe :
    (∀ s rest : Text, ∃ points, read (literal s ++ rest).toList = some (points, rest.toList) ∧
      Text.ofList points = s) ∧
    (∀ s, (literal s).toList.any endsLine = false) ∧
    Function.Injective literal :=
  ⟨fun s rest => ⟨_, read_literal s rest, Text.ofList_toList s⟩, any_endsLine_literal,
    literal_injective⟩

/-- A text that ends in a backslash and looks like an escape, in front of a quote. -/
theorem literal_safe_backslashes :
    ∃ points, read (literal "\\u2028'\u2028\\" ++ "';" : Text).toList
        = some (points, ("';" : Text).toList) ∧
      Text.ofList points = "\\u2028'\u2028\\" :=
  literal_safe.1 _ _

end Quoted

end LintBundle
