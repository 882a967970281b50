import LintBundle.Console.Emoji.Names
import LintBundle.Number.Reading

/-!
# Console/Emoji — symbols by their names

Console text writes a symbol as its name between colons, in any case and without blanks.  A hyphen
and the word `emoji` or `text` at the end of the name choose how the symbol looks.  Colons around
anything else stay as they are; the second of them is not the first of a name that follows.
-/

namespace LintBundle.Emoji

/-- The five tones of skin, each with the code point that gives it to a symbol. -/
def tones : List (String × Nat) :=
  [ ("light", 0x1f3fb), ("medium-light", 0x1f3fc), ("medium", 0x1f3fd), ("medium-dark", 0x1f3fe),
    ("dark", 0x1f3ff) ]

/-- A symbol in a tone: the tone follows the first code point, where it takes the place of the
mark of coloured symbols. -/
def inTone (tone : Nat) : List Char → List Char
  | c :: '\ufe0f' :: r | c :: r => c :: Char.ofNat tone :: r
  | [] => []

/-- The symbol that an entry gives a name, where it lists a name for a symbol. -/
def listedSymbol? (symbol listed name : List Char) : Option (List Char) :=
  let stem := listed.takeWhile (· ≠ '~')
  if name = stem then some symbol
  else if listed.length = stem.length then none
  else
    (tones.find? fun (tone, _) => name = stem ++ ("_" ++ tone ++ "_skin_tone").toList).map
      fun (_, tone) => inTone tone symbol

/-- The symbol that an entry gives a name. -/
def entrySymbol? (name entry : List Char) : Option (List Char) := do
  let codes := entry.takeWhile (· ≠ '=')
  let symbol ← (Text.split '-' codes).mapM fun code => (Text.hexCode? code).map Char.ofNat
  (Text.split ',' (entry.drop (codes.length + 1))).findSome? (listedSymbol? symbol · name)

/-- The symbol with a name. -/
def named? (name : List Char) : Option (List Char) :=
  lines.findSome? fun line => (Text.split ' ' line.toList).findSome? (entrySymbol? name)

/-- The marks that choose how a symbol looks. -/
def looks : List (String × Char) := [("-emoji", '\ufe0f'), ("-text", '\ufe0e')]

/-- The symbol for what stands between two colons. -/
def symbol? (content : List Char) : Option (List Char) :=
  match looks.find? fun (word, _) => word.toList.isSuffixOf content with
  | some (word, look) =>
    (named? (Reading.lower (content.take (content.length - word.length)))).map (· ++ [look])
  | none => named? (Reading.lower content)

/-- What shows of the pieces of a text after its first colon. -/
def afterColon : List (List Point) → List Point
  | [] => []
  | [last] => .char ':' :: last
  | content :: next :: rest =>
    if content.any Point.isSpace then .char ':' :: content ++ afterColon (next :: rest)
    else
      ((symbol? (Text.shapes content)).elim (.char ':' :: content ++ [.char ':'])
        (·.map Point.char)) ++ next ++ afterColon rest

/-- **A text with symbols in place of their names.** -/
def expand (ps : List Point) : List Point :=
  match Text.split (.char ':') ps with
  | first :: rest => first ++ afterColon rest
  | [] => []

end LintBundle.Emoji
