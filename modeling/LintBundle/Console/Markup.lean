import LintBundle.Console.Emoji
import LintBundle.Console.Literal
import LintBundle.Console.Style

/-!
# Console/Markup — styled console text without its styles

Console text marks its styles by tags in brackets: a tag begins with a small letter, `#`, `/` or
`@`, and runs to the next closing bracket.  A tag does not show.  One that begins with a slash
closes the style of that name, or the latest without a name, and has to find it open; an action, a
style whose name begins with `@`, has to spell a call when it is closed.  Backslashes in front of a
tag make it text: each pair of them is one backslash, and a single one left over keeps the tag.
Elsewhere a backslash before a bracket does not show, and names of symbols stand for the symbols.

`escape` puts backslashes before the tags of a text, so that they show.
-/

namespace LintBundle.Markup

/-- Whether a tag can begin with a character. -/
def startsTag : Point → Bool
  | .char c => ('a' ≤ c && c ≤ 'z') || c = '#' || c = '/' || c = '@'
  | .half _ => false

/-- The content of a tag after its opening bracket, and what follows its end. -/
def tag? (cs : List Point) : Option (List Point × List Point) :=
  if cs.head?.any startsTag && cs.contains (.char ']') then
    some (cs.takeWhile (· ≠ .char ']'), (cs.dropWhile (· ≠ .char ']')).drop 1)
  else none

/-- The count of backslashes at the end of a text. -/
def slashes (cs : List Point) : Nat := (cs.reverse.takeWhile (· = .char '\\')).length

/-- A piece of console text. -/
inductive Piece
  | plain (content : List Point)
  | tag (content : List Point)
  deriving DecidableEq, Repr

/-- The pieces of console text that begins with plain text and goes on with parts that each follow
an opening bracket. -/
def pieces (before : List Point) : List (List Point) → List Piece
  | [] => [.plain before]
  | part :: rest =>
    match tag? part with
    | none => pieces (before ++ .char '[' :: part) rest
    | some (content, after) =>
      let count := slashes before
      .plain (before.take (before.length - count)) ::
        .plain (List.replicate (count / 2) (.char '\\')) ::
        (if count % 2 = 1 then .plain (.char '[' :: content ++ [.char ']']) else .tag content) ::
        pieces after rest

/-- The pieces of console text. -/
def ofText (cs : List Point) : List Piece :=
  match Text.split (.char '[') cs with
  | before :: parts => pieces before parts
  | [] => []

/-! ## Plain text -/

/-- A text without the backslashes right before brackets. -/
def withoutSlashes : List Point → List Point
  | .char '\\' :: .char '[' :: r => .char '[' :: withoutSlashes r
  | c :: r => c :: withoutSlashes r
  | [] => []

/-- The control characters that a console leaves out. -/
def isHidden (c : Point) : Bool :=
  c = '\x07' || c = '\x08' || c = '\x0b' || c = '\x0c' || c = '\r'

/-- What shows of plain text. -/
def plain (cs : List Point) : List Point :=
  (Emoji.expand (withoutSlashes cs)).filter fun c => !isHidden c

/-! ## Tags -/

/-- A style that is open: its name, and what follows an equals sign after it. -/
structure Opened where
  name : List Point
  parameters : List Point
  deriving DecidableEq, Repr

/-- Closes a style; an action has to spell a call. -/
def Opened.check (o : Opened) : Except Fault Unit :=
  if o.name.head? = some (.char '@') && !o.parameters.isEmpty && !Literal.isCall o.parameters then
    .error .badMarkup
  else .ok ()

/-- The styles that are open after a tag, the latest first. -/
def afterTag (opened : List Opened) (content : List Point) : Except Fault (List Opened) := do
  let name := content.takeWhile (· ≠ .char '=')
  match name with
  | .char '/' :: closed =>
    let closed := Text.trim Point.isSpace closed
    let name ← if closed.isEmpty then pure none else some <$> Style.canonical closed
    match opened.find? fun o => name.all (o.name = ·) with
    | none => throw .badMarkup
    | some o =>
      o.check
      return opened.erase o
  | _ => return ⟨← Style.canonical name, content.drop (name.length + 1)⟩ :: opened

/-- What shows of pieces, given the styles that are open. -/
def shown (opened : List Opened) : List Piece → Except Fault (List Point)
  | [] => .ok []
  | .plain cs :: rest => (shown opened rest).map (plain cs ++ ·)
  | .tag content :: rest => do shown (← afterTag opened content) rest

/-- **What shows of a console text.** -/
def text (cs : List Point) : Except Fault (List Point) := shown [] (ofText cs)

/-! ## Text with its tags -/

/-- Puts backslashes before the tags of a text that begins with plain text and goes on with parts
that each follow an opening bracket. -/
def escaped (before : List Point) : List (List Point) → List Point
  | [] => before
  | part :: rest =>
    match tag? part with
    | none => escaped (before ++ .char '[' :: part) rest
    | some (content, after) =>
      before ++ List.replicate (slashes before + 1) (.char '\\') ++ .char '[' :: content ++
        .char ']' ::
        escaped after rest

/-- **Console text that shows a text with its tags.**  A single backslash at its end gets a second
one. -/
def escape (cs : List Point) : List Point :=
  let cs := match Text.split (.char '[') cs with
    | before :: parts => escaped before parts
    | [] => []
  if slashes cs = 1 then cs ++ [.char '\\'] else cs

end LintBundle.Markup
