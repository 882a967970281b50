import LintBundle.Json.Basic

/-!
# Json/Printer — JSON data as text

The text is ASCII: other code points are written by their UTF-16 code units, so two halves of a pair
next to each other look like the character they would make up.  On one line, a comma
and a colon are followed by a blank; with an indentation, each item stands on a line of its own,
and an empty array or object keeps its two brackets together.
-/

namespace LintBundle.Json

open Display (hex)

/-- A UTF-16 code unit as an escape. -/
def unitEscape (unit : Nat) : List Char := '\\' :: 'u' :: hex 4 unit

/-- A character inside a JSON text. -/
def escaped (c : Char) : List Char :=
  if c = '"' then ['\\', '"']
  else if c = '\\' then ['\\', '\\']
  else if c = '\n' then ['\\', 'n']
  else if c = '\r' then ['\\', 'r']
  else if c = '\t' then ['\\', 't']
  else if c = '\x08' then ['\\', 'b']
  else if c = '\x0c' then ['\\', 'f']
  else if ' ' ≤ c && c ≤ '~' then [c]
  else if c.toNat < 0x10000 then unitEscape c.toNat
  else unitEscape (0xd800 + (c.toNat - 0x10000) / 0x400)
    ++ unitEscape (0xdc00 + (c.toNat - 0x10000) % 0x400)

/-- A code point inside a JSON text. -/
def escapedPoint : Point → List Char
  | .char c => escaped c
  | .half i => unitEscape (0xd800 + i)

/-- A text in quotes. -/
def quotedText (s : Text) : List Char := '"' :: s.toList.flatMap escapedPoint ++ ['"']

/-- How far each level is indented; without an indentation everything stays on one line. -/
abbrev Layout := Option Nat

/-- The line break in front of an item at a level, if there are line breaks. -/
def Layout.newline (layout : Layout) (level : Nat) : List Char :=
  match layout with
  | none => []
  | some indent => '\n' :: List.replicate (indent * level) ' '

/-- What stands between two items at a level. -/
def Layout.separator (layout : Layout) (level : Nat) : List Char :=
  match layout with
  | none => [',', ' ']
  | some _ => ',' :: layout.newline level

/-- Items between brackets, the brackets at a level and the items one further in. -/
def Layout.enclosed (layout : Layout) (level : Nat) (opening closing : Char)
    (items : List (List Char)) : List Char :=
  if items.isEmpty then [opening, closing]
  else
    opening :: layout.newline (level + 1)
      ++ (items.intersperse (layout.separator (level + 1))).flatten
      ++ layout.newline level ++ [closing]

mutual

/-- JSON data as text, starting at a level of indentation. -/
def print (layout : Layout) (level : Nat) : Json → List Char
  | null => "null".toList
  | bool b => if b then "true".toList else "false".toList
  | int n => intText n
  | float x => floatText x
  | str s => quotedText s
  | array items => layout.enclosed level '[' ']' (printItems layout (level + 1) items)
  | object members => layout.enclosed level '\x7b' '\x7d' (printMembers layout (level + 1) members)

def printItems (layout : Layout) (level : Nat) : List Json → List (List Char)
  | [] => []
  | j :: rest => print layout level j :: printItems layout level rest

def printMembers (layout : Layout) (level : Nat) : List (Text × Json) → List (List Char)
  | [] => []
  | (name, j) :: rest =>
    (quotedText name ++ ':' :: ' ' :: print layout level j) :: printMembers layout level rest

end

/-- **JSON data as text.** -/
def render (layout : Layout) (j : Json) : String := String.ofList (print layout 0 j)

end LintBundle.Json
