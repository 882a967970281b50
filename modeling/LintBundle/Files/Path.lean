import LintBundle.Text.Basic

/-!
# Files/Path — paths as they are written and shown

A path is shown without repeated slashes and single dots; only two slashes in front of everything
stay two.  Double dots stay: what they lead to depends on the files, not on the text.  The names of
files are bytes; a text stands for its encoding, which some of the halves of pairs have as well.
-/

namespace LintBundle

/-- Where a path begins. -/
inductive PathStart
  | working
  | root
  /-- The root, written with two slashes. -/
  | doubledRoot
  deriving DecidableEq, Repr

namespace PathStart

/-- The slashes in front. -/
def text : PathStart → Text
  | working => ""
  | root => "/"
  | doubledRoot => "//"

/-- The start of a text: two slashes are kept, and three or more are one. -/
def ofPoints : List Point → PathStart
  | .char '/' :: .char '/' :: .char '/' :: _ => root
  | .char '/' :: .char '/' :: _ => doubledRoot
  | .char '/' :: _ => root
  | _ => working

end PathStart

/-- A path, from the root or from the working directory. -/
structure Path where
  start : PathStart
  parts : List Text
  deriving DecidableEq, Repr

namespace Path

/-- The path a text writes. -/
def ofText (t : Text) : Path :=
  let parts := (Text.split (.char '/') t.toList).filter fun part => part ≠ [] && part ≠ [.char '.']
  ⟨.ofPoints t.toList, parts.map Text.ofList⟩

/-- Whether a path begins at the root. -/
def isAbsolute (p : Path) : Bool := p.start ≠ .working

/-- The text of a path. -/
def text (p : Path) : Text :=
  let body := p.start.text ++ Text.intercalate "/" p.parts
  if body = "" then "." else body

/-- A path from another one on; an absolute path stands alone. -/
def append (p q : Path) : Path := if q.isAbsolute then q else ⟨p.start, p.parts ++ q.parts⟩

/-- A path with one more name. -/
def child (p : Path) (name : Text) : Path := p.append (ofText name)

/-- The path without its last part. -/
def parent (p : Path) : Path := ⟨p.start, p.parts.dropLast⟩

/-- The last part. -/
def name (p : Path) : Text := p.parts.getLastD ""

/-- Whether the name has this ending, which begins with a dot, and something in front of it. -/
def hasExtension (p : Path) (ending : Text) : Bool :=
  ending.toList.isSuffixOf p.name.toList && ending.length < p.name.length

end Path

/-! ## What paths cannot be -/

/-- Why a path cannot be used. -/
inductive PathFault
  | missing
  | notDirectory
  | isDirectory
  | alreadyExists
  /-- A name or the whole path is longer than any path can be. -/
  | nameTooLong
  /-- The path holds a code point that no path can hold. -/
  | unusable
  /-- More directories are missing than are made for one path. -/
  | tooDeep
  deriving DecidableEq, Repr

/-- The wording of a path fault. -/
def PathFault.message : PathFault → String
  | missing => "No such file or directory"
  | notDirectory => "Not a directory"
  | isDirectory => "Is a directory"
  | alreadyExists => "File exists"
  | nameTooLong => "File name too long"
  | unusable => "the path holds a code point that no path can hold"
  | tooDeep => "too many directories are missing"

/-- The most bytes of a name in a path. -/
def nameLimit : Nat := 255

/-- The most bytes of a whole path. -/
def pathLimit : Nat := 4095

/-- The most directories that are made for one path. -/
def directoryLimit : Nat := 950

/-- Whether no path can hold a code point: the zero character, and the halves that stand for no
byte. -/
def Point.isUnusable (p : Point) : Bool := p = '\x00' || p.fileBytes?.isNone

/-- What is wrong with the text of a path, whatever files there are. -/
def Path.fault? (p : Path) : Option PathFault :=
  let text := p.text
  if text.toList.any Point.isUnusable then some .unusable
  else if pathLimit < text.fileBytes.length then some .nameTooLong
  else none

end LintBundle
