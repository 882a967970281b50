import LintBundle.Fault
import LintBundle.Number.Reading

/-!
# Json/Basic — JSON data, and which values have it

`Json.ofValue` is the image of a value in JSON: tuples become arrays, and a key that is a number, a
truth value or `null` becomes the text JSON writes for it.  Values of other sorts, and values that
contain themselves, have no image.  Members keep their order and may repeat a name.
-/

namespace LintBundle

/-- JSON data. -/
inductive Json
  | null
  | bool (b : Bool)
  | int (n : Int)
  | float (x : Binary64)
  | str (s : Text)
  | array (items : List Json)
  | object (members : List (Text × Json))
  deriving Repr

namespace Json

instance : Inhabited Json := ⟨.null⟩

/-- The text of a number; infinities and `nan` have words of their own. -/
def floatText (x : Binary64) : List Char :=
  match x with
  | .nan => "NaN".toList
  | .infinite false => "Infinity".toList
  | .infinite true => "-Infinity".toList
  | x => x.text

/-- A whole number, if it is not too long. -/
def checkedInt (n : Int) : Except JsonFault Int :=
  if isTooLong n then .error .numberTooLong else .ok n

/-- The name a key is written as. -/
def nameOf : Value → Except JsonFault Text
  | .str s => .ok s
  | .bool b => .ok (if b then "true" else "false" : Text)
  | .null => .ok "null"
  | .int n => (checkedInt n).map fun n => .ofChars (intText n)
  | .float x => .ok (.ofChars (floatText x))
  | v => .error (.badKey v.kind)

mutual

/-- The JSON image of a part of a value, where `around` holds the labels of the containers around
it. -/
def image (around : List Nat) : Value → Except JsonFault Json
  | .null => .ok .null
  | .bool b => .ok (.bool b)
  | .int n => (checkedInt n).map .int
  | .float x => .ok (.float x)
  | .str s => .ok (.str s)
  | .list items => (imageItems around items).map .array
  | .tuple items => (imageItems around items).map .array
  | .map entries => (imageEntries around entries).map .object
  | .cyclic l v => if around.contains l then .error .circular else image (l :: around) v
  | .back _ => .error .circular
  | v => .error (.badValue v.kind)

def imageItems (around : List Nat) : List Value → Except JsonFault (List Json)
  | [] => .ok []
  | v :: rest => do
    let j ← image around v
    let js ← imageItems around rest
    return j :: js

def imageEntries (around : List Nat) :
    List (Value × Value) → Except JsonFault (List (Text × Json))
  | [] => .ok []
  | (k, v) :: rest => do
    let name ← nameOf k
    let j ← image around v
    let members ← imageEntries around rest
    return (name, j) :: members

end

/-- **The JSON image of a value**; what has none is reported at its first place. -/
def ofValue (v : Value) : Except JsonFault Json := image [] v

mutual

/-- JSON data as a value; of members with one name the last counts, in the place of the first. -/
def toValue : Json → Value
  | null => .null
  | bool b => .bool b
  | int n => .int n
  | float x => .float x
  | str s => .str s
  | array items => .list (toItems items)
  | object members => Value.ofEntries (toEntries members)

def toItems : List Json → List Value
  | [] => []
  | j :: rest => toValue j :: toItems rest

def toEntries : List (Text × Json) → List (Value × Value)
  | [] => []
  | (name, j) :: rest => (.str name, toValue j) :: toEntries rest

end

end Json

end LintBundle
