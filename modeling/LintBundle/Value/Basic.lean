import LintBundle.Value.Time

/-!
# Value/Basic — the data a configuration and a manifest are made of

Config files and plugin manifests are loosely typed: what a reader or a loader hands over is a
`Value`, and the rest of the library decides which shapes it accepts.  A mapping keeps its entries
in order, and two keys are one key when `same` says so: numbers and truth values count by what
they denote.

A value read from a file may contain itself.  It is kept as a finite tree in which each container
that lies on a circle has a label, and the leaf `back` stands for the container with its label
around it.  A part that is taken out gets the whole in place of its ways back, so every part is
again a whole; a labelled container that is met inside itself is that same container again.
-/

namespace LintBundle

/-- Configuration data. -/
inductive Value
  | null
  | bool (b : Bool)
  | int (n : Int)
  | float (x : Binary64)
  | str (s : Text)
  | list (items : List Value)
  | tuple (items : List Value)
  | set (items : List Value)
  | map (entries : List (Value × Value))
  | bytes (data : List UInt8)
  | date (day : Date)
  | moment (time : Moment)
  | function (name : String)
  | object (attributes : List (String × Value))
  | document (rules : List (Value × Value)) (parents : List Value)
  /-- A container that contains itself, and the label it goes by inside. -/
  | cyclic (label : Nat) (container : Value)
  /-- The container with a label, around the place where this stands. -/
  | back (label : Nat)
  deriving Repr

instance : Inhabited Value := ⟨.null⟩

/-- What sort of data a value is. -/
inductive Kind
  | null | bool | int | float | str | list | tuple | set | map | bytes | date | moment
  | function | object | document | reference
  deriving DecidableEq, Repr

namespace Value

/-- The sort of a value. -/
def kind : Value → Kind
  | null => .null
  | bool _ => .bool
  | int _ => .int
  | float _ => .float
  | str _ => .str
  | list _ => .list
  | tuple _ => .tuple
  | set _ => .set
  | map _ => .map
  | bytes _ => .bytes
  | date _ => .date
  | moment _ => .moment
  | function _ => .function
  | object _ => .object
  | document .. => .document
  | cyclic _ v => v.kind
  | back _ => .reference

end Value

/-- The name of a sort in messages. -/
def Kind.name : Kind → String
  | null => "NoneType"
  | bool => "bool"
  | int => "int"
  | float => "float"
  | str => "str"
  | list => "list"
  | tuple => "tuple"
  | set => "set"
  | map => "dict"
  | bytes => "bytes"
  | date => "date"
  | moment => "datetime"
  | function => "function"
  | object => "SimpleNamespace"
  | document => "ConfigDocument"
  | reference => "reference"

/-- The name of a sort with the family it belongs to. -/
def Kind.qualifiedName : Kind → String
  | date => "datetime.date"
  | moment => "datetime.datetime"
  | object => "types.SimpleNamespace"
  | kind => kind.name

namespace Value

/-! ## Keys -/

mutual

/-- **Whether two keys are one key.**  A truth value counts as `0` or `1`, a number by what it
denotes, a moment by its instant; `nan` and functions are no key twice. -/
def same : Value → Value → Bool
  | null, null => true
  | bool a, bool b => a = b
  | bool a, int n | int n, bool a => n = (if a then 1 else 0)
  | bool a, float x | float x, bool a => x.equalsInt (if a then 1 else 0)
  | int m, int n => m = n
  | int n, float x | float x, int n => x.equalsInt n
  | float x, float y => x.same y
  | str s, str t => s = t
  | tuple xs, tuple ys => sameItems xs ys
  | bytes a, bytes b => a = b
  | date a, date b => a = b
  | moment a, moment b => a.same b
  | _, _ => false

/-- Keys that are sequences are compared item by item. -/
def sameItems : List Value → List Value → Bool
  | [], [] => true
  | x :: xs, y :: ys => same x y && sameItems xs ys
  | _, _ => false

end

/-- Adds an entry at the end, or gives the entry of that key a new value in its old place. -/
def put (entries : List (Value × Value)) (k v : Value) : List (Value × Value) :=
  match entries with
  | [] => [(k, v)]
  | (k', v') :: rest => if k'.same k then (k', v) :: rest else (k', v') :: put rest k v

/-- The mapping with these entries, of which later ones replace the values of earlier ones. -/
def ofEntries (entries : List (Value × Value)) : Value :=
  .map (entries.foldl (fun es (k, v) => put es k v) [])

/-- The whole number that a member of a set counts as. -/
def rank? : Value → Option Int
  | bool b => some (if b then 1 else 0)
  | int n => some n
  | _ => none

/-- The set with these members, each of them once.  Whole numbers are in increasing order, other
members in the order they are given. -/
def ofMembers (members : List Value) : Value :=
  let distinct := members.foldl
    (fun found v => if found.any (·.same v) then found else found ++ [v]) []
  .set <|
    if distinct.all fun v => v.rank?.isSome then
      distinct.mergeSort fun v w => decide (v.rank?.getD 0 ≤ w.rank?.getD 0)
    else distinct

/-! ## Parts of a value -/

mutual

/-- Puts a container in the places that lead back to its label. -/
def attach (label : Nat) (whole : Value) : Value → Value
  | back l => if l = label then whole else back l
  | cyclic l v => if l = label then cyclic l v else cyclic l (attach label whole v)
  | list items => list (attachItems label whole items)
  | tuple items => tuple (attachItems label whole items)
  | map entries => map (attachEntries label whole entries)
  | v => v

def attachItems (label : Nat) (whole : Value) : List Value → List Value
  | [] => []
  | v :: rest => attach label whole v :: attachItems label whole rest

def attachEntries (label : Nat) (whole : Value) : List (Value × Value) → List (Value × Value)
  | [] => []
  | (k, v) :: rest => (k, attach label whole v) :: attachEntries label whole rest

end

/-- A container without its label, each of its parts a whole of its own. -/
def opened : Value → Value
  | cyclic l v => attach l (cyclic l v) v
  | v => v

/-- The items of a list or a tuple. -/
def sequence? (v : Value) : Option (List Value) :=
  match v.opened with
  | list items | tuple items => some items
  | _ => none

/-- The entries of a mapping. -/
def entries? (v : Value) : Option (List (Value × Value)) :=
  match v.opened with
  | map entries => some entries
  | _ => none

/-- What going through a value yields: the items of a collection, the keys of a mapping, the
numbers of a byte string. -/
def elements? (v : Value) : Option (List Value) :=
  match v.opened with
  | list items | tuple items | set items => some items
  | map entries => some (entries.map Prod.fst)
  | bytes data => some (data.map fun b => .int b.toNat)
  | str s => some (s.toList.map fun p => .str (Text.ofList [p]))
  | _ => none

/-- The value at a text key. -/
def valueAt? (key : Text) (entries : List (Value × Value)) : Option Value :=
  (entries.find? fun (k, _) => k.same (.str key)).map Prod.snd

/-- Whether a value counts as given: empty ones, zeros, `false` and `null` do not. -/
def isGiven : Value → Bool
  | null => false
  | bool b => b
  | int n => n ≠ 0
  | float x => !x.isZero
  | str s => !s.isEmpty
  | list items | tuple items | set items => !items.isEmpty
  | map entries => !entries.isEmpty
  | bytes data => !data.isEmpty
  | cyclic _ v => v.isGiven
  | _ => true

end Value

end LintBundle
