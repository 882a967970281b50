/-!
# Number/Binary64 — double-precision numbers by what they denote

A finite number is a sign and a magnitude `m · 2^q`, with `(m, q)` in the one canonical form each
magnitude has, so equality of values is equality of data.  Arithmetic is exact first and rounded
once, to the nearest number and from a tie to the even one: `ofRatio` rounds a quotient, and sums,
products and decimal numerals all go through it.
-/

namespace LintBundle

/-- The pair that names a finite magnitude `m · 2^q`: 53 bits, or fewer at the least exponent. -/
def Canonical (m : Nat) (q : Int) : Prop :=
  m < Nat.pow 2 53 ∧ -1074 ≤ q ∧ q ≤ 971 ∧ (Nat.pow 2 52 ≤ m ∨ q = -1074)

instance (m : Nat) (q : Int) : Decidable (Canonical m q) :=
  inferInstanceAs (Decidable (_ ∧ _ ∧ _ ∧ _))

/-- A double-precision number. -/
inductive Binary64
  | nan
  | infinite (negative : Bool)
  | finite (negative : Bool) (m : Nat) (q : Int) (canonical : Canonical m q)
  deriving DecidableEq, Repr

namespace Binary64

/-- Zero, which has a sign. -/
def zero (negative : Bool) : Binary64 := .finite negative 0 (-1074) (by decide)

instance : Inhabited Binary64 := ⟨zero false⟩

/-! ## Rounding -/

/-- `num / den` to the nearest whole number, a half to the even one. -/
def roundDiv (num den : Nat) : Nat :=
  let low := num / den
  let twice := 2 * (num % den)
  if twice < den then low
  else if den < twice then low + 1
  else low + low % 2

/-- `num / den · base^(-e)` as a quotient of whole numbers. -/
def scale (base num den : Nat) (e : Int) : Nat × Nat :=
  if 0 ≤ e then (num, den * Nat.pow base e.toNat) else (num * Nat.pow base (-e).toNat, den)

/-- The binary exponent at which `num / den` has 53 bits, and never less than the least one. -/
def exponent (num den : Nat) : Int :=
  let q : Int := (num.log2 : Int) - (den.log2 : Int) - 52
  let (n, d) := scale 2 num den q
  max (if n / d < Nat.pow 2 52 then q - 1 else q) (-1074)

/-- The number `m · 2^q` of a rounded mantissa; what is too large for the format is infinite. -/
def pack (negative : Bool) (m : Nat) (q : Int) : Binary64 :=
  let (m, q) := if m = Nat.pow 2 53 then (Nat.pow 2 52, q + 1) else (m, q)
  if h : Canonical m q then .finite negative m q h else .infinite negative

/-- The number nearest to `num / den`. -/
def ofRatio (negative : Bool) (num den : Nat) : Binary64 :=
  if num = 0 then zero negative
  else
    let q := exponent num den
    let (n, d) := scale 2 num den q
    pack negative (roundDiv n d) q

/-- The number nearest to a whole number. -/
def ofInt (n : Int) : Binary64 := ofRatio (n < 0) n.natAbs 1

/-- The number nearest to `digits · 10^e`.  Exponents far outside the format are settled by the
count of digits alone. -/
def ofDecimal (negative : Bool) (digits : List Nat) (e : Int) : Binary64 :=
  let significant := digits.dropWhile (· = 0)
  let m := significant.foldl (fun n d => 10 * n + d) 0
  let magnitude : Int := (significant.length : Int) + e
  if m = 0 || magnitude < -400 then zero negative
  else if 400 < magnitude then .infinite negative
  else
    let (n, d) := scale 10 m 1 (-e)
    ofRatio negative n d

/-! ## Exact magnitudes and arithmetic -/

/-- `m · 2^q` as a quotient of whole numbers. -/
def ratio (m : Nat) (q : Int) : Nat × Nat := scale 2 m 1 (-q)

/-- The sign bit. -/
def negative : Binary64 → Bool
  | nan => false
  | infinite n => n
  | finite n _ _ _ => n

/-- The number of the opposite sign. -/
def neg : Binary64 → Binary64
  | nan => nan
  | infinite n => .infinite !n
  | finite n m q h => .finite (!n) m q h

/-- Both zeros, and nothing else. -/
def isZero : Binary64 → Bool
  | finite _ m _ _ => m = 0
  | _ => false

/-- The rounded product. -/
def mul : Binary64 → Binary64 → Binary64
  | nan, _ | _, nan => nan
  | infinite a, y => if y.isZero then nan else .infinite (a != y.negative)
  | x, infinite b => if x.isZero then nan else .infinite (x.negative != b)
  | finite a m q _, finite b m' q' _ =>
    let (n, d) := ratio m q
    let (n', d') := ratio m' q'
    ofRatio (a != b) (n * n') (d * d')

/-- A magnitude with its sign. -/
def signed (negative : Bool) (n : Nat) : Int := if negative then -n else n

/-- The rounded sum; opposite numbers add up to the positive zero. -/
def add : Binary64 → Binary64 → Binary64
  | nan, _ | _, nan => nan
  | infinite a, infinite b => if a = b then .infinite a else nan
  | infinite a, _ => .infinite a
  | _, infinite b => .infinite b
  | finite a m q _, finite b m' q' _ =>
    let (n, d) := ratio m q
    let (n', d') := ratio m' q'
    let sum := signed a (n * d') + signed b (n' * d)
    ofRatio (if sum = 0 then a && b else sum < 0) sum.natAbs (d * d')

/-- Whether the number is the whole number `n`. -/
def equalsInt (x : Binary64) (n : Int) : Bool :=
  match x with
  | finite a m q _ =>
    let (num, den) := ratio m q
    signed a num = n * den
  | _ => false

/-- Equality of the numbers denoted: the two zeros are equal, and no number equals `nan`. -/
def same : Binary64 → Binary64 → Bool
  | nan, _ | _, nan => false
  | x, y => x = y || (x.isZero && y.isZero)

end Binary64

end LintBundle
