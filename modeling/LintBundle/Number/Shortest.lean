import LintBundle.Number.Reading

/-!
# Number/Shortest — the fewest digits that read back

`shortest x` is the decimal numeral with the fewest digits that rounds to `x`, and of several the
nearest to `x`, a tie going to the even last digit.  On a grid of decimal numbers the two neighbours
of `x` are the only candidates worth trying, so each count of digits costs two readings.
-/

namespace LintBundle

namespace Binary64

/-- A positive decimal numeral `0.d₁d₂… · 10^point`. -/
structure Numeral where
  digits : List Nat
  point : Int
  deriving DecidableEq, Repr

/-- The place of the leading digit: the least `k` with `num / den < 10^k`. -/
def leadingPlace (num den : Nat) : Int :=
  let guess : Int := ((num.log2 : Int) - (den.log2 : Int)) * 30103 / 100000 - 1
  let up : Option Nat := (List.range 6).find? fun i =>
    let (n, d) := scale 10 num den (guess + i)
    n < d
  guess + up.getD 0

/-- `n · 10^e` as a numeral without trailing zeros. -/
def Numeral.ofScaled (n : Nat) (e : Int) : Numeral :=
  let ds := decimalDigits n
  ⟨(ds.reverse.dropWhile (· = 0)).reverse, (ds.length : Int) + e⟩

/-- The number a numeral reads as. -/
def Numeral.read (negative : Bool) (x : Numeral) : Binary64 :=
  ofDecimal negative x.digits (x.point - x.digits.length)

/-- The candidate with `count` digits: of the neighbours that read back, the nearer, and from a tie
the even one. -/
def candidate (m : Nat) (q : Int) (count : Nat) : Option Numeral :=
  let (num, den) := ratio m q
  let e := leadingPlace num den - count
  let (n, d) := scale 10 num den e
  let low := n / d
  let reads (c : Nat) : Bool :=
    match (Numeral.ofScaled c e).read false with
    | finite _ m' q' _ => m' = m && q' = q
    | _ => false
  match reads low, reads (low + 1) with
  | true, true => some (.ofScaled (roundDiv n d) e)
  | true, false => some (.ofScaled low e)
  | false, true => some (.ofScaled (low + 1) e)
  | false, false => none

/-- The exact expansion of `m · 2^q`. -/
def exactNumeral (m : Nat) (q : Int) : Numeral :=
  if 0 ≤ q then .ofScaled (m * Nat.pow 2 q.toNat) 0
  else .ofScaled (m * Nat.pow 5 (-q).toNat) q

/-- **The shortest numeral** of a finite magnitude; seventeen digits always suffice, and the exact
expansion stands for the case that no count is needed. -/
def shortest (m : Nat) (q : Int) : Numeral :=
  ((List.range 17).findSome? fun i => candidate m q (i + 1)).getD (exactNumeral m q)

/-! ## Written form -/

/-- How digits and a decimal point become text: positional from `10^-4` up to `10^16`, otherwise
one digit before the point and an exponent with a sign and at least two digits. -/
def Numeral.text (x : Numeral) : List Char :=
  let ds := x.digits.map fun d => Char.ofNat ('0'.toNat + d)
  if -4 < x.point && x.point ≤ 16 then
    if x.point ≤ 0 then
      '0' :: '.' :: (List.replicate (-x.point).toNat '0' ++ ds)
    else
      let whole := ds.take x.point.toNat
      let part := ds.drop x.point.toNat
      whole ++ List.replicate (x.point.toNat - ds.length) '0'
        ++ '.' :: (if part.isEmpty then ['0'] else part)
  else
    let e := x.point - 1
    let places := decimalText e.natAbs
    let places := if places.length < 2 then '0' :: places else places
    let head := ds.take 1 ++ (if ds.length ≤ 1 then [] else '.' :: ds.drop 1)
    head ++ 'e' :: (if e < 0 then '-' else '+') :: places

/-- **The text of a number**: shortest digits, and words for what is no finite number. -/
def text : Binary64 → List Char
  | nan => ['n', 'a', 'n']
  | infinite negative => if negative then ['-', 'i', 'n', 'f'] else ['i', 'n', 'f']
  | finite negative m q _ =>
    let body := if m = 0 then ['0', '.', '0'] else (shortest m q).text
    if negative then '-' :: body else body

end Binary64

end LintBundle
