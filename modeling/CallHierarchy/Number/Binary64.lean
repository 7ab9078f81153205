/-! The finite numbers of the 64-bit binary floating-point format, and the operations on them that
round an exact quotient of natural numbers to the nearest such number. -/

namespace CallHierarchy

/-- The number `mantissa * 2 ^ exponent`, negated where `negative` holds. The mantissa is below
`2 ^ 53`, and the exponent is the least one that allows this. Zero keeps its sign. -/
structure Binary64 where
  negative : Bool
  mantissa : Nat
  exponent : Int
  deriving DecidableEq, Repr, Inhabited

namespace Binary64

/-- The exponent of the numbers closest to zero. -/
def minExponent : Int := -1074

/-- The exponent of the greatest numbers. -/
def maxExponent : Int := 971

def zero (negative : Bool) : Binary64 := ⟨negative, 0, minExponent⟩

def isZero (x : Binary64) : Bool := x.mantissa == 0

def withSign (x : Binary64) (negative : Bool) : Binary64 := { x with negative }

/-- The magnitude as a quotient of natural numbers. -/
def ratio (x : Binary64) : Nat × Nat :=
  if 0 ≤ x.exponent then (x.mantissa <<< x.exponent.toNat, 1)
  else (x.mantissa, 1 <<< (-x.exponent).toNat)

/-- `num / den`, rounded to the nearest integer; halfway cases go to the even one. -/
def nearestEven (num den : Nat) : Nat :=
  let q := num / den
  let r := num % den
  if 2 * r > den ∨ (2 * r = den ∧ q % 2 = 1) then q + 1 else q

/-- `num / den` divided by `2 ^ e`, as a quotient again. -/
def scaled (num den : Nat) (e : Int) : Nat × Nat :=
  if 0 ≤ e then (num, den <<< e.toNat) else (num <<< (-e).toNat, den)

/-- The number nearest to `num / den`, the even one of two that are equally near. There is none
where the quotient is beyond the greatest number. -/
def round (negative : Bool) (num den : Nat) : Option Binary64 :=
  if num = 0 then some (zero negative)
  else
    let guess : Int := Nat.log2 num - Nat.log2 den - 52
    let top := scaled num den guess
    let e := max minExponent (if top.1 < top.2 <<< 52 then guess - 1 else guess)
    let part := scaled num den e
    let m := nearestEven part.1 part.2
    let (m, e) := if m = 1 <<< 53 then (1 <<< 52, e + 1) else (m, e)
    if maxExponent < e then none else some ⟨negative, m, e⟩

/-- The number nearest to a natural number of at most 1023 bits. -/
def ofNat (n : Nat) : Binary64 := (round false n 1).getD (zero false)

def mul (x y : Binary64) : Option Binary64 :=
  round (x.negative != y.negative) (x.ratio.1 * y.ratio.1) (x.ratio.2 * y.ratio.2)

def div (x y : Binary64) : Option Binary64 :=
  round (x.negative != y.negative) (x.ratio.1 * y.ratio.2) (x.ratio.2 * y.ratio.1)

/-- A power of ten. -/
def tenTo (k : Nat) : Nat := Nat.pow 10 k

/-- The number nearest to `digits * 10 ^ exponent`. -/
def ofDecimal (negative : Bool) (digits : Nat) (exponent : Int) : Option Binary64 :=
  if 0 ≤ exponent then round negative (digits * tenTo exponent.toNat) 1
  else round negative digits (tenTo (-exponent).toNat)

/-- The magnitude rounded to an integer; halfway cases go away from zero. -/
def nearestNat (x : Binary64) : Nat := (2 * x.ratio.1 + x.ratio.2) / (2 * x.ratio.2)

/-! ### The shortest decimal that reads back -/

/-- The exponent of the first decimal digit of `num / den`. -/
def firstDigit (num den : Nat) : Int :=
  let bits : Int := Nat.log2 num - Nat.log2 den
  let least := (bits * 30103).fdiv 100000 - 1
  let reaches (k : Int) : Bool :=
    if 0 ≤ k then tenTo k.toNat * den ≤ num else den ≤ num * tenTo (-k).toNat
  if reaches (least + 3) then least + 3
  else if reaches (least + 2) then least + 2
  else if reaches (least + 1) then least + 1
  else least

/-- The decimals of `count` digits next to the magnitude that round to it, the nearer one first.
They are numbers of digits at the exponent given with them. -/
def onGrid (x : Binary64) (count : Nat) : Option (Nat × Int) :=
  let m := x.mantissa
  -- The magnitude and the ends of the interval that rounds to it, in quarters of the last place.
  let (num, den) := scaled (4 * m) 4 (-x.exponent)
  let below := if m = 1 <<< 52 ∧ minExponent < x.exponent then 1 else 2
  let (lowNum, lowDen) := scaled (4 * m - below) 4 (-x.exponent)
  let (highNum, highDen) := scaled (4 * m + 2) 4 (-x.exponent)
  let k := firstDigit num den - count + 1
  let up := if 0 ≤ k then tenTo k.toNat else 1
  let down := if 0 ≤ k then 1 else tenTo (-k).toNat
  let inside (c : Nat) : Bool :=
    if m % 2 = 0 then lowNum * down ≤ c * up * lowDen ∧ c * up * highDen ≤ highNum * down
    else lowNum * down < c * up * lowDen ∧ c * up * highDen < highNum * down
  let c := num * down / (den * up)
  let rest := num * down % (den * up)
  match inside c, inside (c + 1) with
  | true, false => some (c, k)
  | false, true => some (c + 1, k)
  | true, true =>
    if 2 * rest < den * up ∨ (2 * rest = den * up ∧ c % 2 = 0) then some (c, k)
    else some (c + 1, k)
  | false, false => none

/-- Takes the zeros off the end of a number of digits. -/
def dropZeros : Nat → Nat × Int → Nat × Int
  | 0, d => d
  | n + 1, (d, k) => if d ≠ 0 ∧ d % 10 = 0 then dropZeros n (d / 10, k + 1) else (d, k)

/-- The digits, and their exponent, of the shortest decimal that rounds to the magnitude; of the
shortest ones the nearest. -/
def shortest (x : Binary64) : Nat × Int :=
  if x.mantissa = 0 then (0, 0)
  else dropZeros 20 (((List.range 17).findSome? fun n => x.onGrid (n + 1)).getD (0, 0))

/-- The decimal text without an exponent. A whole number has no point. -/
def plainText (x : Binary64) : String :=
  let (d, k) := x.shortest
  let ds := Nat.toDigits 10 d
  let point : Int := ds.length + k
  let body :=
    if 0 ≤ k then ds ++ List.replicate k.toNat '0'
    else if 0 < point then ds.take point.toNat ++ '.' :: ds.drop point.toNat
    else '0' :: '.' :: List.replicate (-point).toNat '0' ++ ds
  String.ofList (if x.negative then '-' :: body else body)

end Binary64

end CallHierarchy
