/-!
# Double-precision numbers as words

A double is kept as its 64 bits, so that every value, NaN payloads and the sign of zero included,
is told apart. A finite one is `significand * 2 ^ scale` with its sign. `ofDecimal` rounds a
decimal to the nearest double, a tie going to the even significand.
-/

namespace DocGateway

/-- An IEEE 754 double, as its bits. -/
structure Binary64 where
  bits : UInt64
deriving DecidableEq, Repr, Inhabited

namespace Binary64

/-- The sign bit. -/
def isNegative (x : Binary64) : Bool := 1 <<< 63 ≤ x.bits.toNat

/-- The eleven exponent bits. -/
def exponentField (x : Binary64) : Nat := x.bits.toNat >>> 52 % 2048

/-- The low 52 bits. -/
def fractionField (x : Binary64) : Nat := x.bits.toNat % (1 <<< 52)

/-- Neither infinite nor NaN. -/
def isFinite (x : Binary64) : Bool := x.exponentField ≠ 2047

def isNaN (x : Binary64) : Bool := x.exponentField = 2047 ∧ x.fractionField ≠ 0

/-- Zero of either sign. -/
def isZero (x : Binary64) : Bool := x.exponentField = 0 ∧ x.fractionField = 0

/-- The whole number that a finite double scales by a power of two. -/
def significand (x : Binary64) : Nat :=
  if x.exponentField = 0 then x.fractionField else 1 <<< 52 + x.fractionField

/-- The power of two that a finite double scales its significand by. -/
def scale (x : Binary64) : Int :=
  if x.exponentField = 0 then -1074 else x.exponentField - 1075

/-- The value of a double that is a whole number. -/
def toInt? (x : Binary64) : Option Int :=
  if ¬ x.isFinite then none
  else
    let signed (n : Nat) : Int := if x.isNegative then -n else n
    match x.scale with
    | .ofNat e => some (signed (x.significand <<< e))
    | .negSucc e =>
      if x.significand % (1 <<< (e + 1)) = 0 then some (signed (x.significand >>> (e + 1)))
      else none

/-- The double with this sign, exponent field and fraction field. -/
def ofFields (negative : Bool) (exponent fraction : Nat) : Binary64 :=
  ⟨UInt64.ofNat ((if negative then 1 <<< 63 else 0) + exponent <<< 52 + fraction)⟩

def zero (negative : Bool) : Binary64 := ofFields negative 0 0

def infinity (negative : Bool) : Binary64 := ofFields negative 2047 0

/-- The quiet NaN without payload. -/
def nan : Binary64 := ofFields false 2047 (1 <<< 51)

/-! ### Rounding -/

/-- A quotient rounded to the nearest whole number, a tie going to the even one. -/
def roundDiv (num den : Nat) : Nat :=
  let q := num / den
  let r := num % den
  if 2 * r < den then q
  else if den < 2 * r then q + 1
  else if q % 2 = 0 then q else q + 1

/-- The double nearest to `num / den`, both positive: the scale is the least one at which the
rounded significand has at most 53 bits, and at least that of the smallest doubles. -/
def ofRatio (negative : Bool) (num den : Nat) : Binary64 :=
  let estimate : Int := (num.log2 : Int) - den.log2 - 52
  let at_ (e : Int) : Nat := roundDiv (num <<< (-e).toNat) (den <<< e.toNat)
  let floor_ (e : Int) : Nat := num <<< (-e).toNat / den <<< e.toNat
  let e₀ := if floor_ estimate < 1 <<< 52 then estimate - 1 else estimate
  let e := max e₀ (-1074)
  let m := at_ e
  let (m, e) := if m = 1 <<< 53 then (1 <<< 52, e + 1) else (m, e)
  if m < 1 <<< 52 then ofFields negative 0 m
  else if 971 < e then infinity negative
  else ofFields negative (e + 1075).toNat (m - 1 <<< 52)

/-- The double nearest to `digits * 10 ^ exponent`. A decimal too large or too small for any
finite scale is settled from its number of digits alone. -/
def ofDecimal (negative : Bool) (digits : Nat) (exponent : Int) : Binary64 :=
  if digits = 0 then zero negative
  else
    let size : Int := exponent + (Nat.toDigits 10 digits).length
    if 310 < size then infinity negative
    else if size < -330 then zero negative
    else ofRatio negative (digits * Nat.pow 10 exponent.toNat) (Nat.pow 10 (-exponent).toNat)

/-! ### Sums and order -/

/-- The double nearest to the sum of two finite doubles. Where the sum is zero, it is the positive
one. -/
def add (x y : Binary64) : Binary64 :=
  let scale := min x.scale y.scale
  let whole (z : Binary64) : Int :=
    let n : Int := z.significand <<< (z.scale - scale).toNat
    if z.isNegative then -n else n
  let total := whole x + whole y
  if total = 0 then zero false
  else ofRatio (total < 0) (total.natAbs <<< scale.toNat) (1 <<< (-scale).toNat)

/-- Whether a finite double is at most another one. -/
def le (x y : Binary64) : Bool :=
  if x.isZero ∧ y.isZero then true
  else
    match x.isNegative, y.isNegative with
    | false, false => x.bits ≤ y.bits
    | true, true => y.bits ≤ x.bits
    | negative, _ => negative

end Binary64

end DocGateway
