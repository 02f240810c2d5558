import DocGateway.Text.Integer
/-!
# Decimal128 numbers

A 128-bit word holds a sign, an exponent and a coefficient of at most 34 digits (the binary integer
encoding). `toText` writes it positionally where the exponent is at most zero and the first digit is
no further than six places behind the point, else with an exponent; `parse?` reads a text and
refuses one that no word holds exactly.
-/

namespace DocGateway

/-- A decimal floating point number, as its bits. -/
structure Decimal128 where
  bits : BitVec 128
deriving DecidableEq, Repr, Inhabited

namespace Decimal128

/-- The largest coefficient has 34 digits. -/
def maxDigits : Nat := 34

/-- The exponent of the least significant digit is at least this. -/
def minExponent : Int := -6176

/-- The exponent of the least significant digit is at most this. -/
def maxExponent : Int := 6111

/-- What a word stands for, its sign apart. -/
inductive Magnitude where
  | finite (coefficient : Nat) (exponent : Int)
  | infinity
  | nan
deriving DecidableEq, Repr

/-- The sign bit. -/
def isNegative (d : Decimal128) : Bool := 1 <<< 127 ≤ d.bits.toNat

/-- The magnitude of a word. A coefficient of more than 34 digits counts as zero. -/
def magnitude (d : Decimal128) : Magnitude :=
  let n := d.bits.toNat
  let combination := n >>> 122 % 32
  if combination = 31 then .nan
  else if combination = 30 then .infinity
  else if 24 ≤ combination then
    .finite 0 ((n >>> 111 % 16384 : Nat) + minExponent)
  else
    let coefficient := n % (1 <<< 113)
    .finite (if coefficient < Nat.pow 10 maxDigits then coefficient else 0)
      ((n >>> 113 % 16384 : Nat) + minExponent)

/-- The digits of a finite number with its point or exponent. -/
def finiteText (coefficient : Nat) (exponent : Int) : String :=
  let digits := Nat.toDigits 10 coefficient
  let leading : Int := exponent + digits.length - 1
  if exponent ≤ 0 ∧ -6 ≤ leading then
    let places := (-exponent).toNat
    if places = 0 then String.ofList digits
    else if digits.length ≤ places then
      String.ofList ('0' :: '.' :: List.replicate (places - digits.length) '0' ++ digits)
    else
      let whole := digits.length - places
      String.ofList (digits.take whole ++ '.' :: digits.drop whole)
  else
    let fraction := digits.drop 1
    String.ofList (digits.take 1 ++ (if fraction.isEmpty then [] else '.' :: fraction) ++ ['E'])
      ++ (if 0 < leading then "+" else "") ++ toString leading

/-- The text of a number. NaN is written without its sign. -/
def toText (d : Decimal128) : String :=
  let sign := if d.isNegative then "-" else ""
  match d.magnitude with
  | .nan => "NaN"
  | .infinity => sign ++ "Infinity"
  | .finite coefficient exponent => sign ++ finiteText coefficient exponent

/-! ### Reading -/

/-- The word with this sign and these lower bits. -/
def ofSigned (negative : Bool) (rest : Nat) : Decimal128 :=
  ⟨BitVec.ofNat 128 ((if negative then 1 <<< 127 else 0) + rest)⟩

/-- An exponent fits sixteen bits. -/
def exponent? (cs : List Char) : Option Int :=
  (Integer.signed? cs).filter fun e => -32768 ≤ e ∧ e ≤ 32767

/-- The first `keep` digits, if all others are zeros. -/
def cutZeros? (digits : List Char) (keep : Nat) : Option (List Char) :=
  if (digits.drop keep).all (· = '0') then some (digits.take keep) else none

/-- The digits and exponent brought into the range of the format without changing the value. -/
def fit? (digits : List Char) (exponent : Int) : Option (List Char × Int) := do
  let (digits, exponent) ←
    if maxDigits < digits.length then do
      let kept ← cutZeros? digits maxDigits
      let raised := exponent + (digits.length - maxDigits : Nat)
      if 32767 < raised then none else some (kept, raised)
    else some (digits, exponent)
  let isZero : Bool := digits = ['0']
  if exponent < minExponent then
    if isZero then some (digits, minExponent)
    else
      let excess := (minExponent - exponent).toNat
      if digits.length < excess then none
      else (cutZeros? digits (digits.length - excess)).map (·, minExponent)
  else if maxExponent < exponent then
    if isZero then some (digits, maxExponent)
    else
      let missing := (exponent - maxExponent).toNat
      if maxDigits < digits.length + missing then none
      else some (digits ++ List.replicate missing '0', maxExponent)
  else some (digits, exponent)

/-- Reads digits with an optional point and an optional exponent. -/
def finite? (cs : List Char) : Option (Nat × Int) := do
  let mantissa := cs.takeWhile (· ≠ 'e')
  let tail := cs.dropWhile (· ≠ 'e')
  let exponent ← if tail.isEmpty then some 0 else exponent? (tail.drop 1)
  let whole := mantissa.takeWhile (· ≠ '.')
  let fraction := (mantissa.dropWhile (· ≠ '.')).drop 1
  let exponent := exponent - fraction.length
  if exponent < -32768 then none
  else
    let significant := (whole ++ fraction).dropWhile (· = '0')
    let (digits, exponent) ← fit? (if significant.isEmpty then ['0'] else significant) exponent
    let coefficient ← Integer.unsigned? digits
    some (coefficient, exponent)

/-- The number that a text spells exactly. -/
def parse? (s : String) : Option Decimal128 := do
  let cs := s.toList
  let negative : Bool := cs.head? = some '-'
  let unsigned := if negative ∨ cs.head? = some '+' then cs.drop 1 else cs
  let lower := unsigned.map Char.toLower
  if lower = "nan".toList then some (ofSigned negative (31 <<< 122))
  else if lower = "snan".toList then some (ofSigned negative (31 <<< 122 + 1 <<< 121))
  else if lower = "infinity".toList ∨ lower = "inf".toList then
    some (ofSigned negative (30 <<< 122))
  else
    let (coefficient, exponent) ← finite? lower
    some (ofSigned negative ((exponent - minExponent).toNat <<< 113 + coefficient))

end Decimal128

end DocGateway
