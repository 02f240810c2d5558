import DocGateway.Number.ShortestDecimal
/-!
# Doubles in decimal notation

A finite double is written with the fewest digits that read back as it. Numbers from `0.00001` up to
but not including `10 ^ 16` are written with a decimal point, all others with an exponent that has a
sign.
-/

namespace DocGateway.Binary64

/-- The characters of a number in decimal digits. -/
def digitsOf (n : Nat) : List Char := Nat.toDigits 10 n

/-- A decimal with digits on both sides of the point, `point` being the number of digits before
it. -/
def positional (digits : List Char) (point : Int) : List Char :=
  if point ≤ 0 then '0' :: '.' :: List.replicate (-point).toNat '0' ++ digits
  else if digits.length ≤ point.toNat then
    digits ++ List.replicate (point.toNat - digits.length) '0' ++ ['.', '0']
  else digits.take point.toNat ++ '.' :: digits.drop point.toNat

/-- A decimal with one digit before the point, and with an exponent. -/
def scientific (digits : List Char) (exponent : Int) : List Char :=
  digits.take 1 ++ (if digits.length ≤ 1 then [] else '.' :: digits.drop 1)
    ++ 'e' :: (if exponent < 0 then '-' else '+') :: digitsOf exponent.natAbs

/-- The text of the magnitude of a finite double other than zero. -/
def magnitudeText (x : Binary64) : List Char :=
  let d := x.shortest
  let digits := digitsOf d.digits
  let point := digits.length + d.exponent
  if -5 < point ∧ point ≤ 16 then positional digits point else scientific digits (point - 1)

/-- The text of a finite double. -/
def toText (x : Binary64) : String :=
  String.ofList ((if x.isNegative then ['-'] else [])
    ++ if x.isZero then ['0', '.', '0'] else x.magnitudeText)

/-- The text of a finite double without an exponent, and without a point if it is whole. -/
def plainText (x : Binary64) : String :=
  let d := x.shortest
  let digits := digitsOf d.digits
  let magnitude :=
    if x.isZero then ['0']
    else if 0 ≤ d.exponent then digits ++ List.replicate d.exponent.toNat '0'
    else positional digits (digits.length + d.exponent)
  String.ofList ((if x.isNegative then ['-'] else []) ++ magnitude)

end DocGateway.Binary64
