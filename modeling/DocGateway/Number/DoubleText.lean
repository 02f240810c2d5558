import DocGateway.Number.Binary64
import DocGateway.Text.Integer
/-!
# Doubles in decimal text

A double is read from a sign, digits with an optional point and an optional exponent, or one of the
names `inf`, `infinity` and `nan` in any case. At least one digit must stand beside the point.
-/

namespace DocGateway.Binary64

/-- The exponent after an `e`, or zero where the text ends. -/
def exponentText? : List Char → Option Int
  | [] => some 0
  | _ :: '+' :: '-' :: _ => none
  | _ :: cs => Integer.signed? cs

/-- A decimal without sign. -/
def unsignedText? (negative : Bool) (cs : List Char) : Option Binary64 := do
  let isMark (c : Char) : Bool := c = 'e' ∨ c = 'E'
  let mantissa := cs.takeWhile (!isMark ·)
  let exponent ← exponentText? (cs.dropWhile (!isMark ·))
  let whole := mantissa.takeWhile (· ≠ '.')
  let fraction := (mantissa.dropWhile (· ≠ '.')).drop 1
  let digits ← Integer.digits? (whole ++ fraction)
  some (ofDecimal negative digits (exponent - fraction.length))

/-- The double that a text spells. -/
def parse? (s : String) : Option Binary64 :=
  let cs := s.toList
  let negative : Bool := cs.head? = some '-'
  let rest := if negative ∨ cs.head? = some '+' then cs.drop 1 else cs
  let name := String.ofList (rest.map Char.toLower)
  if name = "inf" ∨ name = "infinity" then some (infinity negative)
  else if name = "nan" then some (ofFields negative 2047 (1 <<< 51))
  else unsignedText? negative rest

end DocGateway.Binary64
