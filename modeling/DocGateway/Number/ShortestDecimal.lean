import DocGateway.Number.Binary64
/-!
# The shortest decimal of a double

The reals that round to a double form an interval around it, which holds its ends exactly if the
significand is even. The shortest decimal that reads back as the double is the point nearest to it
on the coarsest grid `10 ^ k` that has a point in the interval; a tie goes to the even digit.
-/

namespace DocGateway

/-- The number `digits * 10 ^ exponent`. -/
structure Decimal where
  digits : Nat
  exponent : Int
deriving DecidableEq, Repr

namespace Binary64

/-- Twice the distance to the double below, in quarters of the distance to the one above: the
lower gap is half as wide where the scale changes. -/
def lowerGap (x : Binary64) : Nat :=
  if x.fractionField = 0 ∧ 1 < x.exponentField then 1 else 2

/-- The point of the grid `10 ^ k` nearest to a finite double, if one reads back as the double.
All is compared in quarters of `2 ^ scale`, over a common denominator. -/
def nearestOnGrid? (x : Binary64) (k : Int) : Option Nat :=
  let unit := Nat.pow 10 (-k).toNat <<< x.scale.toNat
  let grid := Nat.pow 10 k.toNat <<< (-x.scale).toNat
  let value := 4 * x.significand * unit
  let low := (4 * x.significand - x.lowerGap) * unit
  let high := (4 * x.significand + 2) * unit
  let below := x.significand * unit / grid
  let inside (c : Nat) : Bool :=
    let point := 4 * c * grid
    if x.significand % 2 = 0 then low ≤ point ∧ point ≤ high else low < point ∧ point < high
  let fromBelow := value - 4 * below * grid
  let fromAbove := 4 * (below + 1) * grid - value
  match decide (0 < below) && inside below, inside (below + 1) with
  | true, true =>
    if fromBelow < fromAbove then some below
    else if fromAbove < fromBelow then some (below + 1)
    else if below % 2 = 0 then some below else some (below + 1)
  | true, false => some below
  | false, true => some (below + 1)
  | false, false => none

/-- The shortest decimal that reads back as the magnitude of a finite double other than zero. -/
def shortest (x : Binary64) : Decimal :=
  let found := (List.range 660).findSome? fun (i : Nat) =>
    let k : Int := 310 - i
    (x.nearestOnGrid? k).map (Decimal.mk · k)
  found.getD ⟨0, 0⟩

end Binary64

end DocGateway
