import DocGateway.Number.Binary64
/-!
# Histograms of durations

A histogram counts observations in seconds: all of them, those at or below each bound, and their
sum.
-/

namespace DocGateway

/-- The upper bounds of the buckets, in seconds, as digits and negated powers of ten. -/
def durationBounds : List Binary64 :=
  [(5, 4), (1, 3), (5, 3), (1, 2), (25, 3), (5, 2), (1, 1), (25, 2), (5, 1), (1, 0), (5, 0)].map
    fun (digits, places) => Binary64.ofDecimal false digits (-(places : Int))

structure Histogram where
  /-- For each bound, the number of observations at or below it. -/
  buckets : List Nat
  count : Nat
  sum : Binary64
deriving DecidableEq, Repr, Inhabited

namespace Histogram

/-- A histogram without observations. -/
def empty : Histogram := ⟨durationBounds.map fun _ => 0, 0, .zero false⟩

/-- Counts one observation. -/
def observe (h : Histogram) (seconds : Binary64) : Histogram where
  buckets :=
    (h.buckets.zip durationBounds).map fun (n, bound) => if seconds.le bound then n + 1 else n
  count := h.count + 1
  sum := h.sum.add seconds

end Histogram

end DocGateway
