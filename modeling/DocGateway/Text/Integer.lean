/-!
# Integers in decimal text

A number is one or more digits, with at most one sign in front. Blanks are not skipped.
-/

namespace DocGateway.Integer

/-- The number that one or more digits spell. -/
def digits? (cs : List Char) : Option Nat :=
  if cs.isEmpty ∨ ¬ cs.all Char.isDigit then none
  else some (cs.foldl (fun n c => 10 * n + (c.toNat - 48)) 0)

/-- Digits, with at most a plus sign in front. -/
def unsigned? : List Char → Option Nat
  | '+' :: cs => digits? cs
  | cs => digits? cs

/-- Digits, with at most one sign in front. -/
def signed? : List Char → Option Int
  | '-' :: cs => (digits? cs).map fun n => -(n : Int)
  | cs => (unsigned? cs).map Int.ofNat

/-- A number that a word of `bits` bits without sign can hold. -/
def word? (bits : Nat) (s : String) : Option Nat :=
  (unsigned? s.toList).filter (· < 1 <<< bits)

/-- A number that a word of `bits` bits with a sign can hold. -/
def signedWord? (bits : Nat) (s : String) : Option Int :=
  (signed? s.toList).filter fun n => -(1 <<< (bits - 1) : Nat) ≤ n ∧ n < (1 <<< (bits - 1) : Nat)

end DocGateway.Integer
