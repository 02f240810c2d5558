/-!
# Sums

The sum of a list of natural numbers: of the sizes of parts, of how often symbols occur, of shares.

* `sum_append`      `sum (ms ++ ns) = sum ms + sum ns`
* `le_sum_of_mem`   a part is no more than the whole
-/

namespace DocGateway

/-- The sum of numbers, zero for none. -/
def sum (ns : List Nat) : Nat := ns.foldr (· + ·) 0

/-- `sum` of no numbers. -/
@[simp] theorem sum_nil : sum [] = 0 := rfl

/-- `sum` starts with the first number. -/
@[simp] theorem sum_cons (n : Nat) (ns : List Nat) : sum (n :: ns) = n + sum ns := rfl

/-- `sum` of two lists is added up. -/
@[simp] theorem sum_append (ms ns : List Nat) : sum (ms ++ ns) = sum ms + sum ns := by
  induction ms with
  | nil => simp
  | cons m ms ih => simp [ih, Nat.add_assoc]

/-- `sum` is no less than any of the numbers. -/
theorem le_sum_of_mem {n : Nat} {ns : List Nat} (h : n ∈ ns) : n ≤ sum ns := by
  induction h with
  | head ns => exact Nat.le_add_right n (sum ns)
  | tail m _ ih => exact Nat.le_trans ih (Nat.le_add_left _ m)

end DocGateway
