/-!
# Cutting byte strings

`split? n bs` cuts off exactly `n` bytes, `cstring? bs` the bytes before the first zero byte. Both
fail rather than cut short, and both pieces together are the input:

* `split?_eq_some`     the first piece has the wanted length, and the pieces make up the input
* `cstring?_eq_some`   the first piece holds no zero, and the pieces with a zero between make up
  the input
* `split?_append`, `cstring?_append`   the converses
* `split?_eq_none`     only a lack of bytes is in the way
-/

namespace DocGateway.Slice

/-- The first `n` bytes and the others, if there are as many. -/
def split? (n : Nat) (bs : List UInt8) : Option (List UInt8 × List UInt8) :=
  let head := bs.take n
  if head.length = n then some (head, bs.drop n) else none

/-- The bytes before the first zero byte and those after it. -/
def cstring? (bs : List UInt8) : Option (List UInt8 × List UInt8) :=
  match bs.dropWhile (· ≠ 0) with
  | _ :: rest => some (bs.takeWhile (· ≠ 0), rest)
  | [] => none

/-- `split?` gives the bytes that are asked for, and those behind them. -/
theorem split?_eq_some {n : Nat} {bs head tail : List UInt8} (h : split? n bs = some (head, tail)) :
    head.length = n ∧ bs = head ++ tail := by
  simp only [split?] at h
  split at h
  · rename_i hn
    obtain ⟨rfl, rfl⟩ := Prod.mk.inj (Option.some.inj h)
    exact ⟨hn, (List.take_append_drop n bs).symm⟩
  · simp at h

/-- `split?` fails exactly if there are too few bytes. -/
theorem split?_eq_none {n : Nat} {bs : List UInt8} : split? n bs = none ↔ bs.length < n := by
  simp only [split?, List.length_take, ite_eq_right_iff, reduceCtorEq, imp_false]
  omega

/-- `split?` takes and drops, if there are enough bytes. -/
theorem split?_of_le {n : Nat} {bs : List UInt8} (h : n ≤ bs.length) :
    split? n bs = some (bs.take n, bs.drop n) := by
  simp [split?, h]

/-- `split?` parts what was put together. -/
theorem split?_append (head tail : List UInt8) :
    split? head.length (head ++ tail) = some (head, tail) := by
  simp [split?]

/-- `split?` parts what was put together, with the length given otherwise. -/
theorem split?_append_of_length {n : Nat} {head : List UInt8} (h : head.length = n)
    (tail : List UInt8) : split? n (head ++ tail) = some (head, tail) := by
  rw [← h, split?_append]

/-- There is no zero before the first one. -/
private theorem ne_of_mem_takeWhile {b : UInt8} {bs : List UInt8}
    (h : b ∈ bs.takeWhile (· ≠ 0)) : b ≠ 0 := by
  induction bs with
  | nil => simp at h
  | cons c cs ih =>
    by_cases hc : c = 0
    · simp [hc] at h
    · rw [List.takeWhile_cons_of_pos (by simpa using hc), List.mem_cons] at h
      rcases h with rfl | h
      · exact hc
      · exact ih h

/-- What is left starts with a zero. -/
private theorem dropWhile_eq_cons {z : UInt8} {bs rest : List UInt8}
    (h : bs.dropWhile (· ≠ 0) = z :: rest) : z = 0 := by
  induction bs with
  | nil => simp at h
  | cons c cs ih =>
    by_cases hc : c = 0
    · simp [hc] at h
      exact h.1.symm
    · rw [List.dropWhile_cons_of_pos (by simpa using hc)] at h
      exact ih h

/-- `cstring?` gives bytes without a zero, and those behind the zero after them. -/
theorem cstring?_eq_some {bs head tail : List UInt8} (h : cstring? bs = some (head, tail)) :
    (∀ b ∈ head, b ≠ 0) ∧ bs = head ++ 0 :: tail := by
  simp only [cstring?] at h
  split at h
  · rename_i z rest hd
    obtain ⟨rfl, rfl⟩ := Prod.mk.inj (Option.some.inj h)
    refine ⟨fun b hb => ne_of_mem_takeWhile hb, ?_⟩
    have hz := dropWhile_eq_cons hd
    rw [hz] at hd
    rw [← hd, List.takeWhile_append_dropWhile]
  · simp at h

/-- `cstring?` finds bytes without a zero that a zero ends. -/
theorem cstring?_append {head : List UInt8} (h : ∀ b ∈ head, b ≠ 0) (tail : List UInt8) :
    cstring? (head ++ 0 :: tail) = some (head, tail) := by
  have hp : ∀ b ∈ head, decide (b ≠ 0) = true := fun b hb => by simpa using h b hb
  have hd : (head ++ 0 :: tail).dropWhile (· ≠ 0) = 0 :: tail := by
    rw [List.dropWhile_append_of_pos hp]; rfl
  have ht : (head ++ 0 :: tail).takeWhile (· ≠ 0) = head := by
    rw [List.takeWhile_append_of_pos hp]; simp
  simp only [cstring?, hd, ht]

end DocGateway.Slice
