/-!
# Copies from the output

Three of the compressed formats refer back to what they have already put out. A copy may reach into
the bytes that it writes itself: then they repeat.
-/

namespace DocGateway.History

/-- Appends `length` bytes that repeat those `distance` bytes back, one at a time. -/
def repeatFrom (out : Array UInt8) (distance : Nat) : Nat → Array UInt8
  | 0 => out
  | n + 1 => repeatFrom (out.push (out[out.size - distance]?.getD 0)) distance n

/-- Appends a copy, if the distance is not zero and does not reach behind the start. -/
def copy? (out : Array UInt8) (distance length : Nat) : Option (Array UInt8) :=
  if distance = 0 ∨ out.size < distance then none else some (repeatFrom out distance length)

/-- `repeatFrom` adds as many bytes as it is told. -/
theorem size_repeatFrom (out : Array UInt8) (distance n : Nat) :
    (repeatFrom out distance n).size = out.size + n := by
  induction n generalizing out with
  | zero => rfl
  | succ n ih => rw [repeatFrom, ih, Array.size_push]; omega

/-- Bytes of a list that are added to an array are counted. -/
theorem size_append (out : Array UInt8) (bytes : List UInt8) :
    (out ++ bytes).size = out.size + bytes.length := by
  rw [← Array.length_toList, Array.toList_appendList, List.length_append, Array.length_toList]

end DocGateway.History
