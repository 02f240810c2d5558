/-!
# Strings as UTF-8 bytes

`encode` lists the bytes of a string; `decode?` reads a string back and refuses bytes that are
not UTF-8.

* `decode?_encode`        `decode? (encode s) = some s`
* `decode?_eq_some_iff`   a string is read from its own bytes only
* `zero_mem_encode_iff`   a zero byte stands for a NUL character
-/

namespace DocGateway.Utf8

/-- The UTF-8 bytes of a string. -/
def encode (s : String) : List UInt8 := s.toByteArray.data.toList

/-- The string whose UTF-8 bytes these are, if they are UTF-8. -/
def decode? (bs : List UInt8) : Option String := String.fromUTF8? ⟨bs.toArray⟩

/-- `encode` gives as many bytes as the text is said to have. -/
theorem length_encode (s : String) : (encode s).length = s.utf8ByteSize := by
  rw [encode, Array.length_toList]
  exact String.size_toByteArray

/-- `decode?` reads what `encode` has written. -/
theorem decode?_encode (s : String) : decode? (encode s) = some s := by
  have h : (⟨(encode s).toArray⟩ : ByteArray) = s.toByteArray := by simp [encode]
  rw [decode?, h, String.fromUTF8?, dif_pos s.isValidUTF8]
  rfl

/-- `encode` tells texts apart. -/
theorem encode_injective {s t : String} (h : encode s = encode t) : s = t := by
  have := congrArg decode? h
  simpa [decode?_encode] using this

/-- `decode?` reads nothing but what `encode` writes. -/
theorem decode?_eq_some_iff {bs : List UInt8} {s : String} :
    decode? bs = some s ↔ bs = encode s := by
  constructor
  · intro h
    rw [decode?, String.fromUTF8?] at h
    split at h
    · obtain rfl := Option.some.inj h
      simp [encode, String.fromUTF8]
    · simp at h
  · rintro rfl
    exact decode?_encode s

/-! ### Characters -/

/-- `encode` writes one character after another. -/
theorem encode_eq_flatMap (s : String) : encode s = s.toList.flatMap String.utf8EncodeChar := by
  have h : s.toByteArray = s.toList.utf8Encode := by
    rw [← String.toByteArray_ofList, String.ofList_toList]
  simp [encode, h, List.utf8Encode]

/-- `encode` of two texts is that of each. -/
theorem encode_append (s t : String) : encode (s ++ t) = encode s ++ encode t := by
  simp [encode_eq_flatMap]

/-! ### Zero bytes -/

/-- A byte is zero if the number is a multiple of 256. -/
private theorem zero_eq_ofNat_iff {n : Nat} : 0 = UInt8.ofNat n ↔ n % 256 = 0 := by
  rw [← UInt8.toNat_inj, eq_comm]
  simp

/-- Only the null character is written with a zero byte. -/
theorem zero_mem_utf8EncodeChar_iff (c : Char) : 0 ∈ String.utf8EncodeChar c ↔ c = '\x00' := by
  constructor
  · fun_cases String.utf8EncodeChar c
    · rename_i v hv
      intro h
      have hzero : c.val.toNat = 0 := by
        have := zero_eq_ofNat_iff.mp (List.mem_singleton.mp h)
        omega
      exact Char.ext (UInt32.toNat_inj.mp hzero)
    all_goals
      -- the first byte of several is `192` or more, the others are `128` or more
      simp only [List.mem_cons, List.not_mem_nil, or_false, zero_eq_ofNat_iff]
      omega
  · rintro rfl
    decide

/-- `encode` writes a zero byte exactly if there is a null character. -/
theorem zero_mem_encode_iff (s : String) : 0 ∈ encode s ↔ '\x00' ∈ s.toList := by
  simp [encode_eq_flatMap, List.mem_flatMap, zero_mem_utf8EncodeChar_iff]

end DocGateway.Utf8
