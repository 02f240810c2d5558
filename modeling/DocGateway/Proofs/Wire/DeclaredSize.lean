import DocGateway.Proofs.Compression.Agreement
import DocGateway.Proofs.Wire.RoundTrip
/-!
# Payloads expand to the declared size or not at all

Each format bounds its output in a way of its own: by the payload itself, by a number in front of
it, by one byte more than is declared, by the room there is. Yet with each of them what was
compressed is taken with its own length only, and whatever is taken has the length that was
declared.

## Key results

- `Compressor.length_of_decompress?_compress`: no other number of bytes comes of what was compressed
- `expand_declared`: payloads with a declared size
-/

namespace DocGateway

/-- If `decompress?` gives as many bytes of a compressed input as were expected, they are as many as
the input has. -/
theorem Compressor.length_of_decompress?_compress (c : Compressor) {plain out : List UInt8}
    (h : plain.length < 1 <<< 32)
    (hout : c.decompress? out.length (c.compress plain) = some out) :
    out.length = plain.length := by
  cases c with
  | noop =>
    cases hout
    rfl
  | snappy =>
    -- how many bytes are expected makes no difference to this format
    have hself := Snappy.decode?_encode h
    rw [compress, decompress?, hself] at hout
    cases hout
    rfl
  | zlib =>
    rw [Zlib.decode?_unique (Zlib.decode?_encode plain) hout (Nat.lt_succ_self _)
      (Nat.lt_succ_self _)]
  | zstd => exact Zstd.length_of_decode?_encode h hout

namespace Wire

/-- `expand` of what was compressed gives it back under its own length, and fails under any other
number. Whatever `expand` gives has the declared length, which is at most `maxMessageSize`. -/
theorem expand_declared (c : Compressor) :
    (∀ plain : List UInt8, plain.length ≤ maxMessageSize → ∀ declared : Int32,
      (declared.toInt = plain.length → expand c (c.compress plain) declared = .ok plain) ∧
      (declared.toInt ≠ plain.length → ∃ e, expand c (c.compress plain) declared = .error e)) ∧
    ∀ payload declared plain, expand c payload declared = .ok plain →
      (plain.length : Int) = declared.toInt ∧ 0 ≤ declared.toInt ∧
      declared.toInt ≤ maxMessageSize := by
  constructor
  -- what was compressed: its own length, and any other number
  · intro plain hle declared
    have hlt : plain.length < 1 <<< 32 := by
      simp only [maxMessageSize] at hle
      omega
    constructor
    · intro hdeclared
      exact expand_eq_ok_iff.mpr ⟨hdeclared, hle, c.decompress?_compress hlt⟩
    · intro hother
      cases hexpand : expand c (c.compress plain) declared with
      | error e => exact ⟨e, rfl⟩
      | ok out =>
        obtain ⟨hdeclared, -, hout⟩ := expand_eq_ok_iff.mp hexpand
        rw [c.length_of_decompress?_compress hlt hout] at hdeclared
        exact absurd hdeclared hother
  · intro payload declared plain hexpand
    obtain ⟨hdeclared, hle, -⟩ := expand_eq_ok_iff.mp hexpand
    rw [hdeclared]
    exact ⟨rfl, Int.natCast_nonneg _, Int.ofNat_le.mpr hle⟩

end Wire

end DocGateway
