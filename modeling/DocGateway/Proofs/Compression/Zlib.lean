import DocGateway.Compression.Zlib
import DocGateway.Proofs.Compression.Inflate
/-!
# Payloads of the zlib format are read back

A compressed stream is only written if it is read back; what is left are stored blocks between a
header and a checksum. As long as the payload is cut short nothing comes of it, and one piece of the
input after another is taken until it is whole.

## Key results

- `inflates_whole`: a payload of stored blocks
- `decodeFrom?_eq_some`: pieces of the input are taken until there are enough
- `decode?_encode`: payloads
-/

namespace DocGateway.Zlib

open Inflate

/-- `header` reads the two bytes that `wrap` puts in front. -/
theorem reads_header : Bits.Reads header [0x78, 0x01] () := by
  have hvalid : validHeader (0x78 : UInt8).toNat (0x01 : UInt8).toNat = true := by decide
  refine (Bits.Reads.byte 0x78).bind ?_
  rw [← List.append_nil [0x01]]
  refine (Bits.Reads.byte 0x01).bind ?_
  rw [if_pos hvalid]
  exact .pure ()

/-- `trailer` reads the checksum that `wrap` puts behind. -/
theorem reads_trailer (out : Array UInt8) :
    Bits.Reads (trailer out) (LittleEndian.encode 4 (Adler32.checksum out.toList)).reverse () := by
  have halign : Bits.Reads Bits.align [] () := ⟨fun _ => rfl, fun _ h => absurd h IsCut.not_nil⟩
  have hlen : (LittleEndian.encode 4 (Adler32.checksum out.toList)).reverse.length = 4 := by
    rw [List.length_reverse, LittleEndian.length_encode]
  rw [trailer]
  -- that the four bytes are this checksum does not matter to reading them
  generalize (LittleEndian.encode 4 (Adler32.checksum out.toList)).reverse = checksum at hlen ⊢
  have hword : Bits.Reads (Bits.word 4) checksum (LittleEndian.decode checksum) := by
    rw [← hlen]
    exact .word checksum
  have hsame : LittleEndian.encode 4 (LittleEndian.decode checksum) = checksum := by
    rw [← hlen, LittleEndian.encode_decode]
  show Bits.Reads _ ([] ++ checksum) ()
  refine halign.bind ?_
  rw [← List.append_nil checksum]
  refine hword.bind ?_
  rw [List.append_nil, if_pos hsame]
  exact .pure ()

/-- `whole` reads what `wrap` puts around a stream of `Inflate.encode`. -/
theorem inflates_whole {limit : Nat} {plain : List UInt8} (room : Nat)
    (hfits : plain.length ≤ limit) :
    Inflates (whole limit) #[] room (wrap 0x01 (Inflate.encode plain) plain) () plain := by
  have hheader : Inflates (Inflate.read header) #[] room [0x78, 0x01] () [] := .read reads_header
  have hstream : Inflates (stream limit) #[] room (Inflate.encode plain) () plain :=
    inflates_stream (by rw [Array.size_empty]; omega)
  -- the trailer is read with the output at hand, so it is stated for any that holds the input
  have htrailer (out : Array UInt8) (hout : out.toList = plain) :
      Inflates (do Inflate.read (trailer (← get).out)) out room
        (LittleEndian.encode 4 (Adler32.checksum plain)).reverse () [] := by
    have h : Inflates (Inflate.read (trailer out)) out room _ () [] := .read (reads_trailer out)
    rw [hout] at h
    exact h.withOutput (g := fun out => Inflate.read (trailer out))
  have hbody := hstream.bind (f := fun _ => do Inflate.read (trailer (← get).out))
    (htrailer _ (Array.toList_appendList ..)) (Nat.le_add_right _ _)
  have hempty : (#[] : Array UInt8) ++ ([] : List UInt8) = #[] := Array.appendList_nil
  rw [← hempty] at hbody
  have h := hheader.bind (f := fun _ => do stream limit; Inflate.read (trailer (← get).out)) hbody
    (Nat.le_add_right _ _)
  rw [List.nil_append, List.append_nil, ← List.append_assoc] at h
  exact h

/-- The output windows of `decodeFrom?` hold as many bytes as are wanted. -/
theorem le_windows (limit : Nat) : limit ≤ (limit + strideSize - 1) / strideSize * strideSize := by
  have := Nat.div_add_mod (limit + strideSize - 1) strideSize
  have := Nat.mod_lt (limit + strideSize - 1) (show 0 < strideSize by decide)
  rw [Nat.mul_comm]
  omega

/-- `attempt?` succeeds on a whole payload. -/
theorem attempt?_whole (plain : List UInt8) :
    attempt? (plain.length + 1) (wrap 0x01 (Inflate.encode plain) plain) = some (some plain) := by
  have h := (inflates_whole ((wrap 0x01 (Inflate.encode plain) plain).length + 1)
    (Nat.le_of_succ_le (le_windows (plain.length + 1)))).ok [] (by simp)
  rw [List.append_nil] at h
  simp only [attempt?, EStateM.run, h, Array.toList_appendList, List.nil_append]
  rw [List.take_of_length_le (Nat.le_succ _)]

/-- `attempt?` asks for more if a payload is cut short, as fewer bytes are out than are asked
for. -/
theorem attempt?_cut {plain short : List UInt8}
    (hcut : IsCut short (wrap 0x01 (Inflate.encode plain) plain)) :
    attempt? (plain.length + 1) short = none := by
  obtain ⟨p, hp, hsize⟩ := (inflates_whole (short.length + 1)
    (Nat.le_of_succ_le (le_windows (plain.length + 1)))).starved short (Nat.lt_succ_self _) hcut
  rw [Array.size_empty, Nat.zero_add] at hsize
  simp only [attempt?, EStateM.run, hp]
  rw [if_neg (by omega)]

/-- `decodeFrom?` takes more and more of the payload until `attempt?` succeeds, and that is on all
of it. -/
theorem decodeFrom?_eq_some {limit taken more : Nat} {payload plain : List UInt8}
    (hwhole : attempt? limit payload = some (some plain))
    (hcut : ∀ short, IsCut short payload → attempt? limit short = none)
    (hlen : payload.length ≤ (taken + more) * strideSize) :
    decodeFrom? limit payload taken more = some plain := by
  -- by induction on the pieces that are left: the last one is the whole payload
  induction more generalizing taken with
  | zero =>
    rw [Nat.add_zero] at hlen
    rw [decodeFrom?, List.take_of_length_le hlen, hwhole]
    rfl
  | succ more ih =>
    rw [decodeFrom?]
    obtain heq | h := IsCut.take (taken * strideSize) payload
    · rw [heq, hwhole]
    · rw [hcut _ h]
      exact ih (by rw [Nat.add_assoc, Nat.add_comm 1]; exact hlen)

/-- `decode?` reads what `encode` writes, whether its stream is compressed or not. -/
theorem decode?_encode (plain : List UInt8) :
    decode? (plain.length + 1) (encode plain) = some plain := by
  simp only [encode]
  split
  · rename_i h
    exact h
  · refine decodeFrom?_eq_some (attempt?_whole plain) (fun short => attempt?_cut) ?_
    -- one piece more than the quotient holds the rest of the division too
    have := Nat.div_add_mod (wrap 0x01 (Inflate.encode plain) plain).length strideSize
    have :=
      Nat.mod_lt (wrap 0x01 (Inflate.encode plain) plain).length (show 0 < strideSize by decide)
    rw [Nat.add_mul, Nat.mul_comm (_ / _)]
    omega

end DocGateway.Zlib
