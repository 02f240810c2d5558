import DocGateway.Bytes.LittleEndian
import DocGateway.Bytes.Slice
import DocGateway.Wire.Error
import DocGateway.Wire.Opcode
/-!
# Message headers

A message starts with four little-endian words: its length, the number of the request, the number of
the request that it answers, and the opcode. The length is the only sign of where a message ends.

* `ofBytes_bytes`   reading back what was written
* `bytes_ofBytes`   writing back what was read
* `peek_eq_some_iff`   what is found at the start of some bytes
-/

namespace DocGateway.Wire

/-- The header as it lies in the bytes. -/
structure Header where
  messageLength : Int32
  requestId : Int32
  responseTo : Int32
  opcode : Int32
deriving DecidableEq, Repr, Inhabited

namespace Header

/-- Whether a length can frame a message. -/
def validLength (length : Int32) : Bool :=
  headerSize ≤ length.toInt ∧ length.toInt ≤ maxMessageSize

/-- The sixteen bytes of a header. -/
def bytes (h : Header) : List UInt8 :=
  LittleEndian.int32 h.messageLength ++ LittleEndian.int32 h.requestId
    ++ LittleEndian.int32 h.responseTo ++ LittleEndian.int32 h.opcode

/-- The header that sixteen bytes spell. -/
def ofBytes (bs : List UInt8) : Header where
  messageLength := LittleEndian.toInt32 (bs.take 4)
  requestId := LittleEndian.toInt32 ((bs.drop 4).take 4)
  responseTo := LittleEndian.toInt32 ((bs.drop 8).take 4)
  opcode := LittleEndian.toInt32 ((bs.drop 12).take 4)

/-- The header at the start of some bytes, if there are enough of them for one. A length that cannot
frame a message is an error. -/
def peek (bs : List UInt8) : Except WireError (Option Header) :=
  match Slice.split? headerSize bs with
  | none => .ok none
  | some (head, _) =>
    let h := ofBytes head
    if validLength h.messageLength then .ok (some h)
    else .error (.invalidMessageLength h.messageLength)

/-- The length of the message as a count of bytes. -/
def size (h : Header) : Nat := h.messageLength.toInt.toNat

/-- The length of what follows the header. -/
def bodySize (h : Header) : Nat := h.size - headerSize

/-- `bytes` of a header are sixteen. -/
@[simp] theorem length_bytes (h : Header) : h.bytes.length = 16 := by simp [bytes]

/-- `ofBytes` reads the header that `bytes` has written. -/
theorem ofBytes_bytes (h : Header) : ofBytes h.bytes = h := by
  obtain ⟨length, request, response, opcode⟩ := h
  -- each field takes four bytes, so those before it are dropped as a whole
  have hdrop (n : Int32) (k : Nat) (hk : 4 ≤ k) : (LittleEndian.int32 n).drop k = [] :=
    List.drop_of_length_le (Nat.le_trans (Nat.le_of_eq (LittleEndian.length_int32 n)) hk)
  have htake (n : Int32) : (LittleEndian.int32 n).take 4 = LittleEndian.int32 n :=
    List.take_of_length_le (Nat.le_of_eq (LittleEndian.length_int32 n))
  simp [ofBytes, bytes, List.drop_append, hdrop, htake]

/-- `bytes` writes the header that `ofBytes` has read. -/
theorem bytes_ofBytes {bs : List UInt8} (h : bs.length = headerSize) : (ofBytes bs).bytes = bs := by
  simp only [headerSize] at h
  simp only [ofBytes, bytes,
    LittleEndian.int32_toInt32 (show (bs.take 4).length = 4 by simp; omega),
    LittleEndian.int32_toInt32 (show ((bs.drop 4).take 4).length = 4 by simp; omega),
    LittleEndian.int32_toInt32 (show ((bs.drop 8).take 4).length = 4 by simp; omega),
    LittleEndian.int32_toInt32 (show ((bs.drop 12).take 4).length = 4 by simp; omega)]
  rw [← List.take_add, ← List.take_add, ← List.take_add, List.take_of_length_le (by omega)]

/-- `validLength` holds from the size of a header up to the largest message. -/
theorem validLength_iff {length : Int32} :
    validLength length = true ↔ (headerSize : Int) ≤ length.toInt ∧
      length.toInt ≤ maxMessageSize := by
  simp [validLength]

/-- `peek` gives the header that the first sixteen bytes make, if its length can frame a message. -/
theorem peek_eq_some_iff {bs : List UInt8} {h : Header} :
    peek bs = .ok (some h) ↔
      headerSize ≤ bs.length ∧ h = ofBytes (bs.take headerSize) ∧
      validLength h.messageLength = true := by
  -- without sixteen bytes there is no header yet
  by_cases hlen : bs.length < headerSize
  · simp only [peek, Slice.split?_eq_none.mpr hlen]
    simp; omega
  · simp only [peek, Slice.split?_of_le (Nat.le_of_not_lt hlen)]
    split
    · rename_i hv
      simp only [Except.ok.injEq, Option.some.injEq]
      constructor
      · rintro rfl
        exact ⟨by omega, rfl, hv⟩
      · rintro ⟨-, rfl, -⟩
        rfl
    · rename_i hv
      simp only [reduceCtorEq, false_iff]
      rintro ⟨-, rfl, hv'⟩
      exact hv hv'

end Header

end DocGateway.Wire
