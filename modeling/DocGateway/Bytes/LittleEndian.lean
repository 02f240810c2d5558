/-!
# Little-endian words

The integers of messages, documents and compressed blocks are written least significant byte
first. `encode w n` is the `w` bytes of `n`, `decode` the number that bytes spell; the two undo
each other:

* `decode_encode`     `decode (encode w n) = n % 1 <<< (8 * w)`
* `encode_decode`     `encode bs.length (decode bs) = bs`
-/

namespace DocGateway.LittleEndian

/-- The `w` little-endian bytes of `n`; what does not fit in them is dropped. -/
def encode : Nat → Nat → List UInt8
  | 0, _ => []
  | w + 1, n => UInt8.ofNat (n % 256) :: encode w (n / 256)

/-- The number that the bytes spell, the first byte being the least significant. -/
def decode (bs : List UInt8) : Nat := bs.foldr (fun b n => b.toNat + 256 * n) 0

/-- `decode` of no bytes. -/
@[simp] theorem decode_nil : decode [] = 0 := rfl

/-- `decode` starts with the lowest byte. -/
@[simp] theorem decode_cons (b : UInt8) (bs : List UInt8) :
    decode (b :: bs) = b.toNat + 256 * decode bs := rfl

/-- `encode` gives the bytes that are asked for. -/
@[simp] theorem length_encode (w n : Nat) : (encode w n).length = w := by
  induction w generalizing n with
  | zero => rfl
  | succ w ih => simp [encode, ih]

/-- `decode` finds what `encode` has written of a number. -/
theorem decode_encode (w n : Nat) : decode (encode w n) = n % 1 <<< (8 * w) := by
  induction w generalizing n with
  | zero => simp [encode, Nat.mod_one]
  | succ w ih =>
    have h : (UInt8.ofNat (n % 256)).toNat = n % 256 := by simp
    rw [encode, decode_cons, ih, h, Nat.one_shiftLeft, Nat.one_shiftLeft, Nat.mul_succ,
      Nat.pow_add', Nat.mod_mul]

/-- `decode` finds a number that fits. -/
theorem decode_encode_of_lt {w n : Nat} (h : n < 1 <<< (8 * w)) : decode (encode w n) = n := by
  rw [decode_encode, Nat.mod_eq_of_lt h]

/-- `decode` gives a number that fits into the bytes. -/
theorem decode_lt (bs : List UInt8) : decode bs < 1 <<< (8 * bs.length) := by
  induction bs with
  | nil => simp
  | cons b bs ih =>
    have hb : b.toNat < 256 := b.toNat_lt
    rw [Nat.one_shiftLeft] at ih
    rw [decode_cons, List.length_cons, Nat.one_shiftLeft, Nat.mul_succ, Nat.pow_add]
    omega

/-- `encode` writes the bytes that `decode` has read. -/
theorem encode_decode (bs : List UInt8) : encode bs.length (decode bs) = bs := by
  induction bs with
  | nil => rfl
  | cons b bs ih =>
    have hb : b.toNat < 256 := b.toNat_lt
    have h₁ : (b.toNat + 256 * decode bs) % 256 = b.toNat := by omega
    have h₂ : (b.toNat + 256 * decode bs) / 256 = decode bs := by omega
    rw [decode_cons, List.length_cons, encode, h₁, h₂, ih]
    simp

/-! ### Words of four and eight bytes -/

/-- The four bytes of an unsigned word. -/
def uint32 (n : UInt32) : List UInt8 := encode 4 n.toNat

/-- The four bytes of a signed word, in two's complement. -/
def int32 (n : Int32) : List UInt8 := uint32 n.toUInt32

/-- The eight bytes of an unsigned word. -/
def uint64 (n : UInt64) : List UInt8 := encode 8 n.toNat

/-- The eight bytes of a signed word, in two's complement. -/
def int64 (n : Int64) : List UInt8 := uint64 n.toUInt64

/-- The unsigned word that four bytes spell. -/
def toUInt32 (bs : List UInt8) : UInt32 := UInt32.ofNat (decode bs)

/-- The signed word that four bytes spell. -/
def toInt32 (bs : List UInt8) : Int32 := (toUInt32 bs).toInt32

/-- The unsigned word that eight bytes spell. -/
def toUInt64 (bs : List UInt8) : UInt64 := UInt64.ofNat (decode bs)

/-- The signed word that eight bytes spell. -/
def toInt64 (bs : List UInt8) : Int64 := (toUInt64 bs).toInt64

/-- `uint32` gives four bytes. -/
@[simp] theorem length_uint32 (n : UInt32) : (uint32 n).length = 4 := length_encode 4 _

/-- `int32` gives four bytes. -/
@[simp] theorem length_int32 (n : Int32) : (int32 n).length = 4 := length_encode 4 _

/-- `uint64` gives eight bytes. -/
@[simp] theorem length_uint64 (n : UInt64) : (uint64 n).length = 8 := length_encode 8 _

/-- `int64` gives eight bytes. -/
@[simp] theorem length_int64 (n : Int64) : (int64 n).length = 8 := length_encode 8 _

/-- `toUInt32` reads what `uint32` has written. -/
@[simp] theorem toUInt32_uint32 (n : UInt32) : toUInt32 (uint32 n) = n := by
  have h : n.toNat < 1 <<< (8 * 4) := n.toNat_lt
  rw [toUInt32, uint32, decode_encode, Nat.mod_eq_of_lt h]
  simp

/-- `toInt32` reads what `int32` has written. -/
@[simp] theorem toInt32_int32 (n : Int32) : toInt32 (int32 n) = n := by
  simp [toInt32, int32]

/-- `toUInt64` reads what `uint64` has written. -/
@[simp] theorem toUInt64_uint64 (n : UInt64) : toUInt64 (uint64 n) = n := by
  have h : n.toNat < 1 <<< (8 * 8) := n.toNat_lt
  rw [toUInt64, uint64, decode_encode, Nat.mod_eq_of_lt h]
  simp

/-- `toInt64` reads what `int64` has written. -/
@[simp] theorem toInt64_int64 (n : Int64) : toInt64 (int64 n) = n := by
  simp [toInt64, int64]

/-- `uint32` writes the four bytes that `toUInt32` has read. -/
theorem uint32_toUInt32 {bs : List UInt8} (h : bs.length = 4) : uint32 (toUInt32 bs) = bs := by
  have hlt := decode_lt bs
  rw [h] at hlt
  have hn : (UInt32.ofNat (decode bs)).toNat = decode bs := UInt32.toNat_ofNat_of_lt hlt
  rw [toUInt32, uint32, hn, ← h, encode_decode]

/-- `int32` writes the four bytes that `toInt32` has read. -/
theorem int32_toInt32 {bs : List UInt8} (h : bs.length = 4) : int32 (toInt32 bs) = bs := by
  rw [int32, toInt32, UInt32.toUInt32_toInt32, uint32_toUInt32 h]

/-- `uint64` writes the eight bytes that `toUInt64` has read. -/
theorem uint64_toUInt64 {bs : List UInt8} (h : bs.length = 8) : uint64 (toUInt64 bs) = bs := by
  have hlt := decode_lt bs
  rw [h] at hlt
  have hn : (UInt64.ofNat (decode bs)).toNat = decode bs := UInt64.toNat_ofNat_of_lt hlt
  rw [toUInt64, uint64, hn, ← h, encode_decode]

/-- `int64` writes the eight bytes that `toInt64` has read. -/
theorem int64_toInt64 {bs : List UInt8} (h : bs.length = 8) : int64 (toInt64 bs) = bs := by
  rw [int64, toInt64, UInt64.toUInt64_toInt64, uint64_toUInt64 h]

/-- `int32` of a number below the sign bit is written by `encode`. -/
theorem int32_ofNat {n : Nat} (h : n < 1 <<< 31) : int32 (Int32.ofNat n) = encode 4 n := by
  have hn : (UInt32.ofNat n).toNat = n :=
    UInt32.toNat_ofNat_of_lt (by simp only [UInt32.size]; omega)
  have hofNat : (Int32.ofNat n).toUInt32 = UInt32.ofNat n := rfl
  rw [int32, uint32, hofNat, hn]

/-- `toInt32` reads a number below the sign bit as it is. -/
theorem toInt_toInt32_encode {n : Nat} (h : n < 1 <<< 31) : (toInt32 (encode 4 n)).toInt = n := by
  have hn : decode (encode 4 n) = n := decode_encode_of_lt (by omega)
  rw [toInt32, toUInt32, hn]
  exact Int32.toInt_ofNat_of_lt h

end DocGateway.LittleEndian
