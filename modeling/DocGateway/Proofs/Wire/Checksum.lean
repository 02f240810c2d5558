import DocGateway.Proofs.Wire.RoundTrip
import Mathlib.Data.LawfulXor.Basic
import Mathlib.Data.UInt
import Mathlib.Logic.Function.Iterate
/-!
# Checksums find bursts of errors

A remainder moves on by shifts, and a shift is linear and one to one. So equal bytes keep different
remainders apart, and up to four bytes, which are no more than the remainder itself, make different
remainders of one when they differ. Bytes with their checksum behind them leave one and the same
remainder, the residue. Thus a burst of errors in a message, in its checksum or across both, leaves
another one.

## Key results

- `Crc32c.shift_xor`, `Crc32c.shift_injective`: one bit
- `Crc32c.update_eq_shifts`: up to four bytes are taken in like one word
- `Crc32c.checksum_eq_iff`: when the last four bytes are the checksum of those before
- `IsBurst.statedChecksum_ne`: a right checksum is wrong after a burst
- `decode_of_burst`: so the message is refused
-/

namespace DocGateway.Wire
namespace Crc32c

/-! ### One bit -/

/-- The lowest bit of a word is zero or one. -/
private theorem low_bit_cases (c : UInt32) : c &&& 1 = 0 ∨ c &&& 1 = 1 := by
  rw [← UInt32.toNat_inj, ← UInt32.toNat_inj, UInt32.toNat_and, UInt32.toNat_one, UInt32.toNat_zero,
    Nat.and_one_is_mod]
  omega

/-- The lowest bit of an exclusive or is that of the lowest bits. -/
private theorem low_bit_xor (a b : UInt32) : (a ^^^ b) &&& 1 = (a &&& 1) ^^^ (b &&& 1) := by
  rw [← UInt32.toNat_inj]
  simp only [UInt32.toNat_and, UInt32.toNat_xor, Nat.and_xor_distrib_right]

/-- `shift` is linear. -/
theorem shift_xor (a b : UInt32) : shift (a ^^^ b) = shift a ^^^ shift b := by
  simp only [shift, low_bit_xor, UInt32.shiftRight_xor]
  obtain ha | ha := low_bit_cases a <;> obtain hb | hb := low_bit_cases b
  · simp [ha, hb]
  · simp [ha, hb, UInt32.xor_assoc]
  · simp only [ha, hb, UInt32.xor_zero, ↓reduceIte, UInt32.zero_ne_one]
    ac_rfl
  · -- the polynomial is added twice, and so not at all
    have htwice (x y : UInt32) : x ^^^ polynomial ^^^ (y ^^^ polynomial) = x ^^^ y := by
      rw [UInt32.xor_comm y, UInt32.xor_assoc x, ← UInt32.xor_assoc polynomial, UInt32.xor_self,
        UInt32.zero_xor]
    simp [ha, hb, htwice]

/-- `shift` takes nothing but zero to zero. -/
theorem eq_zero_of_shift {c : UInt32} (h : shift c = 0) : c = 0 := by
  have hhalf : (c >>> 1).toNat = c.toNat / 2 := by
    rw [UInt32.toNat_shiftRight]
    rfl
  simp only [shift] at h
  split at h
  · -- half of a word is less than the polynomial
    have hc : c.toNat / 2 = polynomial.toNat := by
      rw [← hhalf, UInt32.xor_eq_zero_iff.mp h]
    have hlt := c.toNat_lt
    have hpolynomial : polynomial.toNat = 0x82F63B78 := rfl
    omega
  · rename_i hlow
    have hc : c.toNat / 2 = 0 := by rw [← hhalf, h]; rfl
    have heven := congrArg UInt32.toNat ((low_bit_cases c).resolve_right hlow)
    rw [UInt32.toNat_and, UInt32.toNat_one, UInt32.toNat_zero, Nat.and_one_is_mod] at heven
    rw [← UInt32.toNat_inj, UInt32.toNat_zero]
    omega

/-- `shift` is one to one, as it is linear and has no other zero. -/
theorem shift_injective : Function.Injective shift := fun a b h => by
  rw [← UInt32.xor_eq_zero_iff] at h ⊢
  exact eq_zero_of_shift (by rw [shift_xor, h])

/-- `shift` halves an even word. -/
theorem shift_double {n : Nat} (h : 2 * n < UInt32.size) :
    shift (UInt32.ofNat (2 * n)) = UInt32.ofNat n := by
  have hword {k : Nat} (hk : k < UInt32.size) : (UInt32.ofNat k).toNat = k :=
    UInt32.toNat_ofNat_of_lt hk
  have heven : UInt32.ofNat (2 * n) &&& 1 = 0 := by
    rw [← UInt32.toNat_inj, UInt32.toNat_and, hword h, UInt32.toNat_one, Nat.and_one_is_mod]
    exact Nat.mul_mod_right 2 n
  rw [shift, heven, if_neg (by decide), ← UInt32.toNat_inj, UInt32.toNat_shiftRight, hword h,
    hword (by omega)]
  exact Nat.mul_div_right n (by decide)

/-! ### Several bits -/

/-- `shift` is linear, however often it is done. -/
theorem shifts_xor (k : Nat) (a b : UInt32) :
    shift^[k] (a ^^^ b) = shift^[k] a ^^^ shift^[k] b := by
  induction k generalizing a b with
  | zero => rfl
  | succ k ih =>
    rw [Function.iterate_succ_apply, Function.iterate_succ_apply, Function.iterate_succ_apply,
      shift_xor, ih]

/-- What stands above the lowest `k` bits comes down unchanged by `k` shifts if those bits are
zero. -/
theorem shifts_ofNat_mul {k n : Nat} (h : 2 ^ k * n < UInt32.size) :
    shift^[k] (UInt32.ofNat (2 ^ k * n)) = UInt32.ofNat n := by
  induction k with
  | zero => rw [Nat.pow_zero, Nat.one_mul, Function.iterate_zero_apply]
  | succ k ih =>
    rw [Nat.pow_succ', Nat.mul_assoc] at h ⊢
    rw [Function.iterate_succ_apply, shift_double h]
    exact ih (by omega)

/-- `step` adds a byte to the remainder, and shifts it out. -/
theorem step_eq_shifts (c : UInt32) (b : UInt8) : step c b = shift^[8] (c ^^^ b.toUInt32) := rfl

/-! ### Bytes -/

/-- A byte in front of a number is added to it without carry. -/
private theorem ofNat_add_mul (b : UInt8) (n : Nat) :
    UInt32.ofNat (b.toNat + 256 * n) = b.toUInt32 ^^^ UInt32.ofNat (256 * n) := by
  have hb : b.toNat < 256 := b.toNat_lt
  have hmod : (b.toNat ^^^ 256 * n) % 256 = b.toNat := by
    rw [Nat.xor_mod_two_pow (n := 8), Nat.mul_mod_right, Nat.xor_zero, Nat.mod_eq_of_lt hb]
  have hdiv : (b.toNat ^^^ 256 * n) / 256 = n := by
    rw [Nat.xor_div_two_pow (n := 8), Nat.mul_div_right n (by decide), Nat.div_eq_of_lt hb,
      Nat.zero_xor]
  have hsum : b.toNat + 256 * n = b.toNat ^^^ 256 * n := by omega
  rw [hsum, UInt32.ofNat_xor, ← UInt8.toNat_toUInt32, UInt32.ofNat_toNat]

/-- `update` by at most four bytes adds the word that they spell, and shifts it out. -/
theorem update_eq_shifts (c : UInt32) {bs : List UInt8} (h : bs.length ≤ 4) :
    update c bs = shift^[8 * bs.length] (c ^^^ LittleEndian.toUInt32 bs) := by
  -- by induction on the bytes: the first one is shifted out, and the rest then stands at the low
  -- end
  induction bs generalizing c with
  | nil => simp [update, LittleEndian.toUInt32]
  | cons b bs ih =>
    rw [List.length_cons] at h
    -- the other bytes come down as the first is shifted out
    have hrest : LittleEndian.toUInt32 bs =
        shift^[8] (UInt32.ofNat (256 * LittleEndian.decode bs)) := by
      refine (shifts_ofNat_mul (k := 8) ?_).symm
      have hlt := LittleEndian.decode_lt bs
      have hle : 1 <<< (8 * bs.length) ≤ 1 <<< 24 := by
        rw [Nat.one_shiftLeft, Nat.one_shiftLeft]
        exact Nat.pow_le_pow_right (by decide) (by omega)
      simp only [UInt32.size]
      omega
    have hword : LittleEndian.toUInt32 (b :: bs) = b.toUInt32 ^^^ UInt32.ofNat
        (256 * LittleEndian.decode bs) := by
      rw [LittleEndian.toUInt32, LittleEndian.decode_cons, ofNat_add_mul]
    calc update c (b :: bs) = update (shift^[8] (c ^^^ b.toUInt32)) bs := rfl
      _ = shift^[8 * bs.length] (shift^[8] (c ^^^ b.toUInt32) ^^^ LittleEndian.toUInt32 bs) :=
        ih _ (by omega)
      _ = shift^[8 * bs.length] (shift^[8] (c ^^^ LittleEndian.toUInt32 (b :: bs))) := by
        rw [hrest, ← shifts_xor, UInt32.xor_assoc, ← hword]
      _ = shift^[8 * (b :: bs).length] (c ^^^ LittleEndian.toUInt32 (b :: bs)) := by
        rw [← Function.iterate_add_apply, List.length_cons, Nat.mul_succ]

/-- `update` by the same bytes keeps different remainders apart. -/
theorem update_injective (bs : List UInt8) : Function.Injective (update · bs) := by
  induction bs with
  | nil => exact fun _ _ h => h
  | cons b bs ih =>
    intro c c' h
    have hstep : step c b = step c' b := ih h
    rw [step_eq_shifts, step_eq_shifts] at hstep
    exact UInt32.xor_left_inj b.toUInt32 |>.mp (shift_injective.iterate 8 hstep)

/-- `update` tells up to four bytes from others in their place. -/
theorem eq_of_update_eq {c : UInt32} {bs bs' : List UInt8} (h : bs.length ≤ 4)
    (hlen : bs'.length = bs.length)
    (heq : update c bs' = update c bs) : bs' = bs := by
  rw [update_eq_shifts c h, update_eq_shifts c (hlen ▸ h), hlen] at heq
  -- the words that they spell are the same, and words of so many bytes spell them
  have hword := (UInt32.xor_right_inj c).mp (shift_injective.iterate _ heq)
  have hlt {cs : List UInt8} (hcs : cs.length = bs.length) :
      LittleEndian.decode cs < UInt32.size := by
    have hlt := LittleEndian.decode_lt cs
    have hle : 1 <<< (8 * cs.length) ≤ 1 <<< 32 := by
      rw [Nat.one_shiftLeft, Nat.one_shiftLeft]
      exact Nat.pow_le_pow_right (by decide) (by omega)
    exact Nat.lt_of_lt_of_le hlt hle
  rw [LittleEndian.toUInt32, LittleEndian.toUInt32, ← UInt32.toNat_inj,
    UInt32.toNat_ofNat_of_lt' (hlt hlen), UInt32.toNat_ofNat_of_lt' (hlt rfl)] at hword
  rw [← LittleEndian.encode_decode bs', ← LittleEndian.encode_decode bs, hword, hlen]

/-! ### Bytes with their checksum -/

/-- The remainder of bytes with their checksum behind them, whatever the bytes are. -/
def residue : UInt32 := shift^[32] 0xFFFFFFFF

/-- The last four bytes are the `checksum` of those before exactly if all of them leave the
`residue`. -/
theorem checksum_eq_iff {covered tail : List UInt8} (h : tail.length = 4) :
    LittleEndian.toUInt32 tail = checksum covered ↔
      update 0xFFFFFFFF (covered ++ tail) = residue := by
  rw [update_append, update_eq_shifts _ (Nat.le_of_eq h), h, residue,
    (shift_injective.iterate 32).eq_iff, checksum]
  constructor
  · intro heq
    rw [heq, ← UInt32.xor_assoc, UInt32.xor_self, UInt32.zero_xor]
  · intro heq
    -- the remainder is added twice, which changes nothing
    have hword : LittleEndian.toUInt32 tail =
        update 0xFFFFFFFF covered ^^^
          (update 0xFFFFFFFF covered ^^^ LittleEndian.toUInt32 tail) := by
      rw [← UInt32.xor_assoc, UInt32.xor_self, UInt32.zero_xor]
    rw [hword, heq]

end Crc32c

/-! ### Bursts -/

/-- Byte strings of one length that differ, but in four bytes in a row at most. -/
structure IsBurst (start : Nat) (bs bs' : List UInt8) : Prop where
  length_eq : bs'.length = bs.length
  ne : bs' ≠ bs
  getElem?_eq {i : Nat} (hi : i < start ∨ start + 4 ≤ i) : bs'[i]? = bs[i]?

/-- Around the burst both strings are the same, so they differ in a window of four bytes at most. -/
theorem IsBurst.exists_window {start : Nat} {bs bs' : List UInt8} (h : IsBurst start bs bs') :
    ∃ front window window' back, bs = front ++ (window ++ back) ∧ bs' = front ++ (window' ++ back) ∧
      window.length ≤ 4 ∧ window'.length = window.length ∧ window' ≠ window := by
  have hfront : bs'.take start = bs.take start := by
    apply List.ext_getElem?
    intro i
    rw [List.getElem?_take, List.getElem?_take]
    split
    · exact h.getElem?_eq (.inl ‹_›)
    · rfl
  have hback : (bs'.drop start).drop 4 = (bs.drop start).drop 4 := by
    apply List.ext_getElem?
    intro i
    rw [List.drop_drop, List.drop_drop, List.getElem?_drop, List.getElem?_drop]
    exact h.getElem?_eq (.inr (by omega))
  have hcut (cs : List UInt8) : cs = cs.take start ++
      ((cs.drop start).take 4 ++ (cs.drop start).drop 4) := by
    rw [List.take_append_drop, List.take_append_drop]
  refine ⟨bs.take start, (bs.drop start).take 4, (bs'.drop start).take 4, (bs.drop start).drop 4,
    hcut bs, ?_, ?_, ?_, ?_⟩
  · rw [← hfront, ← hback]
    exact hcut bs'
  · exact List.length_take_le 4 _
  · simp only [List.length_take, List.length_drop, h.length_eq]
  -- with equal windows both strings would be the same
  · intro heq
    have hsame := hcut bs'
    rw [hfront, heq, hback, ← hcut bs] at hsame
    exact h.ne hsame

/-- `update` over a burst leaves another remainder. -/
theorem IsBurst.update_ne {start : Nat} {bs bs' : List UInt8} (h : IsBurst start bs bs')
    (c : UInt32) :
    Crc32c.update c bs' ≠ Crc32c.update c bs := by
  obtain ⟨front, window, window', back, rfl, rfl, hle, hlen, hne⟩ := h.exists_window
  intro heq
  simp only [Crc32c.update_append] at heq
  exact hne (Crc32c.eq_of_update_eq hle hlen (Crc32c.update_injective back heq))

/-! ### Messages with a checksum -/

/-- The checksum that stands at the end of a message. -/
def statedChecksum (bs : List UInt8) : UInt32 := LittleEndian.toUInt32 (bs.drop (bs.length - 4))

/-- The checksum of all that stands before it. -/
def computedChecksum (bs : List UInt8) : UInt32 := Crc32c.checksum (bs.take (bs.length - 4))

/-- `statedChecksum` is the `computedChecksum` exactly if all bytes leave the residue. -/
theorem statedChecksum_eq_iff {bs : List UInt8} (h : 4 ≤ bs.length) :
    statedChecksum bs = computedChecksum bs ↔ Crc32c.update 0xFFFFFFFF bs = Crc32c.residue := by
  have htail : (bs.drop (bs.length - 4)).length = 4 := by
    rw [List.length_drop]
    omega
  rw [statedChecksum, computedChecksum, Crc32c.checksum_eq_iff htail, List.take_append_drop]

/-- `statedChecksum` is wrong after a burst if it was right before. -/
theorem IsBurst.statedChecksum_ne {start : Nat} {bs bs' : List UInt8} (h : IsBurst start bs bs')
    (hlen : 4 ≤ bs.length) (hright : statedChecksum bs = computedChecksum bs) :
    statedChecksum bs' ≠ computedChecksum bs' := by
  intro hright'
  rw [statedChecksum_eq_iff hlen] at hright
  rw [statedChecksum_eq_iff (h.length_eq ▸ hlen)] at hright'
  exact h.update_ne _ (hright'.trans hright.symm)

/-- `checksumPresent` is the lowest bit of the byte behind the header. -/
theorem checksumPresent_eq (bs : List UInt8) :
    MsgFlags.checksumPresent ⟨LittleEndian.toUInt32 ((bs.drop headerSize).take 4)⟩ =
      (bs[headerSize]?.map (· &&& 1)).any (· != 0) := by
  rw [← List.head?_drop]
  cases bs.drop headerSize with
  | nil => rfl
  | cons b rest =>
    -- the flag is the lowest bit of the lowest byte
    have hlow : (LittleEndian.toUInt32 (b :: rest.take 3) &&& 1).toNat = (b &&& 1).toNat := by
      rw [UInt32.toNat_and, UInt8.toNat_and, LittleEndian.toUInt32, LittleEndian.decode_cons,
        UInt32.toNat_ofNat', UInt32.toNat_one, UInt8.toNat_one, Nat.and_one_is_mod,
        Nat.and_one_is_mod]
      omega
    rw [List.take_succ_cons, List.head?_cons, Option.map_some, Option.any_some,
      MsgFlags.checksumPresent, Bool.eq_iff_iff, bne_iff_ne, bne_iff_ne, ne_eq, ne_eq,
      ← UInt32.toNat_inj, ← UInt8.toNat_inj, hlow]
    rfl

/-- `IsFrame` cuts its bytes behind the header. -/
theorem isFrame_iff {bs body : List UInt8} {h : Header} :
    IsFrame bs h body ↔ headerSize ≤ bs.length ∧ h = .ofBytes (bs.take headerSize) ∧
      body = bs.drop headerSize ∧
      h.messageLength.toInt = bs.length ∧ bs.length ≤ maxMessageSize := by
  constructor
  · rintro ⟨rfl, hlen, hle⟩
    have hheader : headerSize = h.bytes.length := (Header.length_bytes h).symm
    rw [hheader, List.take_left, List.drop_left, Header.ofBytes_bytes]
    exact ⟨by rw [List.length_append]; omega, rfl, rfl, hlen, hle⟩
  · rintro ⟨hmin, rfl, rfl, hlen, hle⟩
    refine ⟨?_, hlen, hle⟩
    rw [Header.bytes_ofBytes (by rw [List.length_take]; omega), List.take_append_drop]

/-- A frame stays one if its length does, and keeps its opcode if the bytes of that stay too. -/
theorem IsFrame.of_same {bs bs' body : List UInt8} {h : Header} (hframe : IsFrame bs h body)
    (hlen : bs'.length = bs.length) (hlength : bs'.take 4 = bs.take 4)
    (hopcode : (bs'.drop 12).take 4 = (bs.drop 12).take 4) :
    ∃ h', IsFrame bs' h' (bs'.drop headerSize) ∧ h'.opcode = h.opcode := by
  obtain ⟨hmin, rfl, -, hmessage, hle⟩ := isFrame_iff.mp hframe
  -- length and operation are in the first and the last four bytes of the header
  have hfront (cs : List UInt8) : (cs.take headerSize).take 4 = cs.take 4 := by
    rw [List.take_take]
    rfl
  have hback (cs : List UInt8) : ((cs.take headerSize).drop 12).take 4 = (cs.drop 12).take 4 := by
    rw [List.drop_take, List.take_take]
    rfl
  refine ⟨.ofBytes (bs'.take headerSize), isFrame_iff.mpr ⟨hlen ▸ hmin, rfl, rfl, ?_, hlen ▸ hle⟩,
    ?_⟩
  · simp only [Header.ofBytes, hfront] at hmessage ⊢
    rw [hlength, hmessage, hlen]
  · simp only [Header.ofBytes, hback, hopcode]

/-- `sectionBytes` refuses a wrong checksum before any section is read, and so does
`Message.decode`. -/
theorem decode_of_wrong_checksum {bs : List UInt8} {h : Header} {body : List UInt8}
    (hframe : IsFrame bs h body) (hop : h.opcode = Opcode.msg.code) (hlen : 8 ≤ body.length)
    (hflag : MsgFlags.checksumPresent ⟨LittleEndian.toUInt32 (body.take 4)⟩ = true)
    (hwrong : statedChecksum bs ≠ computedChecksum bs) :
    sectionBytes h.bytes body ⟨LittleEndian.toUInt32 (body.take 4)⟩ =
        .error (.checksumMismatch (statedChecksum bs) (computedChecksum bs)) ∧
      Message.decode bs = .error (.checksumMismatch (statedChecksum bs) (computedChecksum bs)) := by
  have hsections : sectionBytes h.bytes body ⟨LittleEndian.toUInt32 (body.take 4)⟩ =
      .error (.checksumMismatch (statedChecksum bs) (computedChecksum bs)) := by
    have hbs := hframe.eq_append
    -- header and body, but for the last four bytes, are all that stands before them
    have hcut : bs.length - 4 = h.bytes.length + (body.length - 4) := by
      rw [hbs, List.length_append]
      omega
    have hstated : statedChecksum bs = LittleEndian.toUInt32 (body.drop (body.length - 4)) := by
      rw [statedChecksum, hcut, hbs, List.drop_append,
        List.drop_of_length_le (Nat.le_add_right _ _)]
      simp
    have hcomputed : computedChecksum bs = Crc32c.checksum
        (h.bytes ++ body.take (body.length - 4)) := by
      rw [computedChecksum, hcut, hbs, List.take_length_add_append]
    simp only [sectionBytes, hflag, ↓reduceIte, if_neg (Nat.not_lt.mpr hlen), ← hstated,
      ← hcomputed, ne_eq, hwrong, not_false_eq_true]
  refine ⟨hsections, ?_⟩
  have hflags : (Reader.uint32 "message flags").runOn body =
      .ok (LittleEndian.toUInt32 (body.take 4)) := by
    refine Reader.runOn_eq_ok_iff.mpr ⟨body.drop 4, Reader.uint32_eq_ok_iff.mpr ?_⟩
    rw [LittleEndian.uint32_toUInt32 (by rw [List.length_take]; omega), List.take_append_drop]
  have hread : readMsg h.bytes body =
      .error (.checksumMismatch (statedChecksum bs) (computedChecksum bs)) := by
    simp only [readMsg, bind, Except.bind, hflags, hsections]
  have hopen : openFrame bs =
      .error (.checksumMismatch (statedChecksum bs) (computedChecksum bs)) := by
    simp only [openFrame, bind, Except.bind, splitFrame_eq_ok_iff.mpr ⟨hframe, rfl⟩,
      Opcode.ofCode?_eq_some_iff.mpr hop, openBody, hread]
    rfl
  -- the frame is one by itself, so its error is that of the message
  rw [Message.decode, Message.readInside, dif_neg List.not_mem_nil]
  split
  · rename_i e hopen'
    rw [hopen] at hopen'
    cases hopen'
    rfl
  · rename_i hopen'
    cases hopen.symm.trans hopen'
  · rename_i hopen'
    cases hopen.symm.trans hopen'

/-- What `Message.decode` accepts with a checksum has the right one. -/
theorem statedChecksum_of_decode {bs : List UInt8} {m : Message} {body : Msg}
    (h : Message.decode bs = .ok m) (hbody : m.body = .msg body)
    (hflag : body.flags.checksumPresent = true) :
    ∃ h, IsFrame bs h (bs.drop headerSize) ∧ h.opcode = Opcode.msg.code ∧
      headerSize + 8 ≤ bs.length ∧
      MsgFlags.checksumPresent ⟨LittleEndian.toUInt32 ((bs.drop headerSize).take 4)⟩ = true ∧
      statedChecksum bs = computedChecksum bs := by
  cases spells_of_decode h with
  -- an envelope is no command message
  | envelope => cases hbody
  | @plain _ bodyBytes head b hframe hop hplain =>
    obtain rfl : b = .msg body := hbody
    obtain ⟨-, -, hdrop, -⟩ := isFrame_iff.mp hframe
    have hbs := hframe.eq_append
    cases hplain with
    | @msg _ sections htiles =>
      have hwhole := hframe
      rw [hdrop] at hwhole
      -- what the checksum covers is the header, the flags and the sections
      rw [checksumBytes, if_pos hflag] at hbs hdrop
      obtain ⟨covered, hcovered⟩ : ∃ covered, covered = head.bytes ++
          (LittleEndian.uint32 body.flags.bits ++ sections) :=
        ⟨_, rfl⟩
      rw [← List.append_assoc, ← List.append_assoc, List.append_assoc head.bytes, ← hcovered] at hbs
      have hlen : bs.length = covered.length + 4 := by
        rw [hbs, List.length_append, LittleEndian.length_uint32]
      have hcut : bs.length - 4 = covered.length := by omega
      refine ⟨head, hwhole, hop, ?_, ?_, ?_⟩
      · rw [hlen, hcovered, List.length_append, List.length_append, Header.length_bytes,
          LittleEndian.length_uint32, headerSize]
        omega
      · rw [← hdrop, List.take_left' (LittleEndian.length_uint32 _), LittleEndian.toUInt32_uint32]
        exact hflag
      · rw [statedChecksum, computedChecksum, hcut, hbs, List.drop_left, List.take_left,
          LittleEndian.toUInt32_uint32]

/-- `Message.decode` finds every burst of errors (`IsBurst`) in a message with a checksum, wherever
it is: `statedChecksum` and `computedChecksum` differ, which is noticed before the sections are
looked at. The message must still be taken for one of its length with a checksum. -/
theorem decode_of_burst {bs bs' : List UInt8} {m : Message} {body : Msg} {start : Nat}
    (hdecode : Message.decode bs = .ok m) (hbody : m.body = .msg body)
    (hflag : body.flags.checksumPresent = true) (hburst : IsBurst start bs bs')
    (hlength : bs'.take 4 = bs.take 4) (hopcode : (bs'.drop 12).take 4 = (bs.drop 12).take 4)
    (hbit : bs'[headerSize]?.map (· &&& 1) = bs[headerSize]?.map (· &&& 1)) :
    statedChecksum bs' ≠ computedChecksum bs' ∧
      sectionBytes (bs'.take headerSize) (bs'.drop headerSize)
        ⟨LittleEndian.toUInt32 ((bs'.drop headerSize).take 4)⟩ =
        .error (.checksumMismatch (statedChecksum bs') (computedChecksum bs')) ∧
      Message.decode bs' =
        .error (.checksumMismatch (statedChecksum bs') (computedChecksum bs')) := by
  obtain ⟨head, hframe, hop, hlen, hpresent, hright⟩ := statedChecksum_of_decode hdecode hbody hflag
  obtain ⟨head', hframe', hop'⟩ := hframe.of_same hburst.length_eq hlength hopcode
  obtain ⟨-, hhead', -⟩ := isFrame_iff.mp hframe'
  -- the burst may be in what is covered, in the checksum or across both
  have hwrong := hburst.statedChecksum_ne (by omega) hright
  rw [checksumPresent_eq, ← hbit, ← checksumPresent_eq] at hpresent
  have hrefused := decode_of_wrong_checksum hframe' (hop'.trans hop)
    (by rw [List.length_drop, hburst.length_eq]; omega) hpresent hwrong
  rw [hhead', Header.bytes_ofBytes (by rw [List.length_take, hburst.length_eq]; omega)] at hrefused
  exact ⟨hwrong, hrefused⟩

/-- A burst in the last byte of the sections and the first three of the checksum is noticed. -/
theorem decode_of_burst_acrossChecksum :
    let body : Msg := ⟨⟨1⟩, [.body [("a", .int32 5)]]⟩
    let bs : List UInt8 := [37, 0, 0, 0, 7, 0, 0, 0, 0, 0, 0, 0, 221, 7, 0, 0,
      1, 0, 0, 0, 0, 12, 0, 0, 0, 16, 97, 0, 5, 0, 0, 0, 0, 151, 13, 170, 177]
    let bs' : List UInt8 := [37, 0, 0, 0, 7, 0, 0, 0, 0, 0, 0, 0, 221, 7, 0, 0,
      1, 0, 0, 0, 0, 12, 0, 0, 0, 16, 97, 0, 5, 0, 0, 0, 1, 20, 113, 191, 177]
    (Message.decode bs = .ok ⟨7, 0, .msg body⟩ ∧ body.flags.checksumPresent = true ∧
      IsBurst 32 bs bs' ∧
        bs'.take 4 = bs.take 4 ∧ (bs'.drop 12).take 4 = (bs.drop 12).take 4 ∧
        bs'[headerSize]?.map (· &&& 1) = bs[headerSize]?.map (· &&& 1)) ∧
      statedChecksum bs' ≠ computedChecksum bs' ∧
        sectionBytes (bs'.take headerSize) (bs'.drop headerSize)
          ⟨LittleEndian.toUInt32 ((bs'.drop headerSize).take 4)⟩ =
          .error (.checksumMismatch (statedChecksum bs') (computedChecksum bs')) ∧
        Message.decode bs' =
          .error (.checksumMismatch (statedChecksum bs') (computedChecksum bs')) := by
  intro body bs bs'
  have hkey : Bson.TypedKey.ofName? "a" = none := by decide
  have hset : (Body.msg body).isSettled = true := by
    simp [body, Body.isSettled, Body.texts, MsgSection.texts, Body.documents, MsgSection.documents,
      Bson.Document.isSettled, Bson.fieldsSettled, Bson.Value.isSettled, hkey,
      Bson.Document.contains]
  have hwritable : Bson.Document.isWritable [("a", .int32 5)] = true := by
    simp [Bson.Document.isWritable, Bson.fieldsWritable, Bson.Value.isWritable, Bson.isTerminable]
  have henc : Message.encode ⟨7, 0, .msg body⟩ = .ok bs :=
    (encode_plain_eq_ok_iff (by decide)).mpr
      ⟨by simpa [body, Body.documents, MsgSection.documents] using hwritable, by decide,
        by decide +kernel⟩
  have hdecode := decode_of_encode hset henc
  -- the bytes outside the burst are compared one by one
  have hsame : ∀ i < 37, i < 32 ∨ 36 ≤ i → bs'[i]? = bs[i]? := by decide
  have hburst : IsBurst 32 bs bs' := by
    refine ⟨rfl, by decide, fun {i} hi => ?_⟩
    by_cases hlt : i < 37
    · exact hsame i hlt hi
    · rw [List.getElem?_eq_none (Nat.le_of_not_lt hlt),
        List.getElem?_eq_none (Nat.le_of_not_lt hlt)]
  have hflag : MsgFlags.checksumPresent ⟨1⟩ = true := by decide
  exact ⟨⟨hdecode, hflag, hburst, rfl, rfl, rfl⟩,
    decode_of_burst hdecode rfl hflag hburst rfl rfl rfl⟩

end DocGateway.Wire
