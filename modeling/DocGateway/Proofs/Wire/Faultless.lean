import DocGateway.Proofs.Wire.Accounting
import DocGateway.Proofs.Wire.CheckedReading
import DocGateway.Proofs.Wire.Nesting
/-!
# No step of the decoder faults

With every step checked the decoder does what it does otherwise. A frame is opened in the same way,
whatever its bytes are: each number that is taken from them is compared with what is there before a
step relies on it. So no step faults at any depth of envelopes, nor in any sequence of calls on a
stream. A message or an error is reached as soon as the decoder may open as many frames as there
are, but there are bytes whose frames never end.

## Key results

- `Checked.readMsg_yields`, `Checked.readEnvelope_yields`: command messages and envelopes
- `Checked.openFrame_yields`: one frame
- `Checked.decode_of_endsWithin`, `Checked.decode_of_not_endsWithin`: a frame and those in its
  envelopes
- `Checked.next_follows`: one call on a stream
- `Checked.faultless`: all of it, for every byte string and every sequence of calls
- `Checked.decode_selfEnclosing`: bytes for which no number of frames is enough
-/

namespace DocGateway.Wire

namespace Checked

variable {α β : Type}

/-! ### Command messages -/

/-- `wordAt` and `slice` do not fault at the last word of a message: it is that of the body, and
before it stand the header and the rest of the body. -/
theorem cut_checksum {message : List UInt8} (h : headerSize + 8 ≤ message.length) :
    wordAt message (message.length - 4) =
        .ok (LittleEndian.toUInt32
          ((message.drop headerSize).drop ((message.drop headerSize).length - 4))) ∧
      slice message 0 (message.length - 4) =
        .ok (message.take headerSize ++ (message.drop headerSize).take
          ((message.drop headerSize).length - 4)) := by
  have hcut : message.length - 4 = headerSize + ((message.drop headerSize).length - 4) := by
    rw [List.length_drop]
    omega
  constructor
  · -- four bytes are left behind the place, which is as many as are read
    have hword : (message.drop (message.length - 4)).length = 4 := by
      rw [List.length_drop]
      omega
    rw [wordAt, slice_of_le (Nat.sub_le _ _) (Nat.le_refl _), List.take_length,
      List.drop_drop, ← hcut]
    change (splitAt 4 (message.drop (message.length - 4)) >>= _) = _
    rw [splitAt_of_le hword.ge, List.take_of_length_le hword.le]
    rfl
  · rw [slice_of_le (Nat.zero_le _) (Nat.sub_le _ _), List.drop_zero, hcut, List.take_add]

/-- `sectionsEnd` does not fault, and the sections lie where `sectionBytes` has them, between the
flags and the checksum. The checksum is looked for only if the body has room for it behind the
flags. -/
theorem sections_yields {message : List UInt8} (hflags : headerSize + 4 ≤ message.length)
    (flags : MsgFlags) :
    Yields (sectionsEnd message (message.drop headerSize) flags >>= fun stop =>
        step (slice (message.drop headerSize) 4 stop))
      (sectionBytes (message.take headerSize) (message.drop headerSize) flags) := by
  have hbody : (message.drop headerSize).length = message.length - headerSize := List.length_drop
  unfold sectionsEnd sectionBytes
  by_cases hchecksum : flags.checksumPresent = true
  · simp only [hchecksum, ↓reduceIte]
    by_cases hshort : (message.drop headerSize).length < 8
    · simp only [hshort, ↓reduceIte]
      exact ((Yields.step (difference_of_le (Nat.le_of_lt hshort))).bind (.refuse _)).bind_error
    · have hroom : headerSize + 8 ≤ message.length := by omega
      obtain ⟨hstored, hcovered⟩ := cut_checksum hroom
      have hsplit : difference message.length 4 = .ok (message.length - 4) :=
        difference_of_le (by omega)
      -- from here on only the length of the body counts
      generalize message.drop headerSize = body at *
      have hstop : difference body.length 4 = .ok (body.length - 4) := difference_of_le (by omega)
      have hslice : slice body 4 (body.length - 4) = .ok ((body.take (body.length - 4)).drop 4) :=
        slice_of_le (by omega) (Nat.sub_le _ _)
      simp only [hshort, ↓reduceIte, bind_assoc]
      refine (Yields.step hsplit).bind ((Yields.step hstored).bind ((Yields.step hcovered).bind ?_))
      split
      · exact (Yields.refuse _).bind_error
      · exact (Yields.step hstop).bind (.step hslice)
  · simp only [hchecksum, Bool.false_eq_true, ↓reduceIte]
    refine (Yields.pure _).bind (Yields.step ?_)
    rw [slice_of_le (by omega) (Nat.le_refl _), List.take_length]

/-- `readMsg` does not fault: the flags have been read when the sections are looked for. -/
theorem readMsg_yields {message : List UInt8} (h : headerSize ≤ message.length) :
    Yields (readMsg message) (Wire.readMsg (message.take headerSize)
      (message.drop headerSize)) := by
  have hbody : slice message headerSize message.length = .ok (message.drop headerSize) := by
    rw [slice_of_le h (Nat.le_refl _), List.take_length]
  refine (Yields.step hbody).bind ((CheckedReader.Follows.uint32 _ _).runOn.seq fun flags hflags =>
    ?_)
  have hroom : headerSize + 4 ≤ message.length := by
    -- what was read of the body are four bytes of it
    obtain ⟨rest, hread⟩ := Reader.runOn_eq_ok_iff.mp hflags
    have hlength := congrArg List.length (Reader.uint32_eq_ok_iff.mp hread)
    rw [List.length_drop, List.length_append, LittleEndian.length_uint32] at hlength
    omega
  have hmany :=
    CheckedReader.Follows.many CheckedReader.readSection_follows accepts_section.advances
  have hsections := sections_yields hroom ⟨flags⟩
  rw [← bind_assoc]
  exact hsections.seq fun sections _ => ((hmany sections).runOn.seq fun _ _ => .pure _)

/-! ### Headers -/

/-- `readHeader` reads sixteen bytes as `Header.ofBytes` does. -/
theorem readHeader_gives {bs : List UInt8} (h : bs.length = headerSize) :
    CheckedReader.readHeader.Gives bs (.ok (Header.ofBytes bs, [])) := by
  simp only [headerSize] at h
  have hend : bs.drop 16 = [] := List.drop_of_length_le h.le
  have hword (n : Nat) (hn : n + 4 ≤ 16) :
      (CheckedReader.advance 4).Gives (bs.drop n) (.ok ((bs.drop n).take 4, bs.drop (n + 4))) := by
    rw [← List.drop_drop]
    exact .advance_of_le (by rw [List.length_drop]; omega)
  rw [← hend]
  refine (hword 0 (by omega)).bind ((hword 4 (by omega)).bind ?_)
  exact (hword 8 (by omega)).bind ((hword 12 (by omega)).bind (.pure _ _))

/-- `validate` does not fault: a length is not below zero when it is cast. -/
theorem validate_yields (length : Int32) :
    Yields (validate length)
      (if Header.validLength length then .ok () else .error (.invalidMessageLength length)) := by
  unfold validate
  by_cases hsmall : length.toInt < headerSize
  · have hv : Header.validLength length = false := by
      rw [← Bool.not_eq_true, Header.validLength_iff]
      omega
    rw [if_pos hsmall, hv]
    exact .refuse _
  · -- a length that is no smaller than a header is not below zero
    rw [if_neg hsmall]
    refine (Yields.step (toCount_of_nonneg (by omega))).bind ?_
    -- neither is it above the limit when it can frame a message
    by_cases hlarge : maxMessageSize < length.toInt.toNat
    · have hv : Header.validLength length = false := by
        rw [← Bool.not_eq_true, Header.validLength_iff]
        omega
      rw [if_pos hlarge, hv]
      exact .refuse _
    · have hv : Header.validLength length = true := Header.validLength_iff.mpr (by omega)
      rw [if_neg hlarge, hv]
      exact .pure _

/-- What comes behind `validate` is done if the length can frame a message. -/
theorem validate_bind {x : Checked α} {y : Except WireError α} (length : Int32) (h : Yields x y) :
    Yields (validate length >>= fun _ => x)
      (if Header.validLength length then y else .error (.invalidMessageLength length)) := by
  have hvalidate := validate_yields length
  split at hvalidate
  · rename_i hv
    rw [if_pos hv]
    exact hvalidate.bind h
  · rename_i hv
    rw [if_neg hv]
    exact hvalidate.bind_error

/-- `peek` does not fault, and does what `Header.peek` does. -/
theorem peek_yields (bs : List UInt8) : Yields (peek bs) (Header.peek bs) := by
  unfold peek Header.peek
  by_cases hshort : bs.length < headerSize
  · rw [if_pos hshort, Slice.split?_eq_none.mpr hshort]
    exact .pure _
  · have hle := Nat.le_of_not_lt hshort
    have hhead : slice bs 0 headerSize = .ok (bs.take headerSize) := slice_of_le (Nat.zero_le _) hle
    -- the header is read from exactly its sixteen bytes
    have hread : Yields (CheckedReader.readHeader.runOn (bs.take headerSize))
        (.ok (Header.ofBytes (bs.take headerSize))) :=
      .map Prod.fst (readHeader_gives (List.length_take_of_le hle))
    rw [if_neg hshort, Slice.split?_of_le hle]
    exact (Yields.step hhead).bind (hread.bind (validate_bind _ (.pure _)))

/-- `Header.peek` finds no header only where there are too few bytes for one. -/
theorem lt_of_peek_eq_none {bs : List UInt8} (h : Header.peek bs = .ok none) :
    bs.length < headerSize := by
  unfold Header.peek at h
  cases hsplit : Slice.split? headerSize bs with
  | none => exact Slice.split?_eq_none.mp hsplit
  | some cut =>
    rw [hsplit] at h
    dsimp only at h
    split at h <;> cases h

/-- `toCount` loses nothing of the length in a header that `Header.peek` found. -/
theorem toCount_of_peek {bs : List UInt8} {h : Header} (hpeek : Header.peek bs = .ok (some h)) :
    toCount h.messageLength = .ok h.size := by
  have hmin := (Header.validLength_iff.mp (Header.peek_eq_some_iff.mp hpeek).2.2).1
  exact toCount_of_nonneg (by omega)

/-! ### Envelopes -/

/-- `checkAnnounced` does not fault, and compares as `Wire.checkAnnounced` does. -/
theorem checkAnnounced_yields (c : Compressor) (payload : List UInt8) {declared : Int32}
    (h : 0 ≤ declared.toInt) :
    Yields (checkAnnounced c payload declared declared.toInt.toNat)
      (Wire.checkAnnounced c payload declared) := by
  cases c with
  -- only snappy announces a size of its own
  | noop => exact .pure _
  | zlib => exact .pure _
  | zstd => exact .pure _
  | snappy =>
    unfold checkAnnounced Wire.checkAnnounced
    cases hannounced : Snappy.announced? payload with
    | none => exact .refuse _
    | some n =>
      by_cases heq : n = declared.toInt.toNat
      · simp only [heq, ne_eq, not_true_eq_false, ↓reduceIte, Int.toNat_of_nonneg h]
        exact .pure _
      · have hne : (n : Int) ≠ declared.toInt := by omega
        simp only [heq, hne, ne_eq, not_false_eq_true, ↓reduceIte]
        exact .refuse _

/-- `expand` does not fault: a declared size is not below zero when it is cast. -/
theorem expand_yields (c : Compressor) (payload : List UInt8) (declared : Int32) :
    Yields (expand c payload declared) (Wire.expand c payload declared) := by
  unfold expand Wire.expand
  -- both limits are compared before the cast is relied on
  by_cases hneg : declared.toInt < 0
  · rw [if_pos hneg, if_pos (.inl hneg)]
    exact .refuse _
  · have hcount : toCount declared = .ok declared.toInt.toNat := toCount_of_nonneg (by omega)
    rw [if_neg hneg]
    refine (Yields.step hcount).bind ?_
    by_cases hlarge : maxMessageSize < declared.toInt.toNat
    · rw [if_pos hlarge, if_pos (.inr (by omega))]
      exact .refuse _
    · rw [if_neg hlarge, if_neg (by omega)]
      refine (Yields.step hcount).bind ((checkAnnounced_yields c payload (by omega)).seq fun _ _ =>
        ?_)
      cases c.decompress? declared.toInt.toNat payload with
      | none => exact .refuse _
      | some plain =>
        by_cases heq : plain.length = declared.toInt.toNat
        · simp only [heq, ne_eq, not_true_eq_false, ↓reduceIte]
          exact .pure _
        · simp only [heq, ne_eq, not_false_eq_true, ↓reduceIte]
          exact .refuse _

/-- `readEnvelopeHead` does not fault, and does what `Wire.readEnvelopeHead` does. -/
theorem readEnvelopeHead_follows (bs : List UInt8) :
    CheckedReader.readEnvelopeHead.Follows readEnvelopeHead bs := by
  refine (CheckedReader.Follows.int32 _ _).bind fun opcode _ _ =>
    (CheckedReader.Follows.int32 _ _).bind fun size _ _ => ?_
  exact (CheckedReader.Follows.byte _ _).bind fun id _ _ => .pure _ _

/-- `readEnvelope` does not fault: what a payload expands to is so short that its length with a
header is a word. -/
theorem readEnvelope_yields (h : Header) (body : List UInt8) :
    Yields (readEnvelope h body) (Wire.readEnvelope h body) := by
  have hhead : Yields (CheckedReader.readEnvelopeHead body) (Wire.readEnvelopeHead body) :=
    readEnvelopeHead_follows body
  refine hhead.seq fun p _ => ?_
  obtain ⟨⟨opcode, size, id⟩, payload⟩ := p
  dsimp only
  cases Compressor.ofId? id with
  | none => exact .refuse _
  | some c =>
    refine (expand_yields c payload size).seq fun plain hplain => ?_
    obtain ⟨-, hle, -⟩ := expand_eq_ok_iff.mp hplain
    -- no payload expands to more than the limit of messages, which is far below that of words
    have hword : toWord (plain.length + headerSize) =
        .ok (Int32.ofNat (plain.length + headerSize)) :=
      if_pos (Int32.toInt_ofNat_of_lt (by simp only [maxMessageSize, headerSize] at *; omega))
    exact (Yields.step hword).bind (validate_bind _ (.pure _))

/-! ### Frames -/

/-- `openBody` does not fault, whatever the opcode. -/
theorem openBody_yields (h : Header) {message : List UInt8} (hlength : headerSize ≤ message.length)
    (op : Opcode) :
    Yields (openBody h message (message.drop headerSize) op)
      (Wire.openBody h (message.take headerSize) (message.drop headerSize) op) := by
  cases op with
  | query => exact (CheckedReader.readQuery_follows _).runOn.map _
  | getMore => exact (CheckedReader.readGetMore_follows _).runOn.map _
  | killCursors => exact (CheckedReader.readKillCursors_follows _).runOn.map _
  | reply => exact (CheckedReader.readReply_follows _).runOn.map _
  | msg => exact (readMsg_yields hlength).map _
  | compressed => exact readEnvelope_yields h _

/-- `openFrame` does not fault: the length in a header is not below zero, and it is compared with
the bytes that are there before it is taken off, and before they are cut. -/
theorem openFrame_yields (bs : List UInt8) : Yields (openFrame bs) (Wire.openFrame bs) := by
  unfold openFrame Wire.openFrame splitFrame
  rw [bind_assoc]
  refine (peek_yields bs).seq fun h? hpeek => ?_
  cases h? with
  | none =>
    have hshort := Nat.le_of_lt (lt_of_peek_eq_none hpeek)
    exact (Yields.step (difference_of_le hshort)).bind (.refuse _)
  | some h =>
    have hhead := (Header.peek_eq_some_iff.mp hpeek).1
    refine (Yields.step (toCount_of_peek hpeek)).bind ?_
    -- too short, too long, or as announced
    by_cases hmissing : bs.length < h.size
    · simp only [hmissing, ↓reduceIte]
      exact (Yields.step (difference_of_le (Nat.le_of_lt hmissing))).bind (.refuse _)
    · by_cases htrailing : h.size < bs.length
      · simp only [hmissing, htrailing, ↓reduceIte]
        exact (Yields.step (difference_of_le (Nat.le_of_lt htrailing))).bind (.refuse _)
      · -- the frame is exactly as long as announced
        have hbody : slice bs headerSize h.size = .ok (bs.drop headerSize) := by
          rw [slice_of_le (by omega) (by omega), List.take_of_length_le (by omega)]
        simp only [hmissing, htrailing, ↓reduceIte]
        cases hop : Opcode.ofCode? h.opcode with
        | none =>
          simp only [bind, Except.bind, hop]
          exact .refuse _
        | some op =>
          have hopen := (openBody_yields h hhead op).seq fun opened _ => Yields.pure (h, opened)
          simp only [bind, Except.bind, hop] at hopen ⊢
          exact (Yields.step hbody).bind hopen

end Checked

/-! ### Depths -/

/-- The frames end before a depth. -/
def EndsWithin (depth : Nat) (bs : List UInt8) : Prop :=
  ∃ d < depth, ∃ last, frameAt bs d = some last ∧ inside? last = none

variable {depth : Nat} {bs inner : List UInt8}

/-- `EndsWithin 0` never holds, as no frame is before the depth zero. -/
theorem EndsWithin.exists_succ (hends : EndsWithin depth bs) : ∃ depth', depth = depth' + 1 := by
  obtain ⟨d, hd, -⟩ := hends
  exact Nat.exists_eq_succ_of_ne_zero (Nat.ne_zero_of_lt hd)

/-- `EndsWithin` holds of a frame with no frame inside, for any depth but zero. -/
theorem endsWithin_of_inside (hinside : inside? bs = none) (depth : Nat) :
    EndsWithin (depth + 1) bs :=
  ⟨0, Nat.succ_pos depth, bs, rfl, hinside⟩

/-- A frame ends within `depth + 1` if the one inside it ends within `depth`. -/
theorem endsWithin_succ_iff (hinside : inside? bs = some inner) :
    EndsWithin (depth + 1) bs ↔ EndsWithin depth inner := by
  constructor
  · rintro ⟨d, hd, last, hlast, hnone⟩
    -- the first frame is an envelope, so it is not the last one
    cases d with
    | zero =>
      obtain rfl : bs = last := Option.some.inj hlast
      rw [hinside] at hnone
      cases hnone
    | succ d =>
      rw [frameAt_succ_of_inside hinside] at hlast
      exact ⟨d, Nat.lt_of_succ_lt_succ hd, last, hlast, hnone⟩
  · rintro ⟨d, hd, last, hlast, hnone⟩
    rw [← frameAt_succ_of_inside hinside] at hlast
    exact ⟨d + 1, Nat.succ_lt_succ hd, last, hlast, hnone⟩

/-- `Ends` is that `EndsWithin` holds of some depth. -/
theorem ends_iff_endsWithin : Ends bs ↔ ∃ depth, EndsWithin depth bs := by
  constructor
  · rintro ⟨d, last, hlast, hnone⟩
    exact ⟨d + 1, d, Nat.lt_succ_self d, last, hlast, hnone⟩
  · rintro ⟨depth, d, -, last, hlast, hnone⟩
    exact ⟨d, last, hlast, hnone⟩

/-! ### Messages -/

namespace Checked

/-- `decode` fails with the error of a frame that cannot be opened. -/
theorem decode_of_error {e : WireError} (hopen : Wire.openFrame bs = .error e) (depth : Nat) :
    decode (depth + 1) bs = .ok (some (.error e)) := by
  rw [decode, openFrame_yields bs, hopen]
  rfl

/-- `decode` gives the body of a frame without envelope. -/
theorem decode_of_plain {h : Header} {body : Body}
    (hopen : Wire.openFrame bs = .ok (h, .plain body)) (depth : Nat) :
    decode (depth + 1) bs = .ok (some (.ok ⟨h.requestId, h.responseTo, body⟩)) := by
  rw [decode, openFrame_yields bs, hopen]
  rfl

/-- `decode` puts what is inside an envelope into the envelope again, one frame less deep. -/
theorem decode_of_envelope {h : Header} {c : Compressor}
    (hopen : Wire.openFrame bs = .ok (h, .envelope c inner))
    {result? : Option (Except WireError Message)} (hinner : decode depth inner = .ok result?) :
    decode (depth + 1) bs =
      .ok (result?.map fun result => result.map fun m =>
        ⟨h.requestId, h.responseTo, .compressed c m.body⟩) := by
  rw [decode, openFrame_yields bs, hopen]
  change (decode depth inner >>= _) = _
  rw [hinner]
  rfl

/-- `decode` gives what there is to decode, if the frames do not go too deep. -/
theorem decode_of_decodes {result : Except WireError Message} (hdecodes : Decodes bs result)
    (hends : EndsWithin depth bs) : decode depth bs = .ok (some result) := by
  -- by induction on what there is to decode; each envelope uses up one frame of the depth
  induction hdecodes generalizing depth with
  | failed hopen =>
    obtain ⟨depth, rfl⟩ := hends.exists_succ
    exact decode_of_error hopen depth
  | plain hopen =>
    obtain ⟨depth, rfl⟩ := hends.exists_succ
    exact decode_of_plain hopen depth
  | @envelope bs inner h c result hopen hinner ih =>
    obtain ⟨depth, rfl⟩ := hends.exists_succ
    have hinside : inside? bs = some inner := inside?_eq_some_iff.mpr ⟨h, c, hopen⟩
    exact decode_of_envelope hopen (ih ((endsWithin_succ_iff hinside).mp hends))

/-- `decode` gives nothing if the frames go too deep. -/
theorem decode_of_not_endsWithin (hends : ¬ EndsWithin depth bs) : decode depth bs = .ok none := by
  -- by induction on the depth, of which each envelope uses up one
  induction depth generalizing bs with
  | zero => rfl
  | succ depth ih =>
    cases hinside : inside? bs with
    | none => exact absurd (endsWithin_of_inside hinside depth) hends
    | some inner =>
      obtain ⟨h, c, hopen⟩ := inside?_eq_some_iff.mp hinside
      rw [endsWithin_succ_iff hinside] at hends
      exact decode_of_envelope hopen (ih hends)

/-- `decode` agrees with `Message.decode` on frames that do not go too deep. -/
theorem decode_of_endsWithin (hends : EndsWithin depth bs) :
    decode depth bs = .ok (some (Message.decode bs)) := by
  have ⟨_, _, last, hlast, hnone⟩ := hends
  exact decode_of_decodes (decodes_readInside hlast hnone fun _ _ _ => List.not_mem_nil) hends

/-! ### Streams -/

/-- `next` behind a header that can frame a message: its length is compared with the bytes that have
arrived before they are cut. -/
theorem next_of_header {s : Stream} {h : Header} (hpeek : Header.peek s.buffer = .ok (some h))
    (depth : Nat) :
    next depth s =
      if s.buffer.length < h.size then .ok (some (.ok none), s)
      else
        (fun result? => (result?.map (some <$> ·), ⟨s.buffer.drop h.size⟩)) <$>
          decode depth (s.buffer.take h.size) := by
  unfold next
  rw [peek_yields s.buffer, hpeek]
  change (toCount h.messageLength >>= _) = _
  rw [toCount_of_peek hpeek]
  change (if s.buffer.length < h.size then _ else _) = _
  split
  · rename_i hmissing
    -- neither the subtraction nor the split can fault, by the length that was checked
    rw [difference_of_le (Nat.le_of_lt hmissing)]
    rfl
  · rename_i hmissing
    rw [splitAt_of_le (Nat.le_of_not_lt hmissing), map_eq_pure_bind]
    rfl

/-- `next` leaves the stream that `Stream.next` leaves, and gives what it gives unless the frames go
too deep. -/
theorem next_follows (depth : Nat) (s : Stream) :
    ∃ r, next depth s = .ok (r, s.next.2) ∧
      (r = some s.next.1 ∨ r = none ∧
        ¬ EndsWithin depth (Decoding.taken ⟨s, s.next.2, s.next.1⟩)) := by
  cases hpeek : Header.peek s.buffer with
  | error e =>
    have hnext : next depth s = .ok (some (.error e), s) := by
      rw [next, peek_yields s.buffer, hpeek]
      rfl
    simp only [hnext, Stream.next, hpeek]
    exact ⟨_, rfl, .inl rfl⟩
  | ok h? =>
    cases h? with
    | none =>
      have hnext : next depth s = .ok (some (.ok none), s) := by
        rw [next, peek_yields s.buffer, hpeek]
        rfl
      simp only [hnext, Stream.next, hpeek]
      exact ⟨_, rfl, .inl rfl⟩
    | some h =>
      rw [next_of_header hpeek]
      -- nothing is taken off before the whole frame has arrived
      by_cases hmissing : s.buffer.length < h.size
      · simp only [hmissing, ↓reduceIte, Stream.next, hpeek, Slice.split?_eq_none.mpr hmissing]
        exact ⟨_, rfl, .inl rfl⟩
      · -- the frame is taken off whether it is decoded or not
        have hle := Nat.le_of_not_lt hmissing
        simp only [hmissing, ↓reduceIte, Stream.next, hpeek, Slice.split?_of_le hle,
          Stream.taken_of_drop hle]
        by_cases hends : EndsWithin depth (s.buffer.take h.size)
        · rw [decode_of_endsWithin hends]
          exact ⟨_, rfl, .inl rfl⟩
        · rw [decode_of_not_endsWithin hends]
          exact ⟨none, rfl, .inr ⟨rfl, hends⟩⟩

/-- No step faults, whatever bytes are decoded and however they arrive in a stream. `openFrame`
opens each frame as `Wire.openFrame` does. `decode` gives what `Message.decode` gives if the frames
end before the given depth (`EndsWithin`), and only then, and there is such a depth if they end at
all (`Ends`). `next` leaves what is left by `Stream.next`, and gives what that gives unless the
frames of the message go too deep. -/
theorem faultless (depth : Nat) (bs : List UInt8) (calls : List StreamCall) :
    openFrame bs = ExceptT.mk (.ok (Wire.openFrame bs)) ∧
    (EndsWithin depth bs → decode depth bs = .ok (some (Message.decode bs))) ∧
    (¬ EndsWithin depth bs → decode depth bs = .ok none) ∧
    (Ends bs ↔ ∃ enough, EndsWithin enough bs) ∧
    ∀ d ∈ (Stream.empty.play calls).1, ∃ r, next depth d.before = .ok (r, d.after) ∧
      (r = some d.result ∨ r = none ∧ ¬ EndsWithin depth d.taken) := by
  refine ⟨openFrame_yields bs, decode_of_endsWithin, decode_of_not_endsWithin,
    ends_iff_endsWithin, ?_⟩
  intro d hd
  rw [Stream.eq_next_of_mem_play hd]
  exact next_follows depth d.before

/-- The payload of `selfEnclosing` expands to what stands in the envelope. -/
theorem inside?_selfEnclosing : inside? selfEnclosing = some selfEnclosing := by decide +kernel

/-- There are bytes for which no depth is enough, so that `decode` reaches neither a message nor an
error. -/
theorem decode_selfEnclosing : ¬ ∀ bs, ∃ depth result, decode depth bs = .ok (some result) := by
  intro h
  obtain ⟨depth, result, hresult⟩ := h selfEnclosing
  -- the same frame comes at each depth
  have hnone : decode depth selfEnclosing = .ok none := by
    clear hresult
    induction depth with
    | zero => rfl
    | succ depth ih =>
      obtain ⟨h, c, hopen⟩ := inside?_eq_some_iff.mp inside?_selfEnclosing
      exact decode_of_envelope hopen ih
  rw [hnone] at hresult
  cases hresult

end Checked

end DocGateway.Wire
