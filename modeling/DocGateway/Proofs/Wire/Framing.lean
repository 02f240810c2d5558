import DocGateway.Wire.Stream
/-!
# Framing does not depend on how the bytes arrive

A reader of a stream takes off messages after each chunk that arrives, until no whole message is
left or one cannot be read. After a failure nothing is taken off any more, and what arrives only
waits. `Intake.parse` says what should come of a byte string as a whole: its frames are cut by the
length at the start of each, and read one by one.

## Key results

- `Stream.next_extend`: a stream that gives a message or an error gives the same when more has
  arrived
- `Intake.arrive_drain`: after each chunk the reader has what draining all bytes at once gives
- `Stream.drain_eq_parse`: draining some bytes is parsing them
- `Intake.ofChunks_eq_parse`: so the cuts between the chunks leave no trace
-/

namespace DocGateway.Wire

/-- What has come of a stream: the messages taken off, the error that put an end to it, and the
bytes that wait. -/
structure Intake where
  messages : List Message
  failure : Option WireError
  stream : Stream

/-- The length in the first four bytes. -/
def announcedLength (bs : List UInt8) : Int32 := LittleEndian.toInt32 (bs.take 4)

/-- The number of bytes of the frame that starts here, if its length can frame a message. -/
def frameSize (bs : List UInt8) : Nat := (announcedLength bs).toInt.toNat

namespace Intake

/-- One more message before the others. -/
def cons (m : Message) (t : Intake) : Intake := { t with messages := m :: t.messages }

/-- The intake of a byte string as a whole. Less than a header, or less than a header announces, is
left; a length that cannot frame a message stays where it is; a frame that cannot be read is taken
off. -/
def parse (bs : List UInt8) : Intake :=
  if bs.length < headerSize then ⟨[], none, ⟨bs⟩⟩
  else if (announcedLength bs).toInt < headerSize ∨ maxMessageSize < (announcedLength bs).toInt then
    ⟨[], some (.invalidMessageLength (announcedLength bs)), ⟨bs⟩⟩
  else if bs.length < frameSize bs then ⟨[], none, ⟨bs⟩⟩
  else
    match Message.decode (bs.take (frameSize bs)) with
    | .error e => ⟨[], some e, ⟨bs.drop (frameSize bs)⟩⟩
    | .ok m => (parse (bs.drop (frameSize bs))).cons m
termination_by bs.length
decreasing_by
  simp only [headerSize, frameSize, List.length_drop] at *
  omega

end Intake

/-! ### One message -/

namespace Stream

/-- `extend` by no bytes changes nothing. -/
@[simp] theorem extend_nil (s : Stream) : s.extend [] = s := by simp [extend]

/-- `extend` by two chunks is `extend` by one after the other. -/
theorem extend_append (s : Stream) (as bs : List UInt8) :
    s.extend (as ++ bs) = (s.extend as).extend bs := by
  simp [extend]

/-- `Header.peek` finds a header at the start of enough bytes, whatever comes after it, unless the
length in it cannot frame a message. -/
private theorem peek_of_le {bs : List UInt8} (h : headerSize ≤ bs.length) :
    Header.peek bs =
      if Header.validLength (announcedLength bs) then .ok (some (.ofBytes (bs.take headerSize)))
      else .error (.invalidMessageLength (announcedLength bs)) := by
  have hlen : (Header.ofBytes (bs.take headerSize)).messageLength = announcedLength bs := by
    simp [Header.ofBytes, announcedLength, List.take_take, headerSize]
  simp only [Header.peek, Slice.split?_of_le h, hlen]

/-- The size in the header that `Header.peek` finds is the `frameSize` of the bytes. -/
private theorem size_ofBytes (bs : List UInt8) :
    (Header.ofBytes (bs.take headerSize)).size = frameSize bs := by
  simp [Header.size, Header.ofBytes, frameSize, announcedLength, List.take_take, headerSize]

variable {s s' : Stream}

/-- `next` gives no message for too few bytes for a header. -/
theorem next_of_short (h : s.buffer.length < headerSize) : s.next = (.ok none, s) := by
  simp only [next, Header.peek, Slice.split?_eq_none.mpr h]

/-- `next` fails at a length that cannot frame a message, and takes nothing off. -/
theorem next_of_invalid (h : headerSize ≤ s.buffer.length)
    (hv : Header.validLength (announcedLength s.buffer) = false) :
    s.next = (.error (.invalidMessageLength (announcedLength s.buffer)), s) := by
  simp [next, peek_of_le h, hv]

/-- `next` gives no message for fewer bytes than announced. -/
theorem next_of_partial (h : headerSize ≤ s.buffer.length)
    (hv : Header.validLength (announcedLength s.buffer) = true)
    (hp : s.buffer.length < frameSize s.buffer) : s.next = (.ok none, s) := by
  simp only [next, peek_of_le h, hv, ↓reduceIte, size_ofBytes, Slice.split?_eq_none.mpr hp]

/-- `next` takes a whole frame off and reads it. -/
theorem next_of_frame (h : headerSize ≤ s.buffer.length)
    (hv : Header.validLength (announcedLength s.buffer) = true)
    (hp : frameSize s.buffer ≤ s.buffer.length) :
    s.next =
      (some <$> Message.decode (s.buffer.take (frameSize s.buffer)),
        ⟨s.buffer.drop (frameSize s.buffer)⟩) := by
  simp only [next, peek_of_le h, hv, ↓reduceIte, size_ofBytes, Slice.split?_of_le hp]

/-- The four ways in which a call of `next` can end. -/
theorem next_cases (s : Stream) :
    s.buffer.length < headerSize ∨
    (headerSize ≤ s.buffer.length ∧ Header.validLength (announcedLength s.buffer) = false) ∨
    (headerSize ≤ s.buffer.length ∧ Header.validLength (announcedLength s.buffer) = true ∧
      s.buffer.length < frameSize s.buffer) ∨
    (headerSize ≤ s.buffer.length ∧ Header.validLength (announcedLength s.buffer) = true ∧
      frameSize s.buffer ≤ s.buffer.length) := by
  cases Header.validLength (announcedLength s.buffer) <;> simp <;> omega

/-- A frame has a header at least. -/
theorem headerSize_le_frameSize {bs : List UInt8}
    (hv : Header.validLength (announcedLength bs) = true) : headerSize ≤ frameSize bs := by
  have := (Header.validLength_iff.mp hv).1
  simp only [frameSize]
  omega

/-- `next` shortens the stream whenever it gives a message. -/
theorem length_next {m : Message} (h : s.next = (.ok (some m), s')) :
    s'.buffer.length < s.buffer.length := by
  obtain hs | ⟨hs, hv⟩ | ⟨hs, hv, hp⟩ | ⟨hs, hv, hp⟩ := next_cases s
  · simp [next_of_short hs] at h
  · simp [next_of_invalid hs hv] at h
  · simp [next_of_partial hs hv hp] at h
  · rw [next_of_frame hs hv hp, Prod.mk.injEq] at h
    obtain ⟨-, rfl⟩ := h
    -- the frame that is taken off has a header at least, so it is not empty
    have := headerSize_le_frameSize hv
    simp only [headerSize, List.length_drop] at *
    omega

/-- `next` leaves the stream as it is unless it gives a message or fails. -/
theorem eq_of_next_none (h : s.next = (.ok none, s')) : s' = s := by
  obtain hs | ⟨hs, hv⟩ | ⟨hs, hv, hp⟩ | ⟨hs, hv, hp⟩ := next_cases s
  · rw [next_of_short hs, Prod.mk.injEq] at h
    exact h.2.symm
  · simp [next_of_invalid hs hv] at h
  · rw [next_of_partial hs hv hp, Prod.mk.injEq] at h
    exact h.2.symm
  · rw [next_of_frame hs hv hp, Prod.mk.injEq] at h
    -- a whole frame gives a message or an error
    cases hd : Message.decode (s.buffer.take (frameSize s.buffer)) with
    | error e => rw [hd] at h; cases h.1
    | ok m => rw [hd] at h; cases h.1

/-- What `next` gives other than "not yet" is the same when more has arrived, and what it leaves is
longer by that. -/
theorem next_extend {r : Except WireError (Option Message)} (h : s.next = (r, s'))
    (hr : r ≠ .ok none) (bs : List UInt8) : (s.extend bs).next = (r, s'.extend bs) := by
  have hlen : s.buffer.length ≤ (s.extend bs).buffer.length := by simp [extend]
  -- the first four bytes are there already, so the announced length stays what it is
  have hann (hs : headerSize ≤ s.buffer.length) :
      announcedLength (s.extend bs).buffer = announcedLength s.buffer := by
    simp only [headerSize, announcedLength, extend] at *
    rw [List.take_append_of_le_length (by omega)]
  -- only a bad length and a whole frame give more than "not yet"
  obtain hs | ⟨hs, hv⟩ | ⟨hs, hv, hp⟩ | ⟨hs, hv, hp⟩ := next_cases s
  · rw [next_of_short hs, Prod.mk.injEq] at h
    exact absurd h.1.symm hr
  · rw [next_of_invalid hs hv, Prod.mk.injEq] at h
    obtain ⟨rfl, rfl⟩ := h
    rw [next_of_invalid (Nat.le_trans hs hlen) (by rw [hann hs, hv]), hann hs]
  · rw [next_of_partial hs hv hp, Prod.mk.injEq] at h
    exact absurd h.1.symm hr
  -- the frame is there already too, and what has arrived comes behind it
  · have hsize : frameSize (s.extend bs).buffer = frameSize s.buffer := by
      simp only [frameSize, hann hs]
    rw [next_of_frame hs hv hp, Prod.mk.injEq] at h
    obtain ⟨rfl, rfl⟩ := h
    rw [next_of_frame (Nat.le_trans hs hlen) (by rw [hann hs, hv])
      (by rw [hsize]; exact Nat.le_trans hp hlen), hsize]
    simp only [extend, List.take_append_of_le_length hp, List.drop_append_of_le_length hp]

/-! ### All messages -/

/-- Takes messages off until no whole one is left or one cannot be read. -/
def drain (s : Stream) : Intake :=
  match _h : s.next with
  | (.error e, s') => ⟨[], some e, s'⟩
  | (.ok none, s') => ⟨[], none, s'⟩
  | (.ok (some m), s') => (drain s').cons m
termination_by s.buffer.length
decreasing_by exact length_next _h

/-- `drain` stops at a failure. -/
theorem drain_of_error {e : WireError} (h : s.next = (.error e, s')) :
    s.drain = ⟨[], some e, s'⟩ := by
  rw [drain]
  split <;> simp_all

/-- `drain` stops where no whole message is left. -/
theorem drain_of_none (h : s.next = (.ok none, s')) : s.drain = ⟨[], none, s⟩ := by
  have := eq_of_next_none h
  rw [drain]
  split <;> simp_all

/-- `drain` goes on behind a message. -/
theorem drain_of_some {m : Message} (h : s.next = (.ok (some m), s')) :
    s.drain = s'.drain.cons m := by
  rw [drain]
  split <;> simp_all

/-- `drain` parses the bytes of its stream. -/
theorem drain_eq_parse (s : Stream) : s.drain = .parse s.buffer := by
  -- by induction on the bytes that wait: behind a frame there are fewer
  induction hn : s.buffer.length using Nat.strongRecOn generalizing s with
  | _ n ih =>
  obtain hs | ⟨hs, hv⟩ | ⟨hs, hv, hp⟩ | ⟨hs, hv, hp⟩ := next_cases s
  · rw [drain_of_none (next_of_short hs), Intake.parse, if_pos hs]
  · have := mt Header.validLength_iff.mpr (Bool.eq_false_iff.mp hv)
    rw [drain_of_error (next_of_invalid hs hv), Intake.parse, if_neg (by omega), if_pos (by omega)]
  · have := Header.validLength_iff.mp hv
    rw [drain_of_none (next_of_partial hs hv hp), Intake.parse, if_neg (by omega),
      if_neg (by omega), if_pos hp]
  · have := Header.validLength_iff.mp hv
    -- a frame is taken off, whether it can be read or not
    have hnext := next_of_frame hs hv hp
    rw [Intake.parse, if_neg (by omega), if_neg (by omega), if_neg (by omega)]
    cases hd : Message.decode (s.buffer.take (frameSize s.buffer)) with
    | error e =>
      rw [hd] at hnext
      exact drain_of_error hnext
    | ok m =>
      rw [hd] at hnext
      rw [drain_of_some hnext, ih _ (hn ▸ length_next hnext) _ rfl]

end Stream

/-! ### All chunks -/

namespace Intake

/-- What a reader has after one more chunk. -/
def arrive (t : Intake) (chunk : List UInt8) : Intake :=
  match t.failure with
  | some _ => { t with stream := t.stream.extend chunk }
  | none =>
    let more := (t.stream.extend chunk).drain
    { more with messages := t.messages ++ more.messages }

/-- What a reader has after some chunks, from an empty stream on. -/
def ofChunks (chunks : List (List UInt8)) : Intake := chunks.foldl arrive ⟨[], none, .empty⟩

/-- `arrive` keeps a message that was there before in front of what it brings. -/
theorem arrive_cons (m : Message) (t : Intake) (chunk : List UInt8) :
    (t.cons m).arrive chunk = (t.arrive chunk).cons m := by
  obtain ⟨ms, failure, s⟩ := t
  cases failure <;> rfl

/-- After one more chunk a reader has what `drain` gives for all bytes at once. -/
theorem arrive_drain (s : Stream) (chunk : List UInt8) :
    s.drain.arrive chunk = (s.extend chunk).drain := by
  -- by induction on the bytes that wait, one message at a time; the chunk only comes behind them
  induction hn : s.buffer.length using Nat.strongRecOn generalizing s with
  | _ n ih =>
  obtain ⟨r, s', h⟩ : ∃ r s', s.next = (r, s') := ⟨_, _, rfl⟩
  match r with
  | .error e =>
    rw [Stream.drain_of_error h, Stream.drain_of_error (Stream.next_extend h (by simp) chunk)]
    rfl
  -- with no whole message the stream has stayed as it was, and is drained with the chunk
  | .ok none =>
    rw [Stream.drain_of_none h]
    rfl
  | .ok (some m) =>
    rw [Stream.drain_of_some h, Stream.drain_of_some (Stream.next_extend h (by simp) chunk),
      arrive_cons, ih _ (hn ▸ Stream.length_next h) _ rfl]

/-- After any chunks a reader has what `drain` gives for all bytes at once. -/
theorem foldl_arrive_drain (s : Stream) (chunks : List (List UInt8)) :
    chunks.foldl arrive s.drain = (s.extend chunks.flatten).drain := by
  induction chunks generalizing s with
  | nil => simp
  | cons chunk chunks ih =>
    rw [List.foldl_cons, arrive_drain, ih, List.flatten_cons, Stream.extend_append]

/-- `arrive` after a failure lets the bytes wait. -/
theorem foldl_arrive_of_failure {t : Intake} (h : t.failure ≠ none) (chunks : List (List UInt8)) :
    chunks.foldl arrive t = { t with stream := t.stream.extend chunks.flatten } := by
  induction chunks generalizing t with
  | nil => simp
  | cons chunk chunks ih =>
    obtain ⟨ms, failure, s⟩ := t
    cases failure with
    | none => exact absurd rfl h
    | some e =>
      -- the failure is still there behind the next chunk
      rw [List.foldl_cons, List.flatten_cons, Stream.extend_append]
      exact ih (by simp [arrive])

/-- `ofChunks` gives what `drain` gives for the bytes of all chunks at once. -/
theorem ofChunks_eq_drain (chunks : List (List UInt8)) :
    ofChunks chunks = (Stream.empty.extend chunks.flatten).drain := by
  have hempty : Stream.empty.drain = ⟨[], none, .empty⟩ :=
    Stream.drain_of_none (Stream.next_of_short (by decide))
  rw [ofChunks, ← hempty, foldl_arrive_drain]

/-- What a reader has that takes no more chunks after a failure, and the chunks not taken. -/
def untilFailure (t : Intake) : List (List UInt8) → Intake × List (List UInt8)
  | [] => (t, [])
  | chunk :: chunks =>
    match t.failure with
    | some _ => (t, chunk :: chunks)
    | none => untilFailure (t.arrive chunk) chunks

/-- `untilFailure` loses only bytes that wait. -/
theorem extend_untilFailure (t : Intake) (chunks : List (List UInt8)) :
    let (t', others) := t.untilFailure chunks
    { t' with stream := t'.stream.extend others.flatten } = chunks.foldl arrive t := by
  -- by induction on the chunks; after a failure none is decoded
  induction chunks generalizing t with
  | nil => simp [untilFailure]
  | cons chunk chunks ih =>
    cases hf : t.failure with
    | some e =>
      rw [foldl_arrive_of_failure (by simp [hf])]
      simp [untilFailure, hf]
    | none =>
      simp only [untilFailure, hf]
      exact ih (t.arrive chunk)

/-- `ofChunks` gives what `parse` gives for all bytes at once, whatever the cuts between the chunks:
the messages, the first error and the bytes that wait. A reader that takes no more chunks after an
error (`untilFailure`) has the same messages and the same error, and lacks only the bytes that it
has not taken. The error `.endlessEnvelopes` stands for a call that does not return, so for these
bytes a reader of chunks and a reader of all bytes get stuck at the same frame. -/
theorem ofChunks_eq_parse (chunks : List (List UInt8)) :
    ofChunks chunks = parse chunks.flatten ∧
    let (t, others) := untilFailure ⟨[], none, .empty⟩ chunks
    { t with stream := t.stream.extend others.flatten } = parse chunks.flatten := by
  have hall : ofChunks chunks = parse chunks.flatten := by
    rw [ofChunks_eq_drain, Stream.drain_eq_parse]
    simp [Stream.empty, Stream.extend]
  refine ⟨hall, ?_⟩
  rw [← hall]
  exact extend_untilFailure _ chunks

end Intake

end DocGateway.Wire
