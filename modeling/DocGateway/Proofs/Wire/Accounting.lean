import DocGateway.Proofs.Wire.Framing
/-!
# Every byte that arrives is accounted for

A stream is extended and asked for the next message in any order, also after errors. Whatever is
asked, the bytes taken off so far and those that wait are together the bytes that have arrived.
Bytes are taken off as whole frames only, whether the frame can be read or not, and a frame leaves
no trace but its own result. A length that cannot frame a message stays in front of all that comes
later.

## Key results

- `Stream.isAccounted_next`: what one call takes off and what it gives
- `Stream.balanced_play`: the bytes of all calls
- `Stream.play_frame`: what comes after a frame does not depend on it
- `Stream.refused_play`: a length that cannot frame a message fails every later call
- `Stream.arrived_eq_taken_append_buffer`: all of it, for every sequence of calls
-/

namespace DocGateway.Wire

/-- What can be done with a stream. -/
inductive StreamCall where
  | extend (bs : List UInt8)
  | next

/-- One call for the next message: the stream before and after it, and what it gave. -/
structure Decoding where
  before : Stream
  after : Stream
  result : Except WireError (Option Message)

/-- The bytes that arrive in some calls. -/
def arrived : List StreamCall → List UInt8
  | [] => []
  | .extend bs :: calls => bs ++ arrived calls
  | .next :: calls => arrived calls

/-- Some bytes start with a valid header and hold all bytes of its frame. -/
def HoldsFrame (bs : List UInt8) : Prop :=
  headerSize ≤ bs.length ∧ Header.validLength (announcedLength bs) = true ∧ frameSize bs ≤ bs.length

/-- Some bytes start with a header whose length cannot frame a message. -/
def HasBadLength (bs : List UInt8) : Prop :=
  headerSize ≤ bs.length ∧ Header.validLength (announcedLength bs) = false

namespace Decoding

/-- The bytes that a call has taken off the front. -/
def taken (d : Decoding) : List UInt8 :=
  d.before.buffer.take (d.before.buffer.length - d.after.buffer.length)

/-- A call takes off a whole frame if there is one, and gives what that is read as; otherwise it
takes off nothing. -/
structure IsAccounted (d : Decoding) : Prop where
  balanced : d.taken ++ d.after.buffer = d.before.buffer
  frame : HoldsFrame d.before.buffer →
    d.taken.length = frameSize d.before.buffer ∧ d.result = some <$> Message.decode d.taken
  refused : HasBadLength d.before.buffer →
    d.taken = [] ∧ d.result = .error (.invalidMessageLength (announcedLength d.before.buffer))
  waiting : ¬ HoldsFrame d.before.buffer → ¬ HasBadLength d.before.buffer →
    d.taken = [] ∧ d.result = .ok none
  idle : d.result = .ok none → d.taken = []

end Decoding

namespace Stream

/-- Carries out calls one after another, and gives those for messages and the stream that is
left. -/
def play : Stream → List StreamCall → List Decoding × Stream
  | s, [] => ([], s)
  | s, .extend bs :: calls => play (s.extend bs) calls
  | s, .next :: calls =>
    let later := play s.next.2 calls
    (⟨s, s.next.2, s.next.1⟩ :: later.1, later.2)

/-! ### One call -/

variable {s : Stream}

/-- A call that leaves its stream as it was is accounted for, if it takes no frame and gives what is
due. -/
private theorem isAccounted_of_unchanged {result : Except WireError (Option Message)}
    (hframe : ¬ HoldsFrame s.buffer)
    (hbad : HasBadLength s.buffer →
      result = .error (.invalidMessageLength (announcedLength s.buffer)))
    (hwait : ¬ HasBadLength s.buffer → result = .ok none) :
    Decoding.IsAccounted ⟨s, s, result⟩ := by
  have htaken : Decoding.taken ⟨s, s, result⟩ = [] := by simp [Decoding.taken]
  -- nothing was taken off, so what was there is there
  constructor
  case balanced => rw [htaken, List.nil_append]
  case frame => intro h; exact absurd h hframe
  case refused => intro h; exact ⟨htaken, hbad h⟩
  case waiting => intro _ h; exact ⟨htaken, hwait h⟩
  case idle => intro _; exact htaken

/-- A call that leaves `s.buffer.drop n` has taken `s.buffer.take n`. -/
theorem taken_of_drop {n : Nat} (h : n ≤ s.buffer.length)
    (result : Except WireError (Option Message)) :
    Decoding.taken ⟨s, ⟨s.buffer.drop n⟩, result⟩ = s.buffer.take n := by
  simp only [Decoding.taken, List.length_drop]
  congr 1
  omega

/-- `Stream.next` takes off a whole frame or nothing, and gives what is due. -/
theorem isAccounted_next (s : Stream) : Decoding.IsAccounted ⟨s, s.next.2, s.next.1⟩ := by
  -- the four ways in which a call can end; only a whole frame changes the stream
  obtain hs | ⟨hs, hv⟩ | ⟨hs, hv, hp⟩ | ⟨hs, hv, hp⟩ := next_cases s
  · rw [next_of_short hs]
    apply isAccounted_of_unchanged
    · intro h
      have := h.1
      omega
    · intro h
      have := h.1
      omega
    · intro _
      rfl
  · rw [next_of_invalid hs hv]
    apply isAccounted_of_unchanged
    · intro h
      rw [h.2.1] at hv
      cases hv
    · intro _
      rfl
    · intro h
      exact absurd ⟨hs, hv⟩ h
  · rw [next_of_partial hs hv hp]
    apply isAccounted_of_unchanged
    · intro h
      have := h.2.2
      omega
    · intro h
      rw [h.2] at hv
      cases hv
    · intro _
      rfl
  · have hframe : HoldsFrame s.buffer := ⟨hs, hv, hp⟩
    rw [next_of_frame hs hv hp]
    constructor
    case balanced =>
      rw [taken_of_drop hp]
      exact List.take_append_drop _ _
    case frame =>
      intro _
      rw [taken_of_drop hp]
      exact ⟨List.length_take_of_le hp, rfl⟩
    case refused =>
      intro h
      rw [h.2] at hv
      cases hv
    case waiting =>
      intro h
      exact absurd hframe h
    case idle =>
      -- a whole frame gives a message or an error
      intro h
      cases hd : Message.decode (s.buffer.take (frameSize s.buffer)) with
      | error e => rw [hd] at h; cases h
      | ok m => rw [hd] at h; cases h

/-! ### All calls -/

/-- Over `play`, the bytes that were there and those that arrive are those that calls take off and
those that wait at the end. -/
theorem balanced_play (s : Stream) (calls : List StreamCall) :
    s.buffer ++ arrived calls = (s.play calls).1.flatMap Decoding.taken ++
      (s.play calls).2.buffer := by
  -- by induction on the calls: one that extends moves bytes, one that asks splits them
  induction calls generalizing s with
  | nil => simp [arrived, play]
  | cons call calls ih =>
    cases call with
    | extend bs =>
      rw [play, ← ih, arrived, extend, List.append_assoc]
    | next =>
      have hcall := (isAccounted_next s).balanced
      simp only [play, arrived, List.flatMap_cons, List.append_assoc, ← ih]
      rw [← List.append_assoc, hcall]

/-- `play` notes what `Stream.next` does. -/
theorem eq_next_of_mem_play {calls : List StreamCall} {d : Decoding} (h : d ∈ (s.play calls).1) :
    d = ⟨d.before, d.before.next.2, d.before.next.1⟩ := by
  induction calls generalizing s with
  | nil => cases h
  | cons call calls ih =>
    cases call with
    | extend bs => exact ih (s := s.extend bs) h
    | next =>
      obtain hfirst | hlater := List.mem_cons.mp h
      · rw [hfirst]
      · exact ih hlater

/-- Each call that `play` notes is accounted for, as each call of `Stream.next` is. -/
theorem isAccounted_play (s : Stream) (calls : List StreamCall) :
    ∀ d ∈ (s.play calls).1, d.IsAccounted := by
  intro d hd
  rw [eq_next_of_mem_play hd]
  exact isAccounted_next d.before

/-- Behind a whole frame `play` goes as if the frame had never been there. -/
theorem play_frame {frame : List UInt8} (hframe : HoldsFrame frame)
    (hwhole : frameSize frame = frame.length) (rest : List UInt8) (calls : List StreamCall) :
    play ⟨frame ++ rest⟩ (.next :: calls) =
      (⟨⟨frame ++ rest⟩, ⟨rest⟩, some <$> Message.decode frame⟩ :: (play ⟨rest⟩ calls).1,
        (play ⟨rest⟩ calls).2) := by
  have halone : next ⟨frame⟩ = (some <$> Message.decode frame, ⟨[]⟩) := by
    have h := next_of_frame (s := ⟨frame⟩) hframe.1 hframe.2.1 hframe.2.2
    rw [hwhole, List.take_length, List.drop_length] at h
    exact h
  -- a frame gives a message or an error, so it gives the same before more bytes
  have hgives : (some <$> Message.decode frame : Except WireError (Option Message)) ≠ .ok none := by
    cases Message.decode frame <;> simp [Functor.map, Except.map]
  have hnext : next ⟨frame ++ rest⟩ = (some <$> Message.decode frame, ⟨rest⟩) :=
    next_extend halone hgives rest
  rw [play, hnext]

/-- A length that cannot frame a message stays in front, whatever `extend` puts behind it. -/
theorem hasBadLength_extend (h : HasBadLength s.buffer) (bs : List UInt8) :
    HasBadLength (s.extend bs).buffer ∧ announcedLength (s.extend bs).buffer =
      announcedLength s.buffer := by
  have hlen : 4 ≤ s.buffer.length := by
    have := h.1
    simp only [headerSize] at this
    omega
  -- the length is in the first four bytes, which are there already
  have hsame : announcedLength (s.extend bs).buffer = announcedLength s.buffer := by
    simp only [announcedLength, extend, List.take_append_of_le_length hlen]
  refine ⟨⟨?_, ?_⟩, hsame⟩
  · have := h.1
    simp only [extend, List.length_append]
    omega
  · rw [hsame]
    exact h.2

/-- Once a bad length stands in front, each call of `play` reports it and takes nothing off. -/
theorem refused_play (h : HasBadLength s.buffer) (calls : List StreamCall) :
    ∀ d ∈ (s.play calls).1, d.taken = [] ∧
      d.result = .error (.invalidMessageLength (announcedLength s.buffer)) := by
  -- by induction on the calls: none of them takes the bad length off
  induction calls generalizing s with
  | nil => simp [play]
  | cons call calls ih =>
    cases call with
    | extend bs =>
      obtain ⟨hbad, hsame⟩ := hasBadLength_extend h bs
      rw [← hsame]
      exact ih hbad
    | next =>
      -- the call leaves the stream as it is
      have hnext : s.next.2 = s := by rw [next_of_invalid h.1 h.2]
      intro d hd
      obtain hfirst | hlater := List.mem_cons.mp hd
      · rw [hfirst]
        exact (isAccounted_next s).refused h
      · rw [hnext] at hlater
        exact ih h d hlater

/-- For every sequence of calls: the bytes that are `taken` and the `buffer` that waits are the
bytes that have `arrived`; each call takes off the whole frame that is there, whether it can be read
or not, or nothing (`IsAccounted`); what comes after a frame does not depend on it; and a length
that cannot frame a message (`HasBadLength`) is reported by every later call. A call with the result
`.endlessEnvelopes` stands for one that does not return: what is said of it and of the calls after
it is said of a decoder that gives the frame up. -/
theorem arrived_eq_taken_append_buffer (calls : List StreamCall) :
    arrived calls = (empty.play calls).1.flatMap Decoding.taken ++ (empty.play calls).2.buffer ∧
    (∀ d ∈ (empty.play calls).1, d.IsAccounted) ∧
    (∀ frame rest later, HoldsFrame frame → frameSize frame = frame.length →
      play ⟨frame ++ rest⟩ (.next :: later) =
        (⟨⟨frame ++ rest⟩, ⟨rest⟩, some <$> Message.decode frame⟩ :: (play ⟨rest⟩ later).1,
          (play ⟨rest⟩ later).2)) ∧
    (HasBadLength (empty.play calls).2.buffer → ∀ later, ∀ d ∈ ((empty.play calls).2.play later).1,
      d.taken = [] ∧
      d.result = .error (.invalidMessageLength (announcedLength (empty.play calls).2.buffer))) := by
  refine ⟨?_, isAccounted_play empty calls, ?_, ?_⟩
  · exact balanced_play empty calls
  · intro frame rest later hframe hwhole
    exact play_frame hframe hwhole rest later
  · intro hbad later
    exact refused_play hbad later

end Stream

end DocGateway.Wire
