import DocGateway.Compression.Inflate
/-!
# Stored blocks are read back

A reader of bits takes a piece off the front, or runs out of bits if the piece is cut short. Both
are wanted of a stream that arrives in pieces: `Reads` says them of a reader, `Inflates` of one that
puts out bytes, and both carry over to readers in a row. A stream of stored blocks is taken so
whatever follows it.

## Key results

- `Reads.bind`, `Inflates.bind`: two readers in a row
- `inflates_storedBlock`: one stored block
- `inflates_stream`: a stream of stored blocks
-/

namespace DocGateway

/-! ### Bytes cut short -/

/-- Some bytes without at least the last one. -/
def IsCut (short whole : List UInt8) : Prop := ∃ b lost, whole = short ++ b :: lost

namespace IsCut

/-- No bytes cannot be cut short. -/
theorem not_nil {short : List UInt8} : ¬ IsCut short [] := by
  rintro ⟨b, lost, h⟩
  simp at h

/-- A piece is cut short to nothing, or behind its first byte. -/
theorem cons {b : UInt8} {short whole : List UInt8} (h : IsCut short (b :: whole)) :
    short = [] ∨ ∃ short', short = b :: short' ∧ IsCut short' whole := by
  obtain ⟨c, lost, h⟩ := h
  cases short with
  | nil => exact .inl rfl
  | cons b' short' =>
    obtain ⟨rfl, rfl⟩ := List.cons.inj h
    exact .inr ⟨short', rfl, c, lost, rfl⟩

/-- The first bytes are all there are, or are cut short. -/
theorem take (n : Nat) (whole : List UInt8) :
    whole.take n = whole ∨ IsCut (whole.take n) whole := by
  cases h : whole.drop n with
  | nil => exact .inl (List.take_of_length_le (List.drop_eq_nil_iff.mp h))
  | cons b lost => exact .inr ⟨b, lost, by rw [← h, List.take_append_drop]⟩

/-- What is cut short is shorter. -/
theorem length_lt {short whole : List UInt8} (h : IsCut short whole) :
    short.length < whole.length := by
  obtain ⟨b, lost, rfl⟩ := h
  simp

/-- Two pieces are cut short in the first or in the second. -/
theorem append {short piece other : List UInt8} (h : IsCut short (piece ++ other)) :
    IsCut short piece ∨ ∃ short', short = piece ++ short' ∧ IsCut short' other := by
  obtain ⟨b, lost, h⟩ := h
  obtain ⟨middle, rfl, rfl⟩ | ⟨middle, rfl, hlost⟩ := List.append_eq_append_iff.mp h
  · exact .inr ⟨middle, rfl, b, lost, rfl⟩
  · cases middle with
    | nil => exact .inr ⟨[], by simp, b, lost, by simpa using hlost.symm⟩
    | cons c middle =>
      exact .inl ⟨c, middle, rfl⟩

end IsCut

/-! ### Readers of bits -/

namespace Bits

/-- A reader that takes exactly a piece, and runs out of bits if that is cut short. -/
structure Reads {α : Type} (r : BitReader α) (piece : List UInt8) (a : α) : Prop where
  ok : ∀ rest, r ⟨piece ++ rest, 0⟩ = .ok (a, ⟨rest, 0⟩)
  starved : ∀ short, IsCut short piece → r ⟨short, 0⟩ = .error .starved

namespace Reads

variable {α β : Type} {r : BitReader α} {f : α → BitReader β} {piece piece' : List UInt8}
  {a : α} {b : β}

/-- To do nothing `Reads` the empty piece. -/
theorem pure (a : α) : Reads (pure a) [] a where
  ok _ := rfl
  starved _ h := absurd h IsCut.not_nil

/-- `Reads` of two pieces, one after the other. -/
theorem bind (hr : Reads r piece a) (hf : Reads (f a) piece' b) :
    Reads (r >>= f) (piece ++ piece') b where
  ok rest := by
    simp only [Bind.bind, StateT.bind, Except.bind, List.append_assoc, hr.ok, hf.ok]
  starved short h := by
    obtain hcut | ⟨short', rfl, hcut⟩ := h.append
    · simp only [Bind.bind, StateT.bind, Except.bind, hr.starved _ hcut]
    · simp only [Bind.bind, StateT.bind, Except.bind, hr.ok, hf.starved _ hcut]

/-- `byte` reads one byte. -/
theorem byte (b : UInt8) : Reads byte [b] b where
  ok _ := rfl
  starved short h := by
    obtain rfl : short = [] := List.length_eq_zero_iff.mp (Nat.lt_one_iff.mp h.length_lt)
    rfl

/-- `word` reads a number of as many bytes as it is told. -/
theorem word (piece : List UInt8) :
    Reads (word piece.length) piece (LittleEndian.decode piece) := by
  -- a word is its first byte and a shorter word
  induction piece with
  | nil => exact .pure 0
  | cons b piece ih =>
    have hhigh : Reads (do let high ← Bits.word piece.length; Pure.pure (b.toNat + 256 * high))
        (piece ++ []) (b.toNat + 256 * LittleEndian.decode piece) := bind ih (pure _)
    have h := bind
      (f := fun low => do
        let high ← Bits.word piece.length
        Pure.pure (low.toNat + 256 * high))
      (byte b) hhigh
    rw [List.append_nil] at h
    exact h

end Reads

end Bits

/-! ### Readers that put out bytes -/

namespace Inflate

/-- A reader that takes exactly a piece and puts out some bytes, and that runs out of bits if the
piece is cut short, having put out no more than those bytes. Fewer than `room` bytes are there to
read. -/
structure Inflates {α : Type} (m : Inflater α) (out : Array UInt8) (room : Nat)
    (piece : List UInt8) (a : α)
    (bytes : List UInt8) : Prop where
  ok : ∀ rest, (piece ++ rest).length < room →
    m ⟨out, ⟨piece ++ rest, 0⟩⟩ = .ok a ⟨out ++ bytes, ⟨rest, 0⟩⟩
  starved : ∀ short, short.length < room → IsCut short piece →
    ∃ p, m ⟨out, ⟨short, 0⟩⟩ = .error (.shortfall .starved) p ∧
      p.out.size ≤ out.size + bytes.length

namespace Inflates

variable {α β : Type} {m : Inflater α} {f : α → Inflater β} {out : Array UInt8} {room room' : Nat}
  {piece piece' bytes bytes' : List UInt8} {a : α} {b : β}

/-- `Inflates` for two pieces, one after the other: what the second may take is what the first
leaves of the room. -/
theorem bind (hm : Inflates m out room piece a bytes)
    (hf : Inflates (f a) (out ++ bytes) room' piece' b bytes')
    (hroom : room ≤ room' + piece.length) :
    Inflates (m >>= f) out room (piece ++ piece') b (bytes ++ bytes') where
  ok rest hlen := by
    rw [List.append_assoc] at hlen ⊢
    have hrest : (piece' ++ rest).length < room' := by
      rw [List.length_append] at hlen
      omega
    show EStateM.bind m f _ = _
    simp only [EStateM.bind, hm.ok _ hlen, hf.ok _ hrest]
    congr 2
    apply Array.ext'
    simp
  starved short hlen h := by
    show ∃ p, EStateM.bind m f _ = _ ∧ _
    obtain hcut | ⟨short', rfl, hcut⟩ := h.append
    · obtain ⟨p, hp, hsize⟩ := hm.starved short hlen hcut
      simp only [EStateM.bind, hp]
      exact ⟨p, rfl, by rw [List.length_append]; omega⟩
    · have hrest : short'.length < room' := by
        rw [List.length_append] at hlen
        omega
      -- the first piece is whole, and its bytes have been put out
      obtain ⟨p, hp, hsize⟩ := hf.starved short' hrest hcut
      simp only [EStateM.bind, hm.ok _ hlen, hp]
      refine ⟨p, rfl, ?_⟩
      rw [History.size_append] at hsize
      rw [List.length_append]
      omega

/-- To do nothing `Inflates` the empty piece. -/
theorem pure (a : α) : Inflates (pure a) out room [] a [] where
  ok rest _ := by
    show EStateM.Result.ok _ _ = _
    rw [List.nil_append, Array.appendList_nil]
  starved _ _ h := absurd h IsCut.not_nil

/-- Without any room there is nothing to show: no bytes are fewer than none. -/
theorem of_room_eq_zero : Inflates m out 0 piece a bytes where
  ok _ h := absurd h (Nat.not_lt_zero _)
  starved _ h := absurd h (Nat.not_lt_zero _)

/-- To look at what has been put out takes nothing. -/
theorem withOutput {g : Array UInt8 → Inflater α} (h : Inflates (g out) out room piece a bytes) :
    Inflates (do g (← get).out) out room piece a bytes where
  ok := h.ok
  starved := h.starved

/-- What a reader of bits `Reads` it `Inflates`, and puts out nothing. -/
theorem read {r : BitReader α} (hr : Bits.Reads r piece a) :
    Inflates (read r) out room piece a [] where
  ok rest _ := by
    simp [Inflate.read, StateT.run, hr.ok]
  starved short _ h := by
    refine ⟨⟨out, ⟨short, 0⟩⟩, ?_, Nat.le_add_right _ _⟩
    simp [Inflate.read, StateT.run, hr.starved _ h]

/-- `copyInput` puts out the bytes of the piece, if the limit leaves room for them. -/
theorem copyInput {limit : Nat} (hfits : out.size + bytes.length ≤ limit) :
    Inflates (copyInput limit bytes.length) out room bytes () bytes where
  ok rest _ := by
    have hmin : min bytes.length (limit - out.size) = bytes.length := by omega
    simp [Inflate.copyInput, hmin]
  starved short _ h := by
    have hlt := h.length_lt
    have hmin : min bytes.length (limit - out.size) = bytes.length := by omega
    have hall : short.take bytes.length = short := List.take_of_length_le (by omega)
    simp only [Inflate.copyInput, hmin, hall]
    rw [if_neg (by omega), if_neg (by omega)]
    exact ⟨_, rfl, by simp only [History.size_append]; omega⟩

end Inflates

/-! ### Stored blocks -/

/-- `storedLength` reads a number and its complement. -/
theorem reads_storedLength {n : Nat} (h : n ≤ 65535) :
    Bits.Reads storedLength (LittleEndian.encode 2 n ++ LittleEndian.encode 2 (65535 - n)) n := by
  have hword (k : Nat) (hk : k < 65536) : Bits.Reads (Bits.word 2) (LittleEndian.encode 2 k) k := by
    have := Bits.Reads.word (LittleEndian.encode 2 k)
    rw [LittleEndian.length_encode, LittleEndian.decode_encode_of_lt hk] at this
    exact this
  have hsum : n + (65535 - n) = 65535 := by omega
  refine (hword n (by omega)).bind ?_
  rw [← List.append_nil (LittleEndian.encode 2 (65535 - n))]
  refine (hword (65535 - n) (by omega)).bind ?_
  rw [if_pos hsum]
  exact .pure n

/-- `block` of a stored block reads the length and copies, as the bits left of the first byte are
dropped. -/
theorem block_cons_stored (limit : Nat) (last : Bool) (out : Array UInt8) (rest : List UInt8) :
    block limit ⟨out, ⟨(if last then 1 else 0) :: rest, 0⟩⟩ =
      ((read storedLength >>= copyInput limit) >>= fun _ => pure last) ⟨out, ⟨rest, 0⟩⟩ := by
  -- one bit for the last block, two for its kind, and the other five are dropped
  have hhead : (read Bits.bit) ⟨out, ⟨(if last then 1 else 0) :: rest, 0⟩⟩ =
      .ok (if last then 1 else 0) ⟨out, ⟨(if last then 1 else 0) :: rest, 1⟩⟩ := by
    cases last <;> rfl
  have hbits (b : UInt8) : (Bits.number 2) ⟨b :: rest, 1⟩ =
      .ok (b.toNat >>> 1 % 2 + 2 * (b.toNat >>> 2 % 2 + 2 * 0), ⟨b :: rest, 3⟩) := rfl
  have hkind : (read (Bits.number 2)) ⟨out, ⟨(if last then 1 else 0) :: rest, 1⟩⟩ =
      .ok 0 ⟨out, ⟨(if last then 1 else 0) :: rest, 3⟩⟩ := by
    simp only [read, StateT.run, hbits]
    cases last <;> rfl
  have halign : (read Bits.align) ⟨out, ⟨(if last then 1 else 0) :: rest, 3⟩⟩ =
      .ok () ⟨out, ⟨rest, 0⟩⟩ := rfl
  have hlast : decide ((if last = true then 1 else 0) = 1) = last := by cases last <;> rfl
  have hget (p : Progress) : (get : Inflater Progress) p = .ok p p := rfl
  simp only [block, bind, EStateM.bind, hhead, hkind, hget, stored, ↓reduceIte, halign, hlast]

/-- `block` reads a `storedBlock`. -/
theorem inflates_storedBlock {limit : Nat} {out : Array UInt8} {bytes : List UInt8} (room : Nat)
    (last : Bool) (hle : bytes.length ≤ 65535) (hfits : out.size + bytes.length ≤ limit) :
    Inflates (block limit) out room (storedBlock last bytes) last bytes := by
  have hinner : Inflates ((read storedLength >>= copyInput limit) >>= fun _ => pure last) out room
      (LittleEndian.encode 2 bytes.length ++
        (LittleEndian.encode 2 (65535 - bytes.length) ++ bytes))
      last bytes := by
    -- the length and its complement, then as many bytes
    have hlength : Inflates (read storedLength) out room _ _ [] := .read (reads_storedLength hle)
    have hcopy : Inflates (copyInput limit bytes.length) (out ++ ([] : List UInt8)) room bytes ()
        bytes := .copyInput (by rw [Array.appendList_nil]; exact hfits)
    have hlast : Inflates (pure last) (out ++ ([] ++ bytes)) room [] last [] := .pure last
    have h := (hlength.bind hcopy (Nat.le_add_right _ _)).bind (f := fun _ => pure last) hlast
      (Nat.le_add_right _ _)
    simpa only [List.append_nil, List.nil_append, List.append_assoc] using h
  have hcons : storedBlock last bytes = (if last then 1 else 0) ::
      (LittleEndian.encode 2 bytes.length ++
        (LittleEndian.encode 2 (65535 - bytes.length) ++ bytes)) := by
    simp only [storedBlock, List.cons_append, List.append_assoc]
  rw [hcons]
  constructor
  · intro rest hlen
    rw [List.cons_append, block_cons_stored]
    exact hinner.ok rest (Nat.lt_of_succ_lt hlen)
  · intro short hlen h
    obtain rfl | ⟨short', rfl, hcut⟩ := h.cons
    · exact ⟨⟨out, ⟨[], 0⟩⟩, rfl, Nat.le_add_right _ _⟩
    · rw [block_cons_stored]
      exact hinner.starved short' (Nat.lt_of_succ_lt hlen) hcut

/-- `blocks` reads a `storedBlock` that is marked as the last one. -/
private theorem inflates_lastBlock {limit : Nat} {out : Array UInt8} {bytes : List UInt8}
    (fuel : Nat) (hle : bytes.length ≤ 65535) (hfits : out.size + bytes.length ≤ limit) :
    Inflates (blocks limit fuel) out fuel (storedBlock true bytes) () bytes := by
  cases fuel with
  | zero => exact .of_room_eq_zero
  | succ fuel =>
    have hblock := inflates_storedBlock (fuel + 1) true hle hfits
    have hend : Inflates (pure ()) (out ++ bytes) (fuel + 1) [] () [] := .pure ()
    -- nothing is read behind the last block
    have h := hblock.bind (f := fun last => if last then pure () else blocks limit fuel) hend
      (Nat.le_add_right _ _)
    rw [List.append_nil, List.append_nil] at h
    exact h

/-- `blocks` reads `storedBlocks`. Each block takes a byte, so more steps than bytes are enough. -/
theorem inflates_storedBlocks {limit more : Nat} {out : Array UInt8} {bytes : List UInt8}
    (fuel : Nat) (hle : bytes.length ≤ 65535 * (more + 1))
    (hfits : out.size + bytes.length ≤ limit) :
    Inflates (blocks limit fuel) out fuel (storedBlocks more bytes) () bytes := by
  -- by induction on the blocks that come behind the first
  induction more generalizing bytes out fuel with
  | zero => exact inflates_lastBlock fuel (by omega) hfits
  | succ more ih =>
    rw [storedBlocks]
    split
    · rename_i hempty
      rw [List.isEmpty_iff, List.drop_eq_nil_iff] at hempty
      exact inflates_lastBlock fuel hempty hfits
    · rename_i hmore
      rw [List.isEmpty_iff, List.drop_eq_nil_iff] at hmore
      cases fuel with
      | zero => exact .of_room_eq_zero
      | succ fuel =>
        have hfirst : (bytes.take 65535).length = 65535 := by rw [List.length_take]; omega
        have hblock : Inflates (block limit) out (fuel + 1) _ false (bytes.take 65535) :=
          inflates_storedBlock (fuel + 1) false (Nat.le_of_eq hfirst) (by omega)
        have hrest : Inflates (blocks limit fuel) (out ++ bytes.take 65535) fuel _ ()
            (bytes.drop 65535) :=
          ih fuel (by rw [List.length_drop]; omega)
            (by rw [History.size_append, hfirst, List.length_drop]; omega)
        have h := hblock.bind (f := fun last => if last then pure () else blocks limit fuel) hrest
          (by simp only [storedBlock, List.cons_append, List.length_cons]; omega)
        rw [List.take_append_drop] at h
        exact h

/-- `stream` reads what `Inflate.encode` writes. -/
theorem inflates_stream {limit room : Nat} {out : Array UInt8} {plain : List UInt8}
    (hfits : out.size + plain.length ≤ limit) :
    Inflates (stream limit) out room (Inflate.encode plain) () plain := by
  have hle : plain.length ≤ 65535 * (plain.length / 65535 + 1) := by omega
  rw [Inflate.encode]
  constructor
  · intro rest _
    exact (inflates_storedBlocks
      (8 * (storedBlocks (plain.length / 65535) plain ++ rest).length + 1)
      hle hfits).ok rest (by omega)
  · intro short _ h
    exact (inflates_storedBlocks (8 * short.length + 1) hle hfits).starved short (by omega) h

end Inflate

end DocGateway
