import DocGateway.Compression.Zstd.Encode
/-!
# Zstandard frames are read back

Compressed blocks are only written if they are read back; what is left is a frame of stored blocks
under a header that says how long they are together.

## Key results

- `blocks?_storedBlocks`: stored blocks
- `decode?_header`: headers
- `decode?_encode`: inputs
- `length_of_decode?_encode`: however much room is given for them
-/

namespace DocGateway.Zstd

/-! ### Stored blocks -/

/-- `Frame.blocks?` reads a `storedBlock`, and goes on unless it is the last one. -/
theorem blocks?_storedBlock (header : FrameHeader) {start limit fuel : Nat} {last : Bool}
    {bytes : List UInt8} {s : FrameState} (rest : List UInt8) (hle : bytes.length ≤ maxBlockSize)
    (hfits : s.out.size + bytes.length ≤ limit) :
    Frame.blocks? header start limit (fuel + 1) (storedBlock last bytes ++ rest) s =
      if last then some (s.out ++ bytes, rest)
      else Frame.blocks? header start limit fuel rest { s with out := s.out ++ bytes } := by
  -- the three bytes hold the last bit, two bits for the kind, and the length
  have hhead : LittleEndian.decode
      (LittleEndian.encode 3 ((if last then 1 else 0) + 8 * bytes.length)) =
      (if last then 1 else 0) + 8 * bytes.length := by
    apply LittleEndian.decode_encode_of_lt
    simp only [maxBlockSize] at hle
    split <;> omega
  have hkind : ((if last then 1 else 0) + 8 * bytes.length) / 2 % 4 = 0 := by split <;> omega
  have hsize : ((if last then 1 else 0) + 8 * bytes.length) / 8 = bytes.length := by split <;> omega
  have hlast : ((if last then 1 else 0) + 8 * bytes.length) % 2 = 1 ↔ last = true := by
    cases last <;> simp <;> omega
  have hblock : Frame.block? header start limit 0 bytes.length (bytes ++ rest) s =
      some ({ s with out := s.out ++ bytes }, rest) := by
    simp only [Frame.block?, Slice.split?_append, Option.bind_eq_bind, Option.bind_some]
    rw [if_neg (by omega)]
  simp only [Frame.blocks?, storedBlock, List.append_assoc,
    Slice.split?_append_of_length (LittleEndian.length_encode 3 _), hhead, hkind, hsize, hlast,
    hblock, Option.bind_eq_bind, Option.bind_some]

/-- `Frame.blocks?` reads `storedBlocks`. Each block takes a byte, so as many steps as bytes are
enough. -/
theorem blocks?_storedBlocks (header : FrameHeader) (start : Nat) {limit more fuel : Nat}
    {bytes : List UInt8} (s : FrameState) (rest : List UInt8)
    (hle : bytes.length ≤ maxBlockSize * (more + 1)) (hfits : s.out.size + bytes.length ≤ limit)
    (hfuel : (storedBlocks more bytes).length ≤ fuel) :
    Frame.blocks? header start limit fuel (storedBlocks more bytes ++ rest) s =
      some (s.out ++ bytes, rest) := by
  have hpos (last : Bool) (bs : List UInt8) : 0 < (storedBlock last bs).length := by
    rw [storedBlock, List.length_append, LittleEndian.length_encode]
    omega
  -- by induction on the blocks that come behind the first
  induction more generalizing bytes fuel s with
  | zero =>
    rw [storedBlocks] at hfuel ⊢
    obtain ⟨fuel, rfl⟩ := Nat.exists_eq_add_of_lt (Nat.lt_of_lt_of_le (hpos true bytes) hfuel)
    rw [Nat.zero_add, blocks?_storedBlock header rest (by omega) hfits, if_pos rfl]
  | succ more ih =>
    rw [storedBlocks] at hfuel ⊢
    split at hfuel
    · rename_i hempty
      have hall := List.drop_eq_nil_iff.mp (List.isEmpty_iff.mp hempty)
      obtain ⟨fuel, rfl⟩ := Nat.exists_eq_add_of_lt (Nat.lt_of_lt_of_le (hpos true bytes) hfuel)
      rw [if_pos hempty, Nat.zero_add, blocks?_storedBlock header rest hall hfits, if_pos rfl]
    · rename_i hmore
      have hlong : maxBlockSize < bytes.length := by
        rw [List.isEmpty_iff, List.drop_eq_nil_iff] at hmore
        omega
      -- a full block, and the rest behind it
      have hfirst : (bytes.take maxBlockSize).length = maxBlockSize := by
        rw [List.length_take]; omega
      have hfirstPos := hpos false (bytes.take maxBlockSize)
      rw [List.length_append] at hfuel
      obtain ⟨fuel, rfl⟩ := Nat.exists_eq_add_of_lt (show 0 < fuel by omega)
      rw [if_neg hmore, Nat.zero_add, List.append_assoc,
        blocks?_storedBlock header _ (Nat.le_of_eq hfirst) (by omega), if_neg (by decide)]
      have hsize : (s.out ++ bytes.take maxBlockSize).size = s.out.size + maxBlockSize := by
        rw [History.size_append, hfirst]
      have hle' : (bytes.drop maxBlockSize).length ≤ maxBlockSize * (more + 1) := by
        rw [List.length_drop, Nat.sub_le_iff_le_add]
        exact hle
      rw [ih { s with out := s.out ++ bytes.take maxBlockSize } hle'
        (by simp only [hsize, List.length_drop]; omega) (by omega)]
      congr 2
      apply Array.ext'
      simp

/-! ### Headers -/

/-- `FrameHeader.decode?` reads a header of a single segment, with its size in `width` bytes. -/
private theorem decode?_single {descriptor : UInt8} {width given : Nat} {size : List UInt8}
    (rest : List UInt8) (hwidth : FrameHeader.sizeWidth (descriptor.toNat / 64) true = width)
    (hsize : size.length = width) (hpos : 0 < width)
    (hgiven : LittleEndian.decode size + (if width = 2 then 256 else 0) = given)
    (hlt : given < 1 <<< 32) (hsingle : descriptor.toNat / 32 % 2 = 1)
    (hreserved : descriptor.toNat / 8 % 2 = 0) (hdictionary : descriptor.toNat % 4 = 0)
    (hchecksum : descriptor.toNat / 4 % 2 = 0) :
    FrameHeader.decode? (descriptor :: (size ++ rest)) =
      some (⟨given, some given, false⟩, rest) := by
  have hdescriptor : Slice.split? 1 (descriptor :: (size ++ rest)) =
      some ([descriptor], size ++ rest) := rfl
  have hnone (bs : List UInt8) : Slice.split? 0 bs = some ([], bs) := rfl
  have hne : size.isEmpty = false := by
    cases size with
    | nil => rw [← hsize] at hpos; exact absurd hpos (Nat.lt_irrefl 0)
    | cons b size => rfl
  -- this size would mean that none is given
  have hlarge : ¬ given = UInt64.size - 1 := by
    intro h
    rw [h] at hlt
    exact absurd hlt (by decide)
  have hwidths : #[0, 1, 2, 4][0]! = 0 := rfl
  simp only [FrameHeader.decode?, hdescriptor, Option.bind_eq_bind, Option.bind_some,
    LittleEndian.decode_cons, LittleEndian.decode_nil, Nat.mul_zero, Nat.add_zero, hsingle,
    hreserved, hdictionary, hchecksum, hwidths, hnone, ne_eq, not_true_eq_false, ↓reduceIte,
    decide_true, hwidth, Slice.split?_append_of_length hsize, hsize, hgiven, hne, hlarge,
    Bool.false_eq_true, or_self]
  rfl

/-- `FrameHeader.decode?` reads the size of a frame in its `header`. -/
theorem decode?_header {n : Nat} (hn : n < 1 <<< 32) (rest : List UInt8) :
    FrameHeader.decode? (header n ++ rest) = some (⟨n, some n, false⟩, rest) := by
  have hdecode {w k : Nat} (h : k < 1 <<< (8 * w)) := LittleEndian.decode_encode_of_lt h
  simp only [header]
  -- the size stands in one byte, in two less 256, or in four
  split
  · exact decode?_single rest rfl (LittleEndian.length_encode 1 n) (by decide)
      (by rw [hdecode (by omega)]; rfl) hn rfl rfl rfl rfl
  · split
    · exact decode?_single rest rfl (LittleEndian.length_encode 2 _) (by decide)
        (by rw [hdecode (by omega)]; exact Nat.sub_add_cancel (by omega)) hn rfl rfl rfl rfl
    · exact decode?_single rest rfl (LittleEndian.length_encode 4 n) (by decide)
        (by rw [hdecode (by omega)]; rfl) hn rfl rfl rfl rfl

/-! ### Frames -/

/-- `Frame.decode?` reads a frame of `storedBlocks`. -/
theorem decode?_stored {plain : List UInt8} (hn : plain.length < 1 <<< 32) :
    Frame.decode? plain.length #[]
        (header plain.length ++ storedBlocks (plain.length / maxBlockSize) plain) =
      some ((#[] : Array UInt8) ++ plain, []) := by
  -- one block more than fit is enough for all bytes
  have hle : plain.length ≤ maxBlockSize * (plain.length / maxBlockSize + 1) := by
    have := Nat.div_add_mod plain.length maxBlockSize
    have := Nat.mod_lt plain.length (show 0 < maxBlockSize by decide)
    rw [Nat.mul_add]
    omega
  have hfits : (#[] : Array UInt8).size + plain.length ≤ plain.length := by simp
  have hblocks := blocks?_storedBlocks ⟨plain.length, some plain.length, false⟩ 0
    ⟨#[], .start, none, none⟩ [] hle hfits (Nat.le_refl _)
  rw [List.append_nil] at hblocks
  simp only [Frame.decode?, decode?_header hn, Option.bind_eq_bind, Option.bind_some, hblocks,
    Array.size_empty, Nat.sub_zero, Frame.sizeFits, History.size_append, Nat.zero_add, decide_true,
    not_true_eq_false, Bool.false_eq_true, ↓reduceIte]

/-- `decode?` reads what `encodeStored` writes. -/
theorem decode?_encodeStored {plain : List UInt8} (hn : plain.length < 1 <<< 32) :
    decode? plain.length (encodeStored plain) = some plain := by
  have hframe := decode?_stored hn
  rw [encodeStored, List.append_assoc]
  generalize header plain.length ++ storedBlocks (plain.length / maxBlockSize) plain =
    frame at hframe ⊢
  have hcons : magic ++ frame = 0x28 :: ([0xB5, 0x2F, 0xFD] ++ frame) := rfl
  have hsplit : Slice.split? 4 (0x28 :: ([0xB5, 0x2F, 0xFD] ++ frame)) = some (magic, frame) := rfl
  have hmagic : isSkipped magic = false := by decide
  simp only [decode?, hcons, List.length_cons, frames?, hsplit, Option.bind_eq_bind,
    Option.bind_some, hmagic, Bool.false_eq_true, ↓reduceIte, hframe]
  rw [Option.map_some, Array.toList_appendList, List.nil_append]

/-- `decode?` reads what `encode` writes, whether its blocks are compressed or not. -/
theorem decode?_encode {plain : List UInt8} (hn : plain.length < 1 <<< 32) :
    decode? plain.length (encode plain) = some plain := by
  rw [encode]
  split
  · assumption
  · exact decode?_encodeStored hn

/-! ### Frames with any room -/

/-- What `Slice.split?` leaves is behind what it takes. -/
private theorem drop_of_split? {n : Nat} {bytes head rest : List UInt8}
    (h : Slice.split? n bytes = some (head, rest)) :
    rest = bytes.drop n := by
  obtain ⟨hlen, rfl⟩ := Slice.split?_eq_some h
  exact (List.drop_left' hlen).symm

/-- `Frame.block?` ends where the header of the block says, whatever room there is for its
output. -/
theorem rest_of_block? {header : FrameHeader} {start limit kind size : Nat}
    {bytes rest : List UInt8} {s s' : FrameState}
    (h : Frame.block? header start limit kind size bytes s = some (s', rest)) :
    rest = bytes.drop (if kind = 1 then 1 else size) := by
  simp only [Frame.block?] at h
  split at h
  · -- stored
    simp only [Option.bind_eq_bind, Option.bind_eq_some_iff, Prod.exists] at h
    obtain ⟨stored, rest', hsplit, h⟩ := h
    split at h
    · cases h
    · cases h
      exact drop_of_split? hsplit
  · -- one byte repeated
    simp only [Option.bind_eq_bind, Option.bind_eq_some_iff, Prod.exists] at h
    obtain ⟨byte, rest', hsplit, h⟩ := h
    split at h
    · cases h
    · cases h
      exact drop_of_split? hsplit
  · -- compressed
    split at h
    · cases h
    · simp only [Option.bind_eq_bind, Option.bind_eq_some_iff, Prod.exists] at h
      obtain ⟨body, rest', hsplit, s₁, -, h⟩ := h
      cases h
      exact drop_of_split? hsplit
  · cases h

/-- `Frame.blocks?` ends in the same place under different limits and states. -/
theorem rest_of_blocks? {header header' : FrameHeader} {start start' limit limit' fuel : Nat}
    {bytes rest rest' : List UInt8} {s s' : FrameState} {out out' : Array UInt8}
    (h : Frame.blocks? header start limit fuel bytes s = some (out, rest))
    (h' : Frame.blocks? header' start' limit' fuel bytes s' = some (out', rest')) :
    rest' = rest := by
  -- by induction on the blocks: both readings come to the same next one
  induction fuel generalizing bytes s s' with
  | zero => cases h
  | succ fuel ih =>
    simp only [Frame.blocks?, Option.bind_eq_bind, Option.bind_eq_some_iff, Prod.exists] at h h'
    obtain ⟨head, tail, hsplit, t, next, hblock, h⟩ := h
    obtain ⟨head', tail', hsplit', t', next', hblock', h'⟩ := h'
    rw [hsplit] at hsplit'
    cases hsplit'
    have hnext := rest_of_block? hblock
    rw [← rest_of_block? hblock'] at hnext
    rw [hnext] at h
    split at h
    · rename_i hlast
      rw [if_pos hlast] at h'
      cases h
      cases h'
      rfl
    · rename_i hlast
      rw [if_neg hlast] at h'
      exact ih h h'

/-- `BlockEncode.encode` gives a block only if it is shorter than its input. -/
theorem length_of_blockEncode {isFirst : Bool} {plain body : List UInt8}
    (h : BlockEncode.encode isFirst plain = some body) : body.length < plain.length := by
  simp only [BlockEncode.encode, Option.bind_eq_bind] at h
  generalize findSequences plain.toArray _ = found at h
  split at h
  · cases h
  · obtain ⟨ss, -, h⟩ := Option.bind_eq_some_iff.mp h
    split at h
    · cases h
    · cases h
      omega

/-- `Frame.decode?` checks the size in the `header` against the output. -/
theorem size_of_frame {n limit : Nat} {blocks rest : List UInt8} {out : Array UInt8}
    (hn : n < 1 <<< 32) (h : Frame.decode? limit #[] (header n ++ blocks) = some (out, rest)) :
    out.size = n ∧ Frame.blocks? ⟨n, some n, false⟩ 0 limit blocks.length blocks ⟨#[], .start, none,
      none⟩ = some (out, rest) := by
  simp only [Frame.decode?, decode?_header hn, Option.bind_eq_bind, Option.bind_some,
    Option.bind_eq_some_iff, Prod.exists, Frame.sizeFits] at h
  obtain ⟨out', rest', hblocks, h⟩ := h
  split at h
  · cases h
  · rename_i hsize
    cases h
    simp only [Array.size_empty, Nat.sub_zero, decide_eq_true_eq, Decidable.not_not] at hsize
    exact ⟨hsize.symm, hblocks⟩

/-- `decode?` of a single frame gives as many bytes as its `header` says, if nothing is left behind
its blocks. -/
theorem length_of_decode?_frame {n limit : Nat} {blocks plain : List UInt8} (hn : n < 1 <<< 32)
    (hend : ∀ out rest, Frame.blocks? ⟨n, some n, false⟩ 0 limit blocks.length blocks ⟨#[], .start,
      none, none⟩ = some (out, rest) →
      rest = [])
    (h : decode? limit (magic ++ (header n ++ blocks)) = some plain) : plain.length = n := by
  generalize hframe : header n ++ blocks = frame at h
  have hsplit : Slice.split? 4 (0x28 :: ([0xB5, 0x2F, 0xFD] ++ frame)) = some (magic, frame) := rfl
  have hmagic : isSkipped magic = false := by decide
  have hcons : magic ++ frame = 0x28 :: ([0xB5, 0x2F, 0xFD] ++ frame) := rfl
  simp only [decode?, hcons, List.length_cons, frames?, hsplit, Option.bind_eq_bind,
    Option.bind_some, hmagic, Bool.false_eq_true, ↓reduceIte, Option.map_eq_some_iff,
    Option.bind_eq_some_iff, Prod.exists] at h
  obtain ⟨all, ⟨out, rest, hdecode, hframes⟩, rfl⟩ := h
  rw [← hframe] at hdecode
  obtain ⟨hsize, hblocks⟩ := size_of_frame hn hdecode
  -- the blocks end with the input, so no other frame follows
  obtain rfl := hend out rest hblocks
  rw [frames?] at hframes
  cases hframes
  rw [Array.length_toList, hsize]

/-- Behind a block of a known size `Frame.blocks?` reads the next one, unless it was the last. -/
theorem blocks?_of_block {header : FrameHeader} {start limit fuel kind : Nat} {last : Bool}
    {body bytes rest : List UInt8} {s : FrameState} {out : Array UInt8} (hkind : kind < 4)
    (hne : kind ≠ 1) (hlt : body.length < 1 <<< 20)
    (h : Frame.blocks? header start limit (fuel + 1)
      (LittleEndian.encode 3 ((if last then 1 else 0) + 2 * kind + 8 * body.length) ++
      body ++ bytes) s =
        some (out, rest)) :
    if last then rest = bytes
    else ∃ s', Frame.blocks? header start limit fuel bytes s' = some (out, rest) := by
  -- the three bytes hold the last bit, two bits for the kind, and the length
  have hhead : LittleEndian.decode
      (LittleEndian.encode 3 ((if last then 1 else 0) + 2 * kind + 8 * body.length)) =
      (if last then 1 else 0) + 2 * kind + 8 * body.length := by
    apply LittleEndian.decode_encode_of_lt
    split <;> omega
  have hkind' : ((if last then 1 else 0) + 2 * kind + 8 * body.length) / 2 % 4 = kind := by
    split <;> omega
  have hsize : ((if last then 1 else 0) + 2 * kind + 8 * body.length) / 8 = body.length := by
    split <;> omega
  have hlast : ((if last then 1 else 0) + 2 * kind + 8 * body.length) % 2 = 1 ↔ last = true := by
    cases last <;> simp <;> omega
  rw [List.append_assoc] at h
  simp only [Frame.blocks?, Slice.split?_append_of_length (LittleEndian.length_encode 3 _),
    Option.bind_eq_bind, Option.bind_some, hhead, hkind', hsize, hlast, Option.bind_eq_some_iff,
    Prod.exists] at h
  obtain ⟨s', next, hblock, h⟩ := h
  have hnext : next = bytes := by
    rw [rest_of_block? hblock, if_neg hne, List.drop_left]
  subst hnext
  cases last with
  | true =>
    rw [if_pos rfl] at h
    cases h
    rfl
  | false =>
    rw [if_neg Bool.false_ne_true] at h
    exact ⟨s', h⟩

/-- `blocks?_of_block` for a `suitedBlock`, compressed or not. -/
theorem blocks?_suitedBlock {header : FrameHeader} {start limit fuel : Nat} {isFirst last : Bool}
    {plain bytes rest : List UInt8} {s : FrameState} {out : Array UInt8}
    (hle : plain.length ≤ maxBlockSize)
    (h : Frame.blocks? header start limit (fuel + 1) (suitedBlock isFirst last plain ++ bytes) s =
      some (out, rest)) :
    if last then rest = bytes
    else ∃ s', Frame.blocks? header start limit fuel bytes s' = some (out, rest) := by
  simp only [maxBlockSize] at hle
  rw [suitedBlock] at h
  split at h
  · rename_i body hbody
    have hlt := length_of_blockEncode hbody
    -- a compressed block is of kind 2
    have hhead : (if last then 5 else 4) + 8 * body.length =
        (if last then 1 else 0) + 2 * 2 + 8 * body.length := by split <;> rfl
    rw [hhead] at h
    exact blocks?_of_block (by decide) (by decide) (by omega) h
  · have hhead : (if last then 1 else 0) + 8 * plain.length =
        (if last then 1 else 0) + 2 * 0 + 8 * plain.length := rfl
    rw [storedBlock, hhead] at h
    exact blocks?_of_block (by decide) (by decide) (by omega) h

/-- `Frame.blocks?` leaves nothing behind `suitedBlocks`. -/
theorem rest_of_suitedBlocks {header : FrameHeader} {start limit fuel more : Nat} {isFirst : Bool}
    {plain rest : List UInt8} {s : FrameState} {out : Array UInt8}
    (hle : plain.length ≤ maxBlockSize * (more + 1))
    (h : Frame.blocks? header start limit fuel (suitedBlocks more isFirst plain) s =
      some (out, rest)) : rest = [] := by
  -- by induction on the blocks that come behind the first
  induction more generalizing plain isFirst fuel s with
  | zero =>
    cases fuel with
    | zero => cases h
    | succ fuel =>
      rw [suitedBlocks, ← List.append_nil (suitedBlock _ _ _)] at h
      simpa using blocks?_suitedBlock (by omega) h
  | succ more ih =>
    cases fuel with
    | zero => cases h
    | succ fuel =>
      rw [suitedBlocks] at h
      split at h
      · rename_i hempty
        have hall := List.drop_eq_nil_iff.mp (List.isEmpty_iff.mp hempty)
        rw [← List.append_nil (suitedBlock _ _ _)] at h
        simpa using blocks?_suitedBlock hall h
      · have hfirst : (plain.take maxBlockSize).length ≤ maxBlockSize := by
          rw [List.length_take]; omega
        obtain ⟨s', hrest⟩ := blocks?_suitedBlock hfirst h
        refine ih ?_ hrest
        rw [List.length_drop, Nat.sub_le_iff_le_add]
        exact hle

/-- `n / maxBlockSize + 1` blocks are enough for `n` bytes. -/
theorem length_le_blocks (n : Nat) : n ≤ maxBlockSize * (n / maxBlockSize + 1) := by
  have := Nat.div_add_mod n maxBlockSize
  have := Nat.mod_lt n (show 0 < maxBlockSize by decide)
  rw [Nat.mul_add]
  omega

/-- `decode?` of what `encode` writes gives as many bytes as there were, under any limit, if it
succeeds. -/
theorem length_of_decode?_encode {limit : Nat} {plain out : List UInt8}
    (hn : plain.length < 1 <<< 32) (h : decode? limit (encode plain) = some out) :
    out.length = plain.length := by
  rw [encode] at h
  split at h
  · rw [encodeSuited, List.append_assoc] at h
    exact length_of_decode?_frame hn
      (fun o rest hblocks => rest_of_suitedBlocks (length_le_blocks plain.length) hblocks) h
  · rw [encodeStored, List.append_assoc] at h
    refine length_of_decode?_frame hn (fun o rest hblocks => ?_) h
    exact rest_of_blocks? (size_of_frame hn (decode?_stored hn)).2 hblocks

end DocGateway.Zstd
