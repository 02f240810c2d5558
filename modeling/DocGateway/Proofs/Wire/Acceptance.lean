import DocGateway.Proofs.Wire.Reading
/-!
# Exactly the grammar is decoded

`Message.decode` gives a message exactly for the byte strings that spell it. Frames and envelopes
are taken one at a time (`openFrame_plain_iff`, `openFrame_envelope_iff`); how often envelopes are
nested is left to an induction over the grammar in one direction, and over the steps of the decoder
in the other. What spells a message never comes to a frame for the second time: the frames around it
spell deeper messages (`AreAround`), and each spells one only.

## Key results

- `expand_eq_ok_iff`: payloads that expand to as many bytes as declared
- `splitFrame_eq_ok_iff`: a frame is exactly its bytes
- `Spells.unique`: a byte string spells one message at most
- `decode_of_spells`: what spells a message is decoded to it
- `spells_of_decode`: what is decoded spells the message
-/

namespace DocGateway.Wire

/-! ### Payloads -/

/-- A block that `Snappy.decode?` takes announces what it expands to. -/
theorem announced?_of_decode? {block plain : List UInt8} (h : Snappy.decode? block = some plain) :
    Snappy.announced? block = some plain.length := by
  simp only [Snappy.decode?, Option.bind_eq_bind, Option.bind_eq_some_iff, Prod.exists] at h
  obtain ⟨length, rest, hpre, out, -, h⟩ := h
  split at h
  · rename_i hsize
    obtain rfl := Option.some.inj h
    have hne : block ≠ [] := by rintro rfl; cases hpre
    simp [Snappy.announced?, hne, hpre, hsize]
  · cases h

/-- `expand` succeeds exactly if the payload expands to as many bytes as declared, and these are not
too many. -/
theorem expand_eq_ok_iff {c : Compressor} {payload plain : List UInt8} {declared : Int32} :
    expand c payload declared = .ok plain ↔
      declared.toInt = plain.length ∧ plain.length ≤ maxMessageSize ∧
        c.decompress? plain.length payload = some plain := by
  constructor
  · intro h
    simp only [expand, bind, Except.bind] at h
    split at h
    · cases h  -- the declared size is out of range
    · rename_i hrange
      split at h
      · cases h  -- another size is announced
      · split at h
        · cases h  -- the payload is malformed
        · rename_i out hout
          split at h
          · rename_i hlen
            obtain rfl := Except.ok.inj h
            rw [hlen]
            exact ⟨by omega, by omega, hout⟩
          · cases h  -- it expands to another size
  · rintro ⟨hdecl, hle, hout⟩
    -- only snappy announces a size of its own; what can be read announces the right one
    have hann : checkAnnounced c payload declared = .ok () := by
      cases c with
      | snappy =>
        simp only [checkAnnounced, announced?_of_decode? hout]
        rw [if_pos hdecl.symm]
      | _ => rfl
    have hsize : declared.toInt.toNat = plain.length := by omega
    simp only [expand, bind, Except.bind, hann, hsize]
    rw [if_neg (by omega), hout]
    simp

/-! ### Frames -/

/-- `splitFrame` succeeds exactly on frames, which it parts into header and body. -/
theorem splitFrame_eq_ok_iff {bs header body : List UInt8} {h : Header} :
    splitFrame bs = .ok (h, header, body) ↔ IsFrame bs h body ∧ header = h.bytes := by
  constructor
  · intro hsplit
    obtain ⟨hpeek, hsize, rfl, rfl⟩ := splitFrame_eq_ok hsplit
    obtain ⟨hlen, rfl, hv⟩ := Header.peek_eq_some_iff.mp hpeek
    -- the header is there, and its length is that of all bytes
    obtain ⟨hmin, hmax⟩ := Header.validLength_iff.mp hv
    simp only [Header.size, headerSize] at *
    have hbytes := Header.bytes_ofBytes (show (bs.take 16).length = 16 by simp; omega)
    refine ⟨⟨?_, ?_, ?_⟩, hbytes.symm⟩
    · rw [hbytes, List.take_append_drop]
    · omega
    · omega
  · rintro ⟨⟨rfl, hlen, hmax⟩, rfl⟩
    have hheader : headerSize = h.bytes.length := (Header.length_bytes h).symm
    -- the other way round: the header is found again in front of its bytes
    have hfound : Header.peek (h.bytes ++ body) = .ok (some h) := by
      rw [Header.peek_eq_some_iff, hheader, List.take_left, Header.ofBytes_bytes,
        Header.validLength_iff, hlen, hheader]
      simp only [List.length_append] at *
      exact ⟨by omega, trivial, by omega, by omega⟩
    have hsize : h.size = (h.bytes ++ body).length := by
      rw [Header.size, hlen, Int.toNat_natCast]
    simp only [splitFrame, bind, Except.bind, hfound, hsize, Nat.lt_irrefl, ↓reduceIte, hheader,
      List.take_left, List.drop_left]

/-- `reframe` gives the only frame around a payload with these numbers, if the payload is not too
long: the length in a header is that of its frame. -/
theorem isFrame_iff_eq_reframe {framed plain : List UInt8} {h : Header} {opcode : Int32}
    (hle : plain.length ≤ maxMessageSize) :
    (∃ length, IsFrame framed ⟨length, h.requestId, h.responseTo, opcode⟩ plain) ↔
      framed = reframe h opcode plain ∧
        Header.validLength (Int32.ofNat (plain.length + headerSize)) = true := by
  have htoInt : (Int32.ofNat (plain.length + headerSize)).toInt =
      (plain.length + headerSize : Nat) :=
    Int32.toInt_ofNat_of_lt (by simp only [maxMessageSize, headerSize] at *; omega)
  rw [Header.validLength_iff, htoInt]
  constructor
  · rintro ⟨length, rfl, hlen, hmax⟩
    simp only [List.length_append, Header.length_bytes] at hlen hmax
    -- a length is told by its number, as no frame is too long for that
    obtain rfl : length = Int32.ofNat (plain.length + headerSize) := by
      rw [← Int32.toInt_inj, htoInt, hlen, headerSize]
      omega
    exact ⟨rfl, by omega, by simp only [headerSize]; omega⟩
  · rintro ⟨rfl, -, hmax⟩
    refine ⟨_, rfl, ?_, ?_⟩
    · rw [htoInt, reframe, List.length_append, Header.length_bytes, headerSize, Nat.add_comm]
    · simp only [reframe, List.length_append, Header.length_bytes]
      simp only [headerSize] at hmax
      omega

/-! ### Envelopes -/

/-- `readEnvelope` succeeds exactly on what `Spells.envelope` asks of a body, and gives the frame
inside. -/
theorem readEnvelope_eq_ok_iff {h : Header} {body : List UInt8} {o : Opened} :
    readEnvelope h body = .ok o ↔
      ∃ opcode size length payload plain c framed,
        body = LittleEndian.int32 opcode ++ (LittleEndian.int32 size ++ (c.id :: payload)) ∧
        c.decompress? plain.length payload = some plain ∧ size.toInt = plain.length ∧
        IsFrame framed ⟨length, h.requestId, h.responseTo, opcode⟩ plain ∧
        o = .envelope c framed := by
  constructor
  · intro hread
    simp only [readEnvelope, bind, Except.bind] at hread
    split at hread
    · cases hread  -- the envelope is too short
    · rename_i head hhead
      obtain ⟨⟨opcode, size, id⟩, payload⟩ := head
      obtain rfl := readEnvelopeHead_eq_ok_iff.mp hhead
      split at hread
      · cases hread  -- the compressor is unknown
      · rename_i c hc
        obtain rfl := Compressor.ofId?_eq_some_iff.mp hc
        split at hread
        · cases hread  -- the payload does not expand
        · rename_i plain hplain
          obtain ⟨hsize, hle, hplain⟩ := expand_eq_ok_iff.mp hplain
          split at hread
          · rename_i hv
            obtain ⟨length, hframed⟩ := (isFrame_iff_eq_reframe hle).mpr ⟨rfl, hv⟩
            exact ⟨opcode, size, length, payload, plain, c, _, rfl, hplain, hsize, hframed,
              (Except.ok.inj hread).symm⟩
          · cases hread  -- the frame inside is too long
  · rintro ⟨opcode, size, length, payload, plain, c, framed, rfl, hplain, hsize, hframed, rfl⟩
    -- the payload is shorter than the frame around it, which is not too long
    have hle : plain.length ≤ maxMessageSize := by
      have := hframed.length_le
      rw [hframed.eq_append, List.length_append] at this
      omega
    obtain ⟨rfl, hv⟩ := (isFrame_iff_eq_reframe hle).mp ⟨length, hframed⟩
    simp only [readEnvelope, bind, Except.bind, readEnvelopeHead_eq_ok_iff.mpr rfl,
      Compressor.ofId?_id, expand_eq_ok_iff.mpr ⟨hsize, hle, hplain⟩, hv, ↓reduceIte]

/-! ### One frame -/

/-- `openFrame` succeeds exactly on frames with a known opcode whose body `openBody` takes. -/
theorem openFrame_eq_ok_iff {bs : List UInt8} {h : Header} {o : Opened} :
    openFrame bs = .ok (h, o) ↔
      ∃ op body, IsFrame bs h body ∧ h.opcode = op.code ∧ openBody h h.bytes body op = .ok o := by
  constructor
  · intro hopen
    simp only [openFrame, bind, Except.bind] at hopen
    split at hopen
    · cases hopen  -- not a frame
    · rename_i cut hcut
      obtain ⟨h', header, body⟩ := cut
      obtain ⟨hframe, rfl⟩ := splitFrame_eq_ok_iff.mp hcut
      split at hopen
      · cases hopen  -- the opcode is unknown
      · rename_i op hop
        split at hopen
        · cases hopen  -- the body cannot be read
        · rename_i o' ho
          obtain ⟨rfl, rfl⟩ := Prod.mk.inj (Except.ok.inj hopen)
          exact ⟨op, body, hframe, Opcode.ofCode?_eq_some_iff.mp hop, ho⟩
  · rintro ⟨op, body, hframe, hop, ho⟩
    simp only [openFrame, bind, Except.bind, splitFrame_eq_ok_iff.mpr ⟨hframe, rfl⟩,
      Opcode.ofCode?_eq_some_iff.mpr hop, ho]
    rfl

/-- `f <$> x` succeeds where `x` does. -/
private theorem fmap_eq_ok_iff {α β : Type} {f : α → β} {x : Except WireError α} {b : β} :
    f <$> x = .ok b ↔ ∃ a, x = .ok a ∧ f a = b := by
  cases x <;> simp [Functor.map, Except.map]

/-- `openBody` has a reader of its own for each kind of body, and an envelope is none of them. -/
theorem openBody_plain_iff {h : Header} {body : List UInt8} {op : Opcode} {b : Body} :
    openBody h h.bytes body op = .ok (.plain b) ↔
      op = b.opcode ∧ IsPlainBody h.bytes body b := by
  constructor
  · intro hopen
    cases op with
    | query =>
      obtain ⟨q, hq, hb⟩ := fmap_eq_ok_iff.mp hopen
      cases hb
      exact ⟨rfl, (readQuery_eq_ok_iff _).mp hq⟩
    | getMore =>
      obtain ⟨g, hg, hb⟩ := fmap_eq_ok_iff.mp hopen
      cases hb
      exact ⟨rfl, (readGetMore_eq_ok_iff _).mp hg⟩
    | killCursors =>
      obtain ⟨k, hk, hb⟩ := fmap_eq_ok_iff.mp hopen
      cases hb
      exact ⟨rfl, (readKillCursors_eq_ok_iff _).mp hk⟩
    | reply =>
      obtain ⟨r, hr, hb⟩ := fmap_eq_ok_iff.mp hopen
      cases hb
      exact ⟨rfl, (readReply_eq_ok_iff _).mp hr⟩
    | msg =>
      obtain ⟨m, hm, hb⟩ := fmap_eq_ok_iff.mp hopen
      cases hb
      exact ⟨rfl, readMsg_eq_ok_iff.mp hm⟩
    | compressed =>
      obtain ⟨_, _, _, _, _, _, _, -, -, -, -, hb⟩ := readEnvelope_eq_ok_iff.mp hopen
      cases hb
  -- the other way round the kind of the body picks its reader
  · rintro ⟨rfl, hbody⟩
    cases b with
    | query q => exact fmap_eq_ok_iff.mpr ⟨q, (readQuery_eq_ok_iff _).mpr hbody, rfl⟩
    | getMore g => exact fmap_eq_ok_iff.mpr ⟨g, (readGetMore_eq_ok_iff _).mpr hbody, rfl⟩
    | killCursors k => exact fmap_eq_ok_iff.mpr ⟨k, (readKillCursors_eq_ok_iff _).mpr hbody, rfl⟩
    | reply r => exact fmap_eq_ok_iff.mpr ⟨r, (readReply_eq_ok_iff _).mpr hbody, rfl⟩
    | msg m => exact fmap_eq_ok_iff.mpr ⟨m, readMsg_eq_ok_iff.mpr hbody, rfl⟩
    | compressed c inner => cases hbody

/-- `openBody` gives a frame inside for an envelope only. -/
theorem openBody_envelope_iff {h : Header} {header body framed : List UInt8} {op : Opcode}
    {c : Compressor} :
    openBody h header body op = .ok (.envelope c framed) ↔
      op = .compressed ∧ readEnvelope h body = .ok (.envelope c framed) := by
  cases op with
  | compressed => simp [openBody]
  | _ => simp [openBody, fmap_eq_ok_iff]

/-- `openFrame` gives a body exactly for a frame around what `IsPlainBody` describes. -/
theorem openFrame_plain_iff {bs : List UInt8} {h : Header} {b : Body} :
    openFrame bs = .ok (h, .plain b) ↔
      ∃ body, IsFrame bs h body ∧ h.opcode = b.opcode.code ∧ IsPlainBody h.bytes body b := by
  simp only [openFrame_eq_ok_iff, openBody_plain_iff]
  constructor
  · rintro ⟨_, body, hframe, hop, rfl, hbody⟩
    exact ⟨body, hframe, hop, hbody⟩
  · rintro ⟨body, hframe, hop, hbody⟩
    exact ⟨_, body, hframe, hop, rfl, hbody⟩

/-- `openFrame` gives a frame inside exactly for a frame around an envelope. -/
theorem openFrame_envelope_iff {bs framed : List UInt8} {h : Header} {c : Compressor} :
    openFrame bs = .ok (h, .envelope c framed) ↔
      ∃ opcode size length payload plain,
        IsFrame bs h (LittleEndian.int32 opcode ++ (LittleEndian.int32 size ++ (c.id :: payload))) ∧
        h.opcode = Opcode.compressed.code ∧ c.decompress? plain.length payload = some plain ∧
        size.toInt = plain.length ∧
        IsFrame framed ⟨length, h.requestId, h.responseTo, opcode⟩ plain := by
  -- both ways, the parts of the envelope are those that its reader names
  simp only [openFrame_eq_ok_iff, openBody_envelope_iff, readEnvelope_eq_ok_iff]
  constructor
  · rintro ⟨_, _, hframe, hop, rfl, opcode, size, length, payload, plain, c', framed', rfl, hplain,
      hsize, hframed, ho⟩
    obtain ⟨rfl, rfl⟩ := Opened.envelope.inj ho
    exact ⟨opcode, size, length, payload, plain, hframe, hop, hplain, hsize, hframed⟩
  · rintro ⟨opcode, size, length, payload, plain, hframe, hop, hplain, hsize, hframed⟩
    exact ⟨_, _, hframe, hop, rfl, opcode, size, length, payload, plain, c, framed, rfl, hplain,
      hsize, hframed, rfl⟩

/-! ### Messages -/

/-- `Spells` holds of one message at most for each byte string. -/
theorem Spells.unique {bs : List UInt8} {m m' : Message} (h : Spells bs m) (h' : Spells bs m') :
    m = m' := by
  -- both messages come from opening the same frame, which is a function
  induction h generalizing m' with
  | plain hframe hop hbody =>
    have hopen := openFrame_plain_iff.mpr ⟨_, hframe, hop, hbody⟩
    cases h' with
    | plain hframe' hop' hbody' =>
      rw [openFrame_plain_iff.mpr ⟨_, hframe', hop', hbody'⟩] at hopen
      cases hopen
      rfl
    | envelope hframe' hop' hplain' hsize' hframed' =>
      rw [openFrame_envelope_iff.mpr ⟨_, _, _, _, _, hframe', hop', hplain', hsize',
        hframed'⟩] at hopen
      cases hopen
  | envelope hframe hop hplain hsize hframed _ ih =>
    have hopen := openFrame_envelope_iff.mpr ⟨_, _, _, _, _, hframe, hop, hplain, hsize, hframed⟩
    cases h' with
    | plain hframe' hop' hbody' =>
      rw [openFrame_plain_iff.mpr ⟨_, hframe', hop', hbody'⟩] at hopen
      cases hopen
    | envelope hframe' hop' hplain' hsize' hframed' hspells' =>
      rw [openFrame_envelope_iff.mpr ⟨_, _, _, _, _, hframe', hop', hplain', hsize',
        hframed'⟩] at hopen
      cases hopen
      rw [ih hspells']

/-- How many envelopes a body is in. -/
def Body.depth (b : Body) : Nat := b.unwrap.1.length

/-- `depth` of an envelope is one more than that of what it holds. -/
theorem Body.depth_compressed (c : Compressor) (b : Body) :
    (Body.compressed c b).depth = b.depth + 1 := rfl

/-- The frames around what spells a message spell deeper ones. -/
def AreAround (outer : List (List UInt8)) (m : Message) : Prop :=
  ∀ bs ∈ outer, ∃ m', Spells bs m' ∧ m.body.depth < m'.body.depth

/-- No frame stands inside itself: all that spell it are equally deep. -/
theorem AreAround.not_mem {outer : List (List UInt8)} {bs : List UInt8} {m : Message}
    (houter : AreAround outer m) (h : Spells bs m) : bs ∉ outer := by
  intro hmem
  obtain ⟨m', hm', hdepth⟩ := houter bs hmem
  rw [h.unique hm'] at hdepth
  exact Nat.lt_irrefl _ hdepth

/-- `readInside` gives the message that a frame spells, whatever frames are around. -/
theorem readInside_of_spells {outer : List (List UInt8)} {bs : List UInt8} {m : Message}
    (h : Spells bs m) (houter : AreAround outer m) : Message.readInside outer bs = .ok m := by
  -- by induction on what is spelled, with more frames around for each envelope
  induction h generalizing outer with
  | plain hframe hop hbody =>
    exact Message.readInside_of_plain (houter.not_mem (.plain hframe hop hbody))
      (openFrame_plain_iff.mpr ⟨_, hframe, hop, hbody⟩)
  | @envelope bs payload plain framed h opcode size length c m hframe hop hplain hsize hframed
      hspells ih =>
    have hbs : Spells bs ⟨h.requestId, h.responseTo, .compressed c m.body⟩ :=
      .envelope hframe hop hplain hsize hframed hspells
    -- the envelope is one of the frames around its payload, and it is deeper
    have haround : AreAround (bs :: outer) m := by
      intro v hv
      rcases List.mem_cons.mp hv with rfl | hv
      · refine ⟨_, hbs, ?_⟩
        rw [Body.depth_compressed]
        exact Nat.lt_succ_self _
      · obtain ⟨m', hm', hdepth⟩ := houter v hv
        rw [Body.depth_compressed] at hdepth
        exact ⟨m', hm', Nat.lt_of_succ_lt hdepth⟩
    rw [Message.readInside_of_envelope (houter.not_mem hbs)
      (openFrame_envelope_iff.mpr ⟨_, _, _, _, _, hframe, hop, hplain, hsize, hframed⟩),
      ih haround]
    rfl

/-- `Message.decode` gives the message that a byte string spells. -/
theorem decode_of_spells {bs : List UInt8} {m : Message} (h : Spells bs m) :
    Message.decode bs = .ok m :=
  readInside_of_spells h fun _ hv => absurd hv List.not_mem_nil

/-- What `readInside` reads spells the message, whatever frames are around. -/
theorem spells_of_readInside {outer : List (List UInt8)} {bs : List UInt8} {m : Message}
    (h : Message.readInside outer bs = .ok m) : Spells bs m := by
  -- one case for each way in which a frame can be read
  fun_induction Message.readInside outer bs generalizing m with
  | case1 outer bs hmem => cases h
  | case2 outer bs hnew e hopen => cases h
  | case3 outer bs hnew head body hopen =>
    obtain ⟨_, hframe, hop, hbody⟩ := openFrame_plain_iff.mp hopen
    cases h
    exact .plain hframe hop hbody
  | case4 outer bs hnew head c inner hopen ih =>
    obtain ⟨opcode, size, length, payload, plain, hframe, hop, hplain, hsize, hframed⟩ :=
      openFrame_envelope_iff.mp hopen
    cases hread : Message.readInside (bs :: outer) inner with
    | error e =>
      rw [hread] at h
      cases h
    | ok m' =>
      rw [hread] at h
      cases h
      exact .envelope hframe hop hplain hsize hframed (ih hread)

/-- What `Message.decode` decodes spells the message. -/
theorem spells_of_decode {bs : List UInt8} {m : Message} (h : Message.decode bs = .ok m) :
    Spells bs m :=
  spells_of_readInside h

/-- `Message.decode` gives a message exactly for the byte strings that `Spells` it by the grammar,
envelopes nested to any depth. -/
theorem decode_eq_ok_iff_spells (bs : List UInt8) (m : Message) :
    Message.decode bs = .ok m ↔ Spells bs m :=
  ⟨spells_of_decode, decode_of_spells⟩

end DocGateway.Wire
