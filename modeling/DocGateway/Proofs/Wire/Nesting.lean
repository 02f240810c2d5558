import DocGateway.Proofs.Wire.Acceptance
import Mathlib.Data.FinEnum
import Mathlib.Data.Set.Finite.List
import Mathlib.Tactic.Linarith
/-!
# Envelopes without end

The frames of a message are the one that arrives, and with each envelope the one inside. Nothing
bounds the depth: a payload may expand to an envelope as long as the one around it, or to that very
envelope. So the frames end unless one of them comes for the second time, and then they go round for
ever. Where they end the message is what the last one makes it, and the decoder finds that out; it
reports those that never end.

## Key results

- `ends_iff_eq`: frames that end are those that do not come again
- `decodes_readInside`, `readInside_of_not_ends`: what the decoder gives in both cases
- `ends_of_shrinking`: payloads that expand little do not go on for ever
- `ends_decides`: all of it, for every byte string
- `not_ends_selfEnclosing`: an envelope whose payload expands to the envelope itself
-/

namespace DocGateway.Wire

/-! ### Frames inside one another -/

/-- The frame in the envelope that a frame holds. -/
def inside? (bs : List UInt8) : Option (List UInt8) :=
  match openFrame bs with
  | .ok (_, .envelope _ inner) => some inner
  | _ => none

/-- The frame at a depth, if the envelopes go down to it. -/
def frameAt (bs : List UInt8) : Nat → Option (List UInt8)
  | 0 => some bs
  | depth + 1 => (frameAt bs depth).bind inside?

/-- The frames come to one that is no envelope, or cannot be opened. -/
def Ends (bs : List UInt8) : Prop :=
  ∃ depth last, frameAt bs depth = some last ∧ inside? last = none

variable {bs inner last : List UInt8}

/-- `inside?` gives the frame in an envelope. -/
theorem inside?_eq_some_iff :
    inside? bs = some inner ↔ ∃ h c, openFrame bs = .ok (h, .envelope c inner) := by
  rw [inside?]
  split
  · rename_i h c inner' hopen
    simp [hopen]
  · rename_i hne
    simp only [reduceCtorEq, false_iff]
    rintro ⟨h, c, hopen⟩
    exact hne h c inner hopen

/-- The frame at depth `m + n` is at depth `n` of the one at depth `m`. -/
theorem frameAt_add (bs : List UInt8) (m n : Nat) :
    frameAt bs (m + n) = (frameAt bs m).bind (frameAt · n) := by
  induction n with
  | zero => cases frameAt bs m <;> rfl
  | succ n ih =>
    rw [← Nat.add_assoc, frameAt, ih]
    cases frameAt bs m <;> rfl

/-- `frameAt` of an envelope, one deeper, is that of the frame inside. -/
theorem frameAt_succ_of_inside (hinside : inside? bs = some inner) (depth : Nat) :
    frameAt bs (depth + 1) = frameAt inner depth := by
  rw [Nat.add_comm, frameAt_add]
  simp [frameAt, hinside]

/-- A frame that has another inside is no longer than `maxMessageSize`. -/
theorem length_le_of_inside (hinside : inside? bs = some inner) : bs.length ≤ maxMessageSize := by
  obtain ⟨h, c, hopen⟩ := inside?_eq_some_iff.mp hinside
  exact length_le_of_openFrame hopen

/-- `Ends` holds of a frame with no other inside, which is the last one. -/
theorem ends_of_inside (hinside : inside? bs = none) : Ends bs := ⟨0, bs, rfl, hinside⟩

/-- `Ends` holds if it holds of a frame that `frameAt` finds. -/
theorem ends_of_frameAt {depth : Nat} {frame : List UInt8} (hframe : frameAt bs depth = some frame)
    (hends : Ends frame) : Ends bs := by
  obtain ⟨more, last, hlast, hnone⟩ := hends
  exact ⟨depth + more, last, by rw [frameAt_add, hframe]; exact hlast, hnone⟩

/-- `frameAt` finds nothing behind the last frame. -/
theorem frameAt_of_gt {depth : Nat} (hlast : frameAt bs depth = some last)
    (hnone : inside? last = none) {deeper : Nat}
    (hlt : depth < deeper) : frameAt bs deeper = none := by
  obtain ⟨more, rfl⟩ := Nat.exists_eq_add_of_lt hlt
  rw [Nat.add_assoc, Nat.add_comm more, frameAt_add, hlast]
  change frameAt last (1 + more) = none
  rw [frameAt_add]
  simp [frameAt, hnone]

/-- `frameAt` finds a frame at every depth if the frames do not end. -/
theorem exists_frameAt (hends : ¬ Ends bs) (depth : Nat) :
    ∃ frame inner, frameAt bs depth = some frame ∧ inside? frame = some inner := by
  -- by induction on the depth: an envelope without a last frame has an envelope in it
  induction depth with
  | zero =>
    cases hinside : inside? bs with
    | none => exact absurd (ends_of_inside hinside) hends
    | some inner => exact ⟨bs, inner, rfl, hinside⟩
  | succ depth ih =>
    obtain ⟨frame, inner, hframe, hinner⟩ := ih
    have hnext : frameAt bs (depth + 1) = some inner := by rw [frameAt, hframe]; exact hinner
    cases hinside : inside? inner with
    | none => exact absurd ⟨depth + 1, inner, hnext, hinside⟩ hends
    | some inner' => exact ⟨inner, inner', hnext, hinside⟩

/-! ### Frames that come again -/

/-- `frameAt` that finds a frame again finds it again and again. -/
theorem frameAt_add_mul {frame : List UInt8} {depth period : Nat}
    (hfirst : frameAt bs depth = some frame) (hagain : frameAt bs (depth + period) = some frame)
    (rounds : Nat) :
    frameAt bs (depth + rounds * period) = some frame := by
  have hround : frameAt frame period = some frame := by
    rw [frameAt_add, hfirst] at hagain
    exact hagain
  induction rounds with
  | zero => rw [Nat.zero_mul]; exact hfirst
  | succ rounds ih => rw [Nat.succ_mul, ← Nat.add_assoc, frameAt_add, ih]; exact hround

/-- `Ends` holds exactly if no frame comes again: there are finitely many frames that can have
another inside. -/
theorem ends_iff_eq : Ends bs ↔ ∀ i j frame, frameAt bs i = some frame →
      frameAt bs j = some frame → i = j := by
  constructor
  · rintro ⟨depth, last, hlast, hnone⟩
    -- a frame that comes again comes at depths behind the last
    have hnot (i period : Nat) (frame : List UInt8) (hi : frameAt bs i = some frame) :
        frameAt bs (i + (period + 1)) ≠ some frame := by
      intro hj
      have hagain := frameAt_add_mul hi hj (depth + 1)
      have hlt : depth < i + (depth + 1) * (period + 1) := by nlinarith
      rw [frameAt_of_gt hlast hnone hlt] at hagain
      cases hagain
    intro i j frame hi hj
    obtain hlt | heq | hlt := Nat.lt_trichotomy i j
    · obtain ⟨period, rfl⟩ := Nat.exists_eq_add_of_lt hlt
      exact absurd hj (hnot i period frame hi)
    · exact heq
    · obtain ⟨period, rfl⟩ := Nat.exists_eq_add_of_lt hlt
      exact absurd hi (hnot j period frame hj)
  · intro hinjective
    -- frames that never end are pairwise different, but there are only finitely many so short
    by_contra hends
    choose frame inner hframe hinner using exists_frameAt hends
    have hinj : Function.Injective frame :=
      fun i j heq => hinjective i j (frame i) (hframe i) (heq ▸ hframe j)
    have hmem : ∀ depth, frame depth ∈ {l : List UInt8 | l.length ≤ maxMessageSize} :=
      fun depth => length_le_of_inside (hinner depth)
    exact Set.infinite_of_injective_forall_mem hinj hmem
      (List.finite_length_le UInt8 maxMessageSize)

/-! ### What is decoded -/

/-- What there is to decode, if it comes to an end: what the last frame holds, in the envelopes
around it. -/
inductive Decodes : List UInt8 → Except WireError Message → Prop
  | failed {bs : List UInt8} {e : WireError} : openFrame bs = .error e → Decodes bs (.error e)
  | plain {bs : List UInt8} {h : Header} {body : Body} :
    openFrame bs = .ok (h, .plain body) → Decodes bs (.ok ⟨h.requestId, h.responseTo, body⟩)
  | envelope {bs inner : List UInt8} {h : Header} {c : Compressor}
      {result : Except WireError Message} :
    openFrame bs = .ok (h, .envelope c inner) → Decodes inner result →
    Decodes bs (result.map fun m => ⟨h.requestId, h.responseTo, .compressed c m.body⟩)

/-- `readInside` comes to the end if there is one: then no frame is one of those around it. -/
theorem decodes_readInside {depth : Nat} (hlast : frameAt bs depth = some last)
    (hnone : inside? last = none) {outer : List (List UInt8)}
    (hnew : ∀ i frame, frameAt bs i = some frame → frame ∉ outer) :
    Decodes bs (Message.readInside outer bs) := by
  -- by induction on the depth of the last frame, with one more frame around for each envelope
  induction depth generalizing bs outer with
  | zero =>
    obtain rfl : bs = last := Option.some.inj hlast
    rw [Message.readInside, dif_neg (hnew 0 bs rfl)]
    split
    · exact .failed ‹_›
    · exact .plain ‹_›
    · rename_i h c inner hopen
      rw [inside?_eq_some_iff.mpr ⟨h, c, hopen⟩] at hnone
      cases hnone
  | succ depth ih =>
    have hends : Ends bs := ⟨depth + 1, last, hlast, hnone⟩
    cases hinside : inside? bs with
    | none =>
      rw [frameAt_of_gt rfl hinside (Nat.succ_pos depth)] at hlast
      cases hlast
    | some inner =>
      obtain ⟨h, c, hopen⟩ := inside?_eq_some_iff.mp hinside
      have hstep (i : Nat) : frameAt bs (i + 1) = frameAt inner i :=
        frameAt_succ_of_inside hinside i
      rw [Message.readInside_of_envelope (hnew 0 bs rfl) hopen]
      refine .envelope hopen (ih ((hstep depth).symm.trans hlast) fun i frame hframe hmem => ?_)
      rw [← hstep] at hframe
      -- a frame inside is neither the envelope, as frames that end do not come again, nor one
      -- around it
      obtain rfl | hmem := List.mem_cons.mp hmem
      · exact absurd (ends_iff_eq.mp hends 0 (i + 1) frame rfl hframe) (Nat.succ_ne_zero i).symm
      · exact hnew (i + 1) frame hframe hmem

/-- `readInside` reports frames that never end. -/
theorem readInside_of_not_ends (hends : ¬ Ends bs) (outer : List (List UInt8)) :
    Message.readInside outer bs = .error .endlessEnvelopes := by
  -- the cases are those of `readInside`
  induction outer, bs using Message.readInside.induct with
  | case1 outer bs hmem => rw [Message.readInside, dif_pos hmem]
  | case2 outer bs _ e hopen =>
    refine absurd (ends_of_inside ?_) hends
    rw [inside?, hopen]
  | case3 outer bs _ h body hopen =>
    refine absurd (ends_of_inside ?_) hends
    rw [inside?, hopen]
  | case4 outer bs hnew h c inner hopen ih =>
    have hframe : frameAt bs 1 = some inner := inside?_eq_some_iff.mpr ⟨h, c, hopen⟩
    rw [Message.readInside_of_envelope hnew hopen, ih fun hinner =>
      hends (ends_of_frameAt hframe hinner)]
    rfl

/-! ### Payloads that expand little -/

/-- An envelope that does not compress is nine bytes longer than the frame inside. -/
theorem length_of_noop {h : Header} (hopen : openFrame bs = .ok (h, .envelope .noop inner)) :
    inner.length + 9 = bs.length := by
  obtain ⟨opcode, size, length, payload, plain, hframe, -, hplain, -, hframed⟩ :=
    openFrame_envelope_iff.mp hopen
  obtain rfl : payload = plain := Option.some.inj hplain
  rw [hframe.eq_append, hframed.eq_append]
  simp only [List.length_append, List.length_cons, Header.length_bytes, LittleEndian.length_int32]
  omega

/-- `Ends` holds of frames that become shorter and shorter. -/
theorem ends_of_shrinking (hshrinks : ∀ depth frame h c inner, frameAt bs depth = some frame →
      openFrame frame = .ok (h, .envelope c inner) →
    c = .noop ∨ inner.length < frame.length) : Ends bs := by
  -- by induction on the length, which is less for the frame inside
  induction hlength : bs.length using Nat.strong_induction_on generalizing bs with
  | _ n ih =>
    cases hinside : inside? bs with
    | none => exact ends_of_inside hinside
    | some inner =>
      obtain ⟨h, c, hopen⟩ := inside?_eq_some_iff.mp hinside
      have hlt : inner.length < n := by
        obtain rfl | hlt := hshrinks 0 bs h c inner rfl hopen
        · have := length_of_noop hopen
          omega
        · omega
      have hframe : frameAt bs 1 = some inner := hinside
      refine ends_of_frameAt hframe
        (ih inner.length hlt (fun depth frame h c inner' hdeeper => ?_) rfl)
      rw [← frameAt_succ_of_inside hinside] at hdeeper
      exact hshrinks (depth + 1) frame h c inner' hdeeper

/-- The frames of a byte string end (`Ends`), unless one that is found by `frameAt` comes for the
second time. Where they end, `Message.decode` gives what there is to decode (`Decodes`), and where
they do not it fails with `.endlessEnvelopes`. They do end if, from some depth on, what is in each
envelope that compresses is shorter than the frame around it. -/
theorem ends_decides (bs : List UInt8) :
    (Ends bs ↔ ∀ i j frame, frameAt bs i = some frame → frameAt bs j = some frame → i = j) ∧
    (Ends bs → Decodes bs (Message.decode bs)) ∧
    (¬ Ends bs → Message.decode bs = .error .endlessEnvelopes) ∧
    ((∃ first, ∀ depth frame h c inner, first ≤ depth → frameAt bs depth = some frame →
      openFrame frame = .ok (h, .envelope c inner) →
      c = .noop ∨ inner.length < frame.length) → Ends bs) := by
  refine ⟨ends_iff_eq, ?_, fun hends => readInside_of_not_ends hends [], ?_⟩
  · rintro ⟨depth, last, hlast, hnone⟩
    exact decodes_readInside hlast hnone fun _ _ _ => List.not_mem_nil
  · rintro ⟨depth, hshrinks⟩
    by_contra hends
    -- from some depth on frames shrink, which they cannot do for ever
    obtain ⟨frame, -, hframe, -⟩ := exists_frameAt hends depth
    refine hends (ends_of_frameAt hframe (ends_of_shrinking fun more frame' h c inner hframe' =>
      ?_))
    refine hshrinks (depth + more) frame' h c inner (Nat.le_add_right _ _) ?_
    rw [frameAt_add, hframe]
    exact hframe'

/-- An envelope whose payload is made of two literals that hold one another's elements, and of
copies. -/
def selfEnclosing : List UInt8 :=
  [0x6c, 0x00, 0x00, 0x00, 0x01, 0x00, 0x00, 0x00, 0x00, 0x00, 0x00, 0x00, 0xdc, 0x07, 0x00, 0x00,
    0xdc, 0x07, 0x00, 0x00, 0x5c, 0x00, 0x00, 0x00, 0x01, 0x5c, 0xf4, 0x0c, 0x00, 0xdc, 0x07, 0x00,
    0x00, 0x5c, 0x00, 0x00, 0x00, 0x01, 0x5c, 0xf4, 0x0c, 0x00, 0x32, 0x0d, 0x00, 0xf4, 0x02, 0x00,
    0x32, 0x0d, 0x00, 0xf4, 0x02, 0x00, 0xf4, 0x02, 0x00, 0xf4, 0x0b, 0x00, 0x32, 0x0d, 0x00, 0xf4,
    0x02, 0x00, 0xf4, 0x02, 0x00, 0xf4, 0x0b, 0x00, 0x2e, 0x0c, 0x00, 0xf4, 0x0b, 0x00, 0x2e, 0x0c,
    0x00, 0xf4, 0x0b, 0x00, 0x2e, 0x0c, 0x00, 0xf4, 0x0b, 0x00, 0x2e, 0x0c, 0x00, 0xf4, 0x0b, 0x00,
    0x00, 0x00, 0x00, 0x00, 0x00, 0x00, 0x00, 0x00, 0x00, 0x00, 0x00, 0x00]

/-- The payload of `selfEnclosing` expands to the envelope itself, so its frames never end. -/
theorem not_ends_selfEnclosing : ¬ Ends selfEnclosing := by
  have hinside : inside? selfEnclosing = some selfEnclosing := by decide +kernel
  intro hends
  exact absurd (ends_iff_eq.mp hends 0 1 selfEnclosing rfl hinside) Nat.zero_ne_one

end DocGateway.Wire
