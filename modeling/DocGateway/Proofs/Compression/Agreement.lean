import DocGateway.Proofs.Compression.Zlib
/-!
# A zlib payload expands to one thing only

How many bytes are asked for decides how large a beginning of a payload is read, how much room there
is for the output and how many steps may be taken. None of this changes what comes out of a payload
that is read to its end: what a reader has read it reads as well when more comes behind, and two
readers of which each step agrees agree as a whole, whatever room and however many steps they have.

## Key results

- `Bits.Steady.bind`: a reader of bits reads the same whatever comes behind
- `Inflate.Agree.bind`: two readers that come to the end agree
- `Inflate.agree_stream`: streams, under any two limits
- `decode?_unique`: payloads, however many bytes are asked for
-/

namespace DocGateway

/-! ### Readers of bits -/

namespace Bits

/-- The same bits with more bytes behind. -/
def extend (s : Bits) (more : List UInt8) : Bits := ⟨s.bytes ++ more, s.taken⟩

/-- A byte of which some bits were taken is there. -/
def IsSound (s : Bits) : Prop := s.taken ≠ 0 → s.bytes ≠ []

/-- `IsSound` holds before any bit is taken. -/
theorem isSound_start (bytes : List UInt8) : IsSound ⟨bytes, 0⟩ := fun h => absurd rfl h

/-- A reader that reads the same whatever comes behind what it reads. -/
def Steady {α : Type} (r : BitReader α) : Prop :=
  ∀ ⦃s a s'⦄, s.IsSound → r s = .ok (a, s') → s'.IsSound ∧
    ∀ more, r (s.extend more) = .ok (a, s'.extend more)

namespace Steady

variable {α β : Type} {r : BitReader α} {f : α → BitReader β}

/-- `pure` reads nothing, so it is `Steady`. -/
theorem pure (a : α) : Steady (pure a) := by
  intro s b s' hs h
  cases h
  exact ⟨hs, fun _ => rfl⟩

/-- To fail is `Steady`. -/
theorem corrupt : Steady (corrupt : BitReader α) := by
  intro s a s' _ h
  cases h

/-- `Steady` readers one after the other are `Steady`. -/
theorem bind (hr : Steady r) (hf : ∀ a, Steady (f a)) : Steady (r >>= f) := by
  intro s b s' hs h
  simp only [Bind.bind, StateT.bind, Except.bind] at h ⊢
  cases hrs : r s with
  | error e => rw [hrs] at h; cases h
  | ok p =>
    rw [hrs] at h
    obtain ⟨hs₁, hmore₁⟩ := hr hs hrs
    obtain ⟨hs', hmore⟩ := hf p.1 hs₁ h
    refine ⟨hs', fun more => ?_⟩
    rw [hmore₁ more]
    exact hmore more

/-- `Steady` is kept if what was read is changed. -/
theorem map (g : α → β) (hr : Steady r) : Steady (g <$> r) := by
  rw [map_eq_pure_bind]
  exact hr.bind fun a => pure (g a)

/-- `require` reads nothing, so it is `Steady`. -/
theorem require (a : Option α) : Steady (require a) := by
  cases a with
  | none => exact corrupt
  | some a => exact pure a

/-- `bit` takes one bit of the first byte, or the next byte. -/
theorem bit : Steady bit := by
  intro s a s' _ h
  obtain ⟨bytes, taken⟩ := s
  cases bytes with
  | nil => cases h
  | cons b rest =>
    cases h
    -- a byte that is not yet read to its end stays in front
    by_cases ht : taken = 7
    · rw [if_pos ht]
      refine ⟨isSound_start rest, fun more => ?_⟩
      show Except.ok (_,
        if taken = 7 then (⟨rest ++ more, 0⟩ : Bits) else ⟨b :: (rest ++ more), taken + 1⟩) = _
      rw [if_pos ht]
      rfl
    · rw [if_neg ht]
      refine ⟨fun _ => List.cons_ne_nil b rest, fun more => ?_⟩
      show Except.ok (_,
        if taken = 7 then (⟨rest ++ more, 0⟩ : Bits) else ⟨b :: (rest ++ more), taken + 1⟩) = _
      rw [if_neg ht]
      rfl

/-- `byte` takes the first byte. -/
theorem byte : Steady byte := by
  intro s a s' _ h
  obtain ⟨bytes, taken⟩ := s
  cases bytes with
  | nil => cases h
  | cons b rest =>
    cases h
    exact ⟨isSound_start rest, fun _ => rfl⟩

/-- `align` drops what is left of a byte, which is there by `IsSound`. -/
theorem align : Steady align := by
  intro s a s' hs h
  cases h
  by_cases ht : s.taken = 0
  · rw [if_pos ht]
    refine ⟨hs, fun more => ?_⟩
    simp only [Bits.align, extend, ht, ↓reduceIte]
  · rw [if_neg ht]
    refine ⟨isSound_start _, fun more => ?_⟩
    simp only [Bits.align, extend, ht, ↓reduceIte]
    -- there is a byte to be dropped, so that none of those behind is
    rw [List.drop_append_of_le_length (List.length_pos_iff.mpr (hs ht))]

/-- `number` is `bit` several times. -/
theorem number (n : Nat) : Steady (number n) := by
  induction n with
  | zero => exact pure 0
  | succ n ih => exact bit.bind fun _ => ih.bind fun _ => pure _

/-- `word` is `byte` several times. -/
theorem word (n : Nat) : Steady (word n) := by
  induction n with
  | zero => exact pure 0
  | succ n ih => exact byte.bind fun _ => ih.bind fun _ => pure _

end Steady

end Bits

open Bits (Steady)

/-- `symbolFrom` takes one bit for each length of code. -/
theorem PrefixCode.steady_symbolFrom (symbols : Array Nat) (counts : List Nat)
    (code first index : Nat) :
    Steady (symbolFrom symbols counts code first index) := by
  induction counts generalizing code first index with
  | nil => exact .corrupt
  | cons count counts ih =>
    refine Steady.bit.bind fun b => ?_
    dsimp only
    split
    · exact .require _
    · exact ih _ _ _

/-- `symbol` is `Steady`. -/
theorem PrefixCode.steady_symbol (c : PrefixCode) : Steady c.symbol := steady_symbolFrom _ _ _ _ _

/-! ### Lengths, distances and codes -/

namespace Inflate

/-- `extended` reads the extra bits of a length or a distance. -/
theorem steady_extended (table : Array (Nat × Nat)) (symbol : Nat) :
    Steady (extended table symbol) :=
  (Steady.require _).bind fun _ => (Steady.number _).map _

/-- `fixedCodes` reads nothing. -/
theorem steady_fixedCodes : Steady fixedCodes :=
  (Steady.require _).bind fun _ => (Steady.require _).bind fun _ => .pure _

/-- `codeLengths` is `Steady`, by induction on its steps. -/
theorem steady_codeLengths (code : PrefixCode) (count fuel : Nat) (lengths : List Nat) :
    Steady (codeLengths code count fuel lengths) := by
  -- without fuel, and with all lengths read
  have hend (lengths : List Nat) :
      Steady (if lengths.length = count then pure lengths.reverse else Bits.corrupt) := by
    split
    · exact .pure _
    · exact .corrupt
  induction fuel generalizing lengths with
  | zero => exact hend lengths
  | succ fuel ih =>
    unfold codeLengths
    split
    · exact hend lengths
    · refine code.steady_symbol.bind fun s => ?_
      split
      · exact ih _
      · split
        · split
          · exact .corrupt
          · exact (Steady.number 2).bind fun _ => ih _
        · split
          · exact ((Steady.number 3).map _).bind fun _ => ih _
          · exact ((Steady.number 7).map _).bind fun _ => ih _

/-- `triples` is `number 3` several times. -/
theorem steady_triples (n : Nat) : Steady (triples n) := by
  induction n with
  | zero => exact .pure []
  | succ n ih => exact (Steady.number 3).bind fun _ => ih.bind fun _ => .pure _

/-- `dynamicCodes` is `Steady`, part by part. -/
theorem steady_dynamicCodes : Steady dynamicCodes := by
  refine (Steady.number 5).bind fun _ => (Steady.number 5).bind fun _ =>
    (Steady.number 4).bind fun _ => ?_
  dsimp only
  split
  · exact .corrupt
  · refine (steady_triples _).bind fun written => (Steady.require _).bind fun code => ?_
    exact (steady_codeLengths code _ _ _).bind fun _ =>
      (Steady.require _).bind fun _ => (Steady.require _).bind fun _ => .pure _

/-- `storedLength` is `align` and two words. -/
theorem steady_storedLength : Steady storedLength := by
  refine (Steady.word 2).bind fun length => (Steady.word 2).bind fun complement => ?_
  split
  · exact .pure _
  · exact .corrupt

/-! ### Readers that put out bytes -/

/-- Two readers, of which the second may have other room, take other steps and be given more to
read. If both come to the end, they agree in all they have read and put out. The first one is only
stopped for want of room when `limit` bytes are out. -/
structure Agree {α : Type} (limit : Nat) (m m' : Inflater α) : Prop where
  ok : ∀ ⦃p a p'⦄, p.bits.IsSound → m p = .ok a p' → p'.bits.IsSound ∧
    ∀ ⦃more a' q⦄, m' ⟨p.out, p.bits.extend more⟩ = .ok a' q →
    a' = a ∧ q = ⟨p'.out, p'.bits.extend more⟩
  full : ∀ ⦃p p'⦄, m p = .error .full p' → limit ≤ p'.out.size

namespace Agree

variable {α β : Type} {limit limit' : Nat} {m m' : Inflater α} {f f' : α → Inflater β}

/-- `Agree` holds of readers that give the same and read nothing. -/
theorem pure (a : α) : Agree limit (pure a) (pure a) where
  ok := by
    intro p b p' hp h
    cases h
    refine ⟨hp, fun more b' q h => ?_⟩
    cases h
    exact ⟨rfl, rfl⟩
  full := by
    intro p p' h
    cases h

/-- `Agree` holds of two readers in a row if it holds of each. -/
theorem bind (hm : Agree limit m m') (hf : ∀ a, Agree limit (f a) (f' a)) :
    Agree limit (m >>= f) (m' >>= f') where
  ok := by
    intro p b p' hp h
    change EStateM.bind m f p = _ at h
    rw [EStateM.bind] at h
    -- what the second reader is given is what the first one left, with more behind
    cases hmp : m p with
    | error e p₁ => rw [hmp] at h; cases h
    | ok a p₁ =>
      rw [hmp] at h
      obtain ⟨hp₁, hagree₁⟩ := hm.ok hp hmp
      obtain ⟨hp', hagree⟩ := (hf a).ok hp₁ h
      refine ⟨hp', fun more b' q h' => ?_⟩
      change EStateM.bind m' f' _ = _ at h'
      rw [EStateM.bind] at h'
      cases hmq : m' ⟨p.out, p.bits.extend more⟩ with
      | error e q₁ => rw [hmq] at h'; cases h'
      | ok a' q₁ =>
        rw [hmq] at h'
        obtain ⟨rfl, rfl⟩ := hagree₁ hmq
        exact hagree h'
  full := by
    intro p p' h
    change EStateM.bind m f p = _ at h
    rw [EStateM.bind] at h
    cases hmp : m p with
    | error e p₁ =>
      rw [hmp] at h
      cases h
      exact hm.full hmp
    | ok a p₁ =>
      rw [hmp] at h
      exact (hf a).full h

/-- `Agree` holds where readers look at the progress, if the bits that are seen make no
difference. -/
theorem get_bind {g g' : Progress → Inflater β}
    (h : ∀ out bits bits', Agree limit (g ⟨out, bits⟩) (g' ⟨out, bits'⟩)) :
    Agree limit (get >>= g) (get >>= g') where
  ok p b p' hp hg := by
    refine ⟨((h p.out p.bits p.bits).ok hp hg).1, fun more b' q hg' => ?_⟩
    exact ((h p.out p.bits (p.bits.extend more)).ok hp hg).2 hg'
  full p p' hg := (h p.out p.bits p.bits).full hg

/-- A `Steady` reader agrees with itself. -/
theorem read {r : BitReader α} (hr : Steady r) : Agree limit (read r) (read r) where
  ok := by
    intro p a p' hp h
    simp only [Inflate.read, StateT.run] at h ⊢
    cases hrp : r p.bits with
    | error e => rw [hrp] at h; cases h
    | ok x =>
      rw [hrp] at h
      cases h
      -- reading does not look at the output, so the limit makes no difference
      obtain ⟨hp', hmore⟩ := hr hp hrp
      refine ⟨hp', fun more a' q h' => ?_⟩
      rw [hmore more] at h'
      cases h'
      exact ⟨rfl, rfl⟩
  full := by
    intro p p' h
    simp only [Inflate.read] at h
    split at h <;> cases h

/-- `put` agrees with itself under any other limit. -/
theorem put (b : UInt8) : Agree limit (put limit b) (put limit' b) where
  ok := by
    intro p a p' hp h
    simp only [Inflate.put] at h
    split at h
    -- there is room for the byte under the first limit
    · cases h
      refine ⟨hp, fun more a' q h' => ?_⟩
      simp only [Inflate.put] at h'
      split at h'
      · cases h'
        exact ⟨rfl, rfl⟩
      · cases h'
    · cases h
  full := by
    intro p p' h
    simp only [Inflate.put] at h
    split at h
    · cases h
    · rename_i hfull
      cases h
      exact Nat.le_of_not_lt hfull

/-- `repeatBack` agrees with itself under any other limit. -/
theorem repeatBack (distance length : Nat) :
    Agree limit (repeatBack limit distance length) (repeatBack limit' distance length) where
  ok := by
    intro p a p' hp h
    simp only [Inflate.repeatBack] at h
    split at h
    · rename_i hfits
      cases h
      refine ⟨hp, fun more a' q h' => ?_⟩
      simp only [Inflate.repeatBack] at h'
      split at h'
      · -- all of the copy fits, under either limit
        rename_i hfits'
        cases h'
        rw [hfits, hfits']
        exact ⟨rfl, rfl⟩
      · cases h'
    · cases h
  full := by
    intro p p' h
    simp only [Inflate.repeatBack] at h
    split at h
    · cases h
    · rename_i hfull
      cases h
      -- the copy fills all the room there is
      simp only [History.size_repeatFrom, Array.size_append, Array.size_replicate]
      omega

/-- `Agree` holds of a reader that is corrupt at once with any other. -/
theorem stopped_left : Agree limit (Inflate.read Bits.corrupt) m' where
  ok := by
    intro p a p' _ h
    cases h
  full := by
    intro p p' h
    cases h

/-- `Agree` holds of any reader with one that is corrupt at once. -/
theorem stopped_right (h : Agree limit m m') : Agree limit m (Inflate.read Bits.corrupt) where
  ok := by
    intro p a p' hp hm
    refine ⟨(h.ok hp hm).1, fun more a' q h' => ?_⟩
    cases h'
  full := h.full

/-- `copyInput` agrees with itself under any other limit. -/
theorem copyInput (length : Nat) :
    Agree limit (copyInput limit length) (copyInput limit' length) where
  ok := by
    intro p a p' hp h
    simp only [Inflate.copyInput] at h
    split at h
    · rename_i hlen
      cases h
      refine ⟨Bits.isSound_start _, fun more a' q h' => ?_⟩
      simp only [Inflate.copyInput] at h'
      split at h'
      · -- as many bytes are there, so that none of those behind is taken
        rename_i hlen'
        cases h'
        rw [List.length_take] at hlen hlen'
        have hroom : min length (limit - p.out.size) = length := by omega
        have hroom' : min length (limit' - p.out.size) = length := by omega
        have hle : length ≤ p.bits.bytes.length := by omega
        have htake : (p.bits.bytes ++ more).take length = p.bits.bytes.take length :=
          List.take_append_of_le_length hle
        have hdrop : (p.bits.bytes ++ more).drop length = p.bits.bytes.drop length ++ more :=
          List.drop_append_of_le_length hle
        have hcount : (p.bits.bytes.take length).length = length := by rw [List.length_take]; omega
        simp only [Bits.extend, hroom, hroom', htake, hcount, hdrop, and_self]
      · split at h' <;> cases h'
    · split at h <;> cases h
  full := by
    intro p p' h
    simp only [Inflate.copyInput] at h
    split at h
    · cases h
    · split at h
      · rename_i hroom
        cases h
        simp only [History.size_append, hroom]
        omega
      · cases h

end Agree

/-! ### Blocks -/

variable (limit limit' : Nat)

/-- `symbols` agrees with itself under any other limit and number of steps. -/
theorem agree_symbols (codes : Codes) (fuel fuel' : Nat) :
    Agree limit (symbols codes limit fuel) (symbols codes limit' fuel') := by
  -- by induction on the steps of the first reader; the second one comes to the end only if it has
  -- enough of them
  induction fuel generalizing fuel' with
  | zero => exact .stopped_left
  | succ fuel ih =>
    have hstep (fuel' : Nat) : Agree limit (symbols codes limit (fuel + 1))
        (symbols codes limit' (fuel' + 1)) := by
      rw [symbols, symbols]
      refine Agree.bind (.read codes.literals.steady_symbol) fun s => ?_
      split
      · exact (Agree.put _).bind fun _ => ih fuel'
      · split
        · exact .pure ()
        · refine Agree.bind (.read (steady_extended _ _)) fun length => ?_
          refine Agree.bind (.read (codes.distances.steady_symbol.bind fun _ =>
            steady_extended _ _)) fun distance => ?_
          exact (Agree.repeatBack _ _).bind fun _ => ih fuel'
    cases fuel' with
    | zero => exact (hstep 0).stopped_right
    | succ fuel' => exact hstep fuel'

/-- `stored` agrees with itself under any other limit. -/
theorem agree_stored : Agree limit (stored limit) (stored limit') :=
  (Agree.read .align).bind fun _ => (Agree.read steady_storedLength).bind fun _ => .copyInput _

/-- `block` agrees with itself under any other limit, for each type of block. -/
theorem agree_block : Agree limit (block limit) (block limit') := by
  refine Agree.bind (.read .bit) fun last => Agree.bind (.read (.number 2)) fun kind => ?_
  refine Agree.get_bind fun out bits bits' => ?_
  dsimp only
  -- the three kinds of blocks, and the one that there is not
  split
  · exact (agree_stored limit limit').bind fun _ => .pure _
  · split
    · exact Agree.bind (.read steady_fixedCodes) fun codes =>
        (agree_symbols limit limit' codes _ _).bind fun _ => .pure _
    · split
      · exact Agree.bind (.read steady_dynamicCodes) fun codes =>
          (agree_symbols limit limit' codes _ _).bind fun _ => .pure _
      · exact Agree.bind (.read .corrupt) fun _ => .pure _

/-- `blocks` agrees with itself under any other limit and number of steps. -/
theorem agree_blocks (fuel fuel' : Nat) :
    Agree limit (blocks limit fuel) (blocks limit' fuel') := by
  -- by induction on the steps of the first reader, whatever the second one has left
  induction fuel generalizing fuel' with
  | zero => exact .stopped_left
  | succ fuel ih =>
    have hstep (fuel' : Nat) : Agree limit (blocks limit (fuel + 1))
        (blocks limit' (fuel' + 1)) := by
      rw [blocks, blocks]
      refine (agree_block limit limit').bind fun last => ?_
      split
      · exact .pure ()
      · exact ih fuel'
    cases fuel' with
    | zero => exact (hstep 0).stopped_right
    | succ fuel' => exact hstep fuel'

/-- `stream` agrees with itself under any other limit. -/
theorem agree_stream : Agree limit (stream limit) (stream limit') :=
  .get_bind fun _ _ _ => agree_blocks limit limit' _ _

end Inflate

/-! ### Payloads -/

namespace Zlib

open Inflate (Agree)

/-- `header` is two bytes and a check. -/
theorem steady_header : Steady header := by
  refine Steady.byte.bind fun cmf => Steady.byte.bind fun flg => ?_
  split
  · exact .pure ()
  · exact .corrupt

/-- `trailer` is four bytes and a check. -/
theorem steady_trailer (out : Array UInt8) : Steady (trailer out) := by
  refine Steady.align.bind fun _ => (Steady.word 4).bind fun checksum => ?_
  split
  · exact .pure ()
  · exact .corrupt

/-- `whole` agrees with itself under any other limit. -/
theorem agree_whole (limit limit' : Nat) : Agree limit (whole limit) (whole limit') := by
  refine Agree.bind (.read steady_header) fun _ => (Inflate.agree_stream limit limit').bind fun _ =>
    ?_
  exact .get_bind fun out _ _ => .read (steady_trailer out)

/-- `attempt?` that gives fewer bytes than its limit has read the beginning to the end with
`whole`. -/
theorem exists_of_attempt? {limit : Nat} {beginning plain : List UInt8}
    (h : attempt? limit beginning = some (some plain))
    (hlt : plain.length < limit) :
    ∃ room p, whole room ⟨#[], ⟨beginning, 0⟩⟩ = .ok () p ∧ p.out.toList = plain := by
  -- fewer bytes are all there are
  have hall {out : Array UInt8} (hout : some (some (out.toList.take limit)) = some (some plain)) :
      out.size < limit ∧ out.toList = plain := by
    have htake := Option.some.inj (Option.some.inj hout)
    have hlen := congrArg List.length htake
    rw [List.length_take, Array.length_toList] at hlen
    rw [List.take_of_length_le (by rw [Array.length_toList]; omega)] at htake
    exact ⟨by omega, htake⟩
  simp only [attempt?, EStateM.run] at h
  split at h
  · rename_i p hp
    exact ⟨_, p, hp, (hall h).2⟩
  · -- there is no room left, so that enough is out
    rename_i p hp
    have hfull := (agree_whole _ 0).full hp
    exact absurd (hall h).1 (Nat.not_lt.mpr (Nat.le_trans (le_windows limit) hfull))
  · cases h
  · -- the input ends too early, but enough is out
    split at h
    · rename_i henough
      exact absurd (hall h).1 (Nat.not_lt.mpr henough)
    · cases h

/-- `decodeFrom?` ends with an `attempt?` of some beginning. -/
theorem exists_of_decodeFrom? {limit taken more : Nat} {payload plain : List UInt8}
    (h : decodeFrom? limit payload taken more = some plain) :
    ∃ k, attempt? limit (payload.take k) = some (some plain) := by
  induction more generalizing taken with
  | zero => exact ⟨_, Option.join_eq_some_iff.mp h⟩
  | succ more ih =>
    rw [decodeFrom?] at h
    split at h
    · rename_i result hresult
      exact ⟨_, by rw [hresult, h]⟩
    · exact ih h

/-- `whole` of two beginnings of a payload gives the same output, by `agree_whole`. -/
theorem whole_unique {room room' k k' : Nat} {payload : List UInt8} {p p' : Inflate.Progress}
    (hle : k ≤ k') (h : whole room ⟨#[], ⟨payload.take k, 0⟩⟩ = .ok () p)
    (h' : whole room' ⟨#[], ⟨payload.take k', 0⟩⟩ = .ok () p') :
    p'.out = p.out := by
  obtain ⟨more, hmore⟩ := List.take_prefix_take_left (l := payload) hle
  obtain ⟨-, hagree⟩ := (agree_whole room room').ok (Bits.isSound_start _) h
  rw [← hmore] at h'
  rw [(hagree h').2]

/-- `decode?` gives the same bytes under different limits, if it gives fewer than either. -/
theorem decode?_unique {limit limit' : Nat} {payload plain plain' : List UInt8}
    (h : decode? limit payload = some plain) (h' : decode? limit' payload = some plain')
    (hlt : plain.length < limit)
    (hlt' : plain'.length < limit') : plain = plain' := by
  obtain ⟨k, hk⟩ := exists_of_decodeFrom? h
  obtain ⟨k', hk'⟩ := exists_of_decodeFrom? h'
  obtain ⟨room, p, hp, rfl⟩ := exists_of_attempt? hk hlt
  obtain ⟨room', p', hp', rfl⟩ := exists_of_attempt? hk' hlt'
  obtain hle | hle := Nat.le_total k k'
  · rw [whole_unique hle hp hp']
  · rw [whole_unique hle hp' hp]

end Zlib

end DocGateway
