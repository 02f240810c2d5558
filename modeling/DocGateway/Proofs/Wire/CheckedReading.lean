import DocGateway.Proofs.Wire.Checked
import DocGateway.Proofs.Wire.Reading
/-!
# The checked readers follow the readers of bodies

A checked reader that does not fault and has the outcome of another reader, follows it there. What a
reader relies on is what stands in front of a step: a length is compared with the bytes that are
left before it is used, and a number is known not to be below zero before it is taken for a count.
Readers that follow others do so in a row, and in a loop if each round takes off a byte.

## Key results

- `Checked.Yields.seq`, `Follows.bind`: computations and readers in a row
- `Follows.many`: a loop, which does not go round idly
- `Follows.document`, `Follows.cstring`: what is read by its own length, and up to a zero byte
- `readQuery_follows`, `readGetMore_follows`, `readKillCursors_follows`, `readReply_follows`: the
  bodies
- `readSection_follows`: a section of a command message
-/

namespace DocGateway.Wire

/-! ### Steps -/

namespace Checked

/-- `difference` does not overflow if no more is taken off than there is. -/
theorem difference_of_le {a b : Nat} (h : b ≤ a) : difference a b = .ok (a - b) := if_pos h

/-- `toCount` loses nothing of a word that is not below zero. -/
theorem toCount_of_nonneg {n : Int32} (h : 0 ≤ n.toInt) : toCount n = .ok n.toInt.toNat := if_pos h

/-- `slice` stays within its buffer if it ends behind its start and not behind the buffer. -/
theorem slice_of_le {bs : List UInt8} {start stop : Nat} (h : start ≤ stop)
    (h' : stop ≤ bs.length) :
    slice bs start stop = .ok ((bs.take stop).drop start) := if_pos ⟨h, h'⟩

/-- `splitAt` stays within its buffer if the buffer has as many bytes. -/
theorem splitAt_of_le {n : Nat} {bs : List UInt8} (h : n ≤ bs.length) :
    splitAt n bs = .ok (bs.take n, bs.drop n) :=
  if_pos h

/-- `max 0 n` is not below zero, so that `toCount` loses nothing of it. -/
theorem nonneg_max (n : Int32) : 0 ≤ (max 0 n : Int32).toInt := by
  change 0 ≤ (if 0 ≤ n then n else 0 : Int32).toInt
  split
  · rename_i hle
    exact Int32.le_iff_toInt_le.mp hle
  · exact Int.le_refl 0

/-- `n - 4` does not wrap around if `n` is no smaller than four. -/
theorem toInt_sub_four {n : Int32} (h : 4 ≤ n.toInt) : (n - 4).toInt = n.toInt - 4 := by
  have := n.toInt_lt
  -- a difference wraps around only if it is out of the range of words
  rw [Int32.toInt_sub]
  exact Int.bmod_eq_of_le (by simp; omega) (by simp; omega)

/-- `difference32` does not overflow if four is taken off a word that is no smaller. -/
theorem difference32_four {n : Int32} (h : 4 ≤ n.toInt) : difference32 n 4 = .ok (n - 4) :=
  if_pos (toInt_sub_four h)

end Checked

/-! ### Texts -/

/-- Where `findIdx?` finds no zero byte, `Slice.cstring?` finds no text. -/
theorem cstring?_of_findIdx?_eq_none {bs : List UInt8} (h : bs.findIdx? (· = 0) = none) :
    Slice.cstring? bs = none := by
  cases hcut : Slice.cstring? bs with
  | none => rfl
  | some cut =>
    obtain ⟨-, heq⟩ := Slice.cstring?_eq_some hcut
    have hzero : (0 : UInt8) ∈ bs := by
      rw [heq]
      exact List.mem_append_right _ List.mem_cons_self
    exact absurd (List.findIdx?_eq_none_iff.mp h 0 hzero) (by decide)

/-- Where `findIdx?` finds the zero byte is where `Slice.cstring?` parts the text from what follows
it. -/
theorem cstring?_of_findIdx?_eq_some {bs : List UInt8} {nul : Nat}
    (h : bs.findIdx? (· = 0) = some nul) :
    nul < bs.length ∧ Slice.cstring? bs = some (bs.take nul, bs.drop (nul + 1)) := by
  obtain ⟨hlt, hzero, hbefore⟩ := List.findIdx?_eq_some_iff_getElem.mp h
  -- the first zero byte parts what is before it from what is behind
  have hcut : bs = bs.take nul ++ 0 :: bs.drop (nul + 1) := by
    rw [← of_decide_eq_true hzero, List.getElem_cons_drop, List.take_append_drop]
  have hne : ∀ b ∈ bs.take nul, b ≠ 0 := by
    intro b hb heq
    obtain ⟨i, hi, rfl⟩ := List.mem_take_iff_getElem.mp hb
    exact hbefore i (by omega) (decide_eq_true heq)
  refine ⟨hlt, ?_⟩
  have happend := Slice.cstring?_append hne (bs.drop (nul + 1))
  rw [← hcut] at happend
  exact happend

/-! ### Results -/

namespace Checked

variable {α β : Type}

/-- `x` does not fault, and ends with `outcome`. -/
def Yields (x : Checked α) (outcome : Except WireError α) : Prop := x = ExceptT.mk (.ok outcome)

namespace Yields

variable {x : Checked α} {f : α → Checked β} {a : α}

/-- `pure` does not fault. -/
theorem pure (a : α) : Yields (pure a) (.ok a) := rfl

/-- `Checked.refuse` fails with its error, but does not fault. -/
theorem refuse (e : WireError) : Yields (Checked.refuse e : Checked α) (.error e) := rfl

/-- A step that gives something does not fault. -/
theorem step {y : Except Fault α} (hy : y = .ok a) : Yields (step y) (.ok a) := by
  rw [hy]
  rfl

/-- `>>=` does not fault where neither side does, the second one at what the first one gives. -/
theorem bind {outcome : Except WireError β} (h : Yields x (.ok a)) (hf : Yields (f a) outcome) :
    Yields (x >>= f) outcome := by
  unfold Yields at *
  rw [h]
  exact hf

/-- What comes behind an error is not run, so it does not fault. -/
theorem bind_error {e : WireError} (h : Yields x (.error e)) : Yields (x >>= f) (.error e) := by
  unfold Yields at *
  rw [h]
  rfl

/-- Two computations in a row follow two others if each follows its own, the second one at each
result of the first. -/
theorem seq {y : Except WireError α} {g : α → Except WireError β} (h : Yields x y)
    (hf : ∀ a, y = .ok a → Yields (f a) (g a)) : Yields (x >>= f) (y >>= g) := by
  cases y with
  | error e => exact h.bind_error
  | ok a => exact h.bind (hf a rfl)

/-- What is done to a result does not fault. -/
theorem map {y : Except WireError α} (g : α → β) (h : Yields x y) : Yields (g <$> x) (g <$> y) := by
  rw [map_eq_pure_bind, map_eq_pure_bind]
  exact h.seq fun a _ => pure (g a)

end Yields

end Checked

/-! ### Readers -/

/-- `r` takes a byte off at least, whenever it succeeds. -/
def Reader.Advances {α : Type} (r : Reader α) : Prop :=
  ∀ ⦃bs a rest⦄, r bs = .ok (a, rest) → rest.length < bs.length

/-- A reader that accepts pieces of bytes takes a byte off at least, as no piece is empty. -/
theorem Reader.Accepts.advances {α : Type} {item : Reader α} {piece : List UInt8 → α → Prop}
    (h : Accepts item piece) :
    item.Advances := by
  intro bs a rest hitem
  obtain ⟨p, hp, rfl⟩ := (h.eq_ok_iff bs a rest).mp hitem
  have hpos := List.length_pos_iff.mpr (h.ne_nil p a hp)
  rw [List.length_append]
  omega

namespace CheckedReader

open Bson (Document)
open Checked

variable {α β : Type}

/-- At `bs` the checked reader `r` does not fault, and it has this outcome. -/
def Gives (r : CheckedReader α) (bs : List UInt8)
    (outcome : Except WireError (α × List UInt8)) : Prop :=
  Yields (r bs) outcome

/-- At `bs` the checked reader `r` does not fault, and it does what the reader `r'` does. -/
def Follows (r : CheckedReader α) (r' : Reader α) (bs : List UInt8) : Prop := Gives r bs (r' bs)

namespace Gives

variable {r : CheckedReader α} {f : α → CheckedReader β} {bs rest : List UInt8} {a : α}

/-- `pure` takes nothing off. -/
theorem pure (a : α) (bs : List UInt8) : Gives (pure a) bs (.ok (a, bs)) := rfl

/-- `CheckedReader.fail` fails with its error, but does not fault. -/
theorem fail (e : WireError) (bs : List UInt8) :
    Gives (CheckedReader.fail e : CheckedReader α) bs (.error e) := rfl

/-- `get` gives all bytes that are left, and leaves them. -/
theorem get (bs : List UInt8) : Gives get bs (.ok (bs, bs)) := rfl

/-- `set` replaces the bytes that are left. -/
theorem set (bs bs' : List UInt8) : Gives (set bs') bs (.ok (⟨⟩, bs')) := rfl

/-- A step that gives something takes no byte off. -/
theorem step {x : Except Fault α} (hx : x = .ok a) (bs : List UInt8) :
    Gives (step x) bs (.ok (a, bs)) := by
  rw [hx]
  rfl

/-- `>>=` runs the second reader on what the first one leaves. -/
theorem bind {outcome : Except WireError (β × List UInt8)} (h : Gives r bs (.ok (a, rest)))
    (hf : Gives (f a) rest outcome) : Gives (r >>= f) bs outcome := Yields.bind h hf

/-- What comes behind an error is not run on anything. -/
theorem bind_error {e : WireError} (h : Gives r bs (.error e)) : Gives (r >>= f) bs (.error e) :=
  Yields.bind_error h

/-- `ensure` does nothing where enough bytes are left. -/
theorem ensure_of_le {n : Nat} (what : String) (h : n ≤ bs.length) :
    Gives (ensure n what) bs (.ok ((), bs)) := by
  refine (get bs).bind ?_
  rw [if_neg (Nat.not_lt.mpr h)]
  exact pure () bs

/-- `ensure` fails where too few bytes are left, and the number of those missing is a count. -/
theorem ensure_of_lt {n : Nat} (what : String) (h : bs.length < n) :
    Gives (ensure n what) bs (.error (.truncated what (n - bs.length))) := by
  refine (get bs).bind ?_
  rw [if_pos h]
  exact (step (difference_of_le (Nat.le_of_lt h)) bs).bind (fail _ bs)

/-- `advance` takes bytes off that are there. -/
theorem advance_of_le {n : Nat} (h : n ≤ bs.length) :
    Gives (advance n) bs (.ok (bs.take n, bs.drop n)) := by
  refine (get bs).bind ((step (splitAt_of_le h) bs).bind ?_)
  exact (set bs (bs.drop n)).bind (pure _ _)

/-- `isEmpty` takes nothing off. -/
theorem isEmpty (bs : List UInt8) : Gives isEmpty bs (.ok (bs.isEmpty, bs)) := rfl

end Gives

namespace Follows

variable {r : CheckedReader α} {r' : Reader α} {f : α → CheckedReader β} {f' : α → Reader β}
  {bs : List UInt8}

/-- `pure` follows `pure`. -/
theorem pure (a : α) (bs : List UInt8) : Follows (pure a) (pure a) bs := rfl

/-- `>>=` follows `>>=` if the first readers follow one another, and the second ones at whatever the
first leave. -/
theorem bind (h : Follows r r' bs)
    (hf : ∀ a rest, r' bs = .ok (a, rest) → Follows (f a) (f' a) rest) :
    Follows (r >>= f) (r' >>= f') bs := Yields.seq h fun p hp => hf p.1 p.2 hp

/-- What is done to the result is done to the result of the reader that is followed. -/
theorem map (g : α → β) (h : Follows r r' bs) : Follows (g <$> r) (g <$> r') bs := by
  rw [map_eq_pure_bind, map_eq_pure_bind]
  exact h.bind fun a rest _ => pure (g a) rest

/-- `CheckedReader.fail` follows `Reader.fail`. -/
theorem fail (e : WireError) (bs : List UInt8) :
    Follows (CheckedReader.fail e : CheckedReader α) (Reader.fail e) bs :=
  rfl

/-- What comes behind a failure of the other reader makes no difference. -/
theorem fail_bind (e : WireError) {g : β → Reader α} (bs : List UInt8) :
    Follows (CheckedReader.fail e) (Reader.fail e >>= g) bs :=
  rfl

/-- The other reader may look at what is left. -/
theorem get_right {g : List UInt8 → Reader α} (h : Follows r (g bs) bs) :
    Follows r (get >>= g) bs := h

/-- A checked reader may look at what is left. -/
theorem get_left {g : List UInt8 → CheckedReader α} (h : Follows (g bs) r' bs) :
    Follows (get >>= g) r' bs := h

/-- A step that does not fault is none of the other reader. -/
theorem step_left {x : Except Fault β} {b : β} {g : β → CheckedReader α} (hx : x = .ok b)
    (h : Follows (g b) r' bs) :
    Follows (step x >>= g) r' bs := (Gives.step hx bs).bind h

/-- `CheckedReader.bytes` splits no more bytes off than there are. -/
theorem bytes (n : Nat) (what : String) (bs : List UInt8) :
    Follows (CheckedReader.bytes n what) (Reader.bytes n what) bs := by
  unfold Follows
  rw [Reader.bytes]
  by_cases hlt : bs.length < n
  · rw [Slice.split?_eq_none.mpr hlt]
    exact (Gives.ensure_of_lt what hlt).bind_error
  · have hle := Nat.le_of_not_lt hlt
    rw [Slice.split?_of_le hle]
    exact (Gives.ensure_of_le what hle).bind (Gives.advance_of_le hle)

/-- `CheckedReader.int32` follows `Reader.int32`. -/
theorem int32 (what : String) (bs : List UInt8) :
    Follows (CheckedReader.int32 what) (Reader.int32 what) bs :=
  (bytes 4 what bs).map _

/-- `CheckedReader.uint32` follows `Reader.uint32`. -/
theorem uint32 (what : String) (bs : List UInt8) :
    Follows (CheckedReader.uint32 what) (Reader.uint32 what) bs :=
  (bytes 4 what bs).map _

/-- `CheckedReader.int64` follows `Reader.int64`. -/
theorem int64 (what : String) (bs : List UInt8) :
    Follows (CheckedReader.int64 what) (Reader.int64 what) bs :=
  (bytes 8 what bs).map _

/-- `CheckedReader.byte` finds a first byte in the one byte that it takes. -/
theorem byte (what : String) (bs : List UInt8) :
    Follows (CheckedReader.byte what) (Reader.byte what) bs := by
  cases bs with
  | nil =>
    have hlt : ([] : List UInt8).length < 1 := Nat.one_pos
    exact (Gives.ensure_of_lt what hlt).bind_error.bind_error
  | cons b rest =>
    have hle : 1 ≤ (b :: rest).length := Nat.le_add_left 1 rest.length
    have hb : Gives (CheckedReader.bytes 1 what) (b :: rest) (.ok ([b], rest)) :=
      (Gives.ensure_of_le what hle).bind (Gives.advance_of_le hle)
    exact hb.bind (Gives.pure b rest)

/-- `CheckedReader.cstring` cuts the text off before a zero byte that it found. -/
theorem cstring (bs : List UInt8) : Follows CheckedReader.cstring Reader.cstring bs := by
  unfold Follows
  refine (Gives.get bs).bind ?_
  rw [Reader.cstring]
  split
  · rename_i hnone
    rw [cstring?_of_findIdx?_eq_none hnone]
    exact Gives.fail _ bs
  · rename_i nul hnul
    obtain ⟨hlt, hcut⟩ := cstring?_of_findIdx?_eq_some hnul
    rw [hcut]
    -- the zero byte is one of the bytes, so neither cut reaches out of them
    have htext : slice bs 0 nul = .ok (bs.take nul) :=
      slice_of_le (Nat.zero_le nul) (Nat.le_of_lt hlt)
    have hrest : slice bs (nul + 1) bs.length = .ok (bs.drop (nul + 1)) := by
      rw [slice_of_le hlt (Nat.le_refl _), List.take_length]
    refine (Gives.step htext bs).bind ?_
    cases hs : Utf8.decode? (bs.take nul) with
    | none =>
      simp only [hs]
      exact Gives.fail _ bs
    | some s =>
      simp only [hs]
      exact (Gives.step hrest bs).bind ((Gives.set bs _).bind (Gives.pure _ _))

/-- `CheckedReader.document` casts and slices a length only after it was compared with five and with
the bytes that are left. -/
theorem document (bs : List UInt8) : Follows CheckedReader.document Reader.document bs := by
  unfold Follows
  simp only [Reader.document, Reader.bytes]
  by_cases hlt : bs.length < 4
  -- without the four bytes of a length there is an error, and no cast
  · simp only [Slice.split?_eq_none.mpr hlt]
    exact (Gives.ensure_of_lt _ hlt).bind_error
  · have hle := Nat.le_of_not_lt hlt
    have hhead : slice bs 0 4 = .ok (bs.take 4) := slice_of_le (Nat.zero_le 4) hle
    simp only [Slice.split?_of_le hle]
    refine (Gives.ensure_of_le _ hle).bind ((Gives.get bs).bind ((Gives.step hhead bs).bind ?_))
    change Gives _ bs (if _ then _ else _)
    -- from here on only the number counts that the length reads as
    generalize LittleEndian.toInt32 (bs.take 4) = length
    by_cases hshort : length.toInt < 5
    · simp only [hshort, ↓reduceIte]
      exact Gives.fail _ bs
    · -- the length is not below zero, and all of the document is there
      have hcount : toCount length = .ok length.toInt.toNat := toCount_of_nonneg (by omega)
      simp only [hshort, ↓reduceIte]
      refine (Gives.step hcount bs).bind ?_
      by_cases hmissing : bs.length < length.toInt.toNat
      · rw [Slice.split?_eq_none.mpr hmissing]
        exact (Gives.ensure_of_lt _ hmissing).bind_error
      · have hthere := Nat.le_of_not_lt hmissing
        rw [Slice.split?_of_le hthere]
        refine (Gives.ensure_of_le _ hthere).bind
          ((Gives.step hcount bs).bind ((Gives.advance_of_le hthere).bind ?_))
        simp only [Bind.bind, Except.bind]
        cases Document.decode? (bs.take length.toInt.toNat) with
        | none => exact Gives.fail _ _
        | some d => exact Gives.pure d _

/-- `CheckedReader.isEmpty` follows `Reader.isEmpty`. -/
theorem isEmpty (bs : List UInt8) : Follows CheckedReader.isEmpty Reader.isEmpty bs := rfl

/-- `CheckedReader.finish` follows `Reader.finish`. -/
theorem finish (what : String) (bs : List UInt8) :
    Follows (CheckedReader.finish what) (Reader.finish what) bs := by
  unfold Follows
  refine (Gives.get bs).bind ?_
  rw [Reader.finish]
  cases bs with
  | nil => exact Gives.pure () []
  | cons b rest => exact Gives.fail _ _

/-- `CheckedReader.manySome` does not come to its `idleLoop` if each item takes a byte off and there
is as much fuel as there are bytes. -/
theorem manySome {item : CheckedReader α} {item' : Reader α} (hitem : ∀ bs, Follows item item' bs)
    (hadvances : item'.Advances) {fuel : Nat} (soFar : List α) {bs : List UInt8}
    (hfuel : bs.length ≤ fuel) :
    Gives (CheckedReader.manySome item fuel soFar) bs (Reader.many.loop item' fuel soFar bs) := by
  -- by induction on the fuel, of which there is as much as there are bytes
  induction fuel generalizing soFar bs with
  | zero =>
    obtain rfl := List.length_eq_zero_iff.mp (Nat.le_zero.mp hfuel)
    exact (Gives.isEmpty []).bind (Gives.pure _ _)
  | succ fuel ih =>
    -- one round of each loop
    rw [Reader.many.loop.eq_def]
    refine (Gives.isEmpty bs).bind ?_
    dsimp only
    split
    · rename_i hempty
      obtain rfl := List.isEmpty_iff.mp hempty
      exact Gives.pure _ _
    · -- an item takes a byte at least, so the fuel lasts for what it leaves
      have hitem := hitem bs
      unfold Follows at hitem
      cases hr : item' bs with
      | error e =>
        rw [hr] at hitem
        exact hitem.bind_error
      | ok p =>
        rw [hr] at hitem
        have hlt := hadvances hr
        exact hitem.bind (ih (p.1 :: soFar) (by omega))

/-- `CheckedReader.many` has as much fuel as there are bytes. -/
theorem many {item : CheckedReader α} {item' : Reader α} (hitem : ∀ bs, Follows item item' bs)
    (hadvances : item'.Advances) (bs : List UInt8) :
    Follows (CheckedReader.many item) (Reader.many item') bs :=
  (Gives.get bs).bind (manySome hitem hadvances [] (Nat.le_refl _))

/-- `runOn` follows `runOn`, on whatever bytes. -/
theorem runOn (h : Follows r r' bs) : Yields (r.runOn bs) (r'.runOn bs) := Yields.map Prod.fst h

/-- `within` follows `within`, on whatever content. -/
theorem within {content : List UInt8} (h : Follows r r' content) (bs : List UInt8) :
    Follows (r.within content) (r'.within content) bs := by
  change Yields (r.runOn content >>= fun a => Pure.pure (a, bs)) ((·, bs) <$> r'.runOn content)
  rw [map_eq_pure_bind]
  exact h.runOn.seq fun a _ => .pure (a, bs)

end Follows

/-! ### The bodies without envelope -/

/-- `readQuery` does not fault, and does what `Wire.readQuery` does. -/
theorem readQuery_follows (bs : List UInt8) : Follows readQuery Wire.readQuery bs := by
  refine (Follows.int32 _ _).bind fun flags _ _ => (Follows.cstring _).bind fun collection _ _ => ?_
  refine (Follows.int32 _ _).bind fun skip _ _ => (Follows.int32 _ _).bind fun limit _ _ => ?_
  refine (Follows.document _).bind fun query _ _ => (Follows.isEmpty _).bind fun last _ _ => ?_
  dsimp only
  split
  · exact (Follows.finish _ _).bind fun _ _ _ => .pure _ _
  · exact ((Follows.document _).map some).bind fun selector _ _ =>
      (Follows.finish _ _).bind fun _ _ _ => .pure _ _

/-- `readGetMore` does not fault, and does what `Wire.readGetMore` does. -/
theorem readGetMore_follows (bs : List UInt8) : Follows readGetMore Wire.readGetMore bs := by
  refine (Follows.int32 _ _).bind fun flags _ _ => (Follows.cstring _).bind fun collection _ _ => ?_
  refine (Follows.int32 _ _).bind fun limit _ _ => (Follows.int64 _ _).bind fun cursorId _ _ => ?_
  exact (Follows.finish _ _).bind fun _ _ _ => .pure _ _

/-- `cursorIds` does not fault, and does what `Wire.cursorIds` does. -/
theorem cursorIds_follows (n : Nat) (bs : List UInt8) :
    Follows (cursorIds n) (Wire.cursorIds n) bs := by
  induction n generalizing bs with
  | zero => exact .pure [] bs
  | succ n ih => exact (Follows.int64 _ _).bind fun id _ _ => (ih _).bind fun ids _ _ => .pure _ _

/-- `readKillCursors` does not fault: a count that is not below zero is compared with what there are
bytes for, and then not changed by any cast. -/
theorem readKillCursors_follows (bs : List UInt8) :
    Follows readKillCursors Wire.readKillCursors bs := by
  refine (Follows.int32 _ _).bind fun _ _ _ => (Follows.int32 _ _).bind fun count rest _ => ?_
  apply Follows.get_right
  by_cases hneg : count.toInt < 0
  · rw [if_pos hneg, if_pos (.inl hneg)]
    exact .fail_bind _ _
  · have hcount : toCount count = .ok count.toInt.toNat := toCount_of_nonneg (by omega)
    rw [if_neg hneg]
    refine Follows.get_left (Follows.step_left hcount ?_)
    -- an announced count is not trusted before it is compared with the bytes that are left
    by_cases hmany : rest.length / 8 < count.toInt.toNat
    · rw [if_pos hmany, if_pos (.inr (by omega))]
      exact .fail_bind _ _
    · rw [if_neg hmany, if_neg (by omega)]
      refine Follows.step_left hcount ?_
      exact (cursorIds_follows _ _).bind fun ids _ _ => (Follows.finish _ _).bind fun _ _ _ =>
        .pure _ _

/-- `readReply` does not fault: the number of documents is brought within bounds before it is
cast. -/
theorem readReply_follows (bs : List UInt8) : Follows readReply Wire.readReply bs := by
  refine (Follows.int32 _ _).bind fun flags _ _ => (Follows.int64 _ _).bind fun cursorId _ _ => ?_
  refine (Follows.int32 _ _).bind fun startingFrom _ _ =>
    (Follows.int32 _ _).bind fun number rest _ => ?_
  have hroom : 0 ≤ (max 0 (min number 1024) : Int32).toInt := nonneg_max _
  refine Follows.step_left (toCount_of_nonneg hroom) ?_
  exact (Follows.many .document Reader.accepts_document.advances _).bind fun documents _ _ =>
    .pure _ _

/-- `readSequence` does not fault, and does what `Wire.readSequence` does. -/
theorem readSequence_follows (bs : List UInt8) : Follows readSequence Wire.readSequence bs := by
  refine (Follows.cstring _).bind fun identifier _ _ => ?_
  exact (Follows.many .document Reader.accepts_document.advances _).map _

/-- `readSection` does not fault: the size of a section counts itself, and it is known to do so
before that is taken off. -/
theorem readSection_follows (bs : List UInt8) : Follows readSection Wire.readSection bs := by
  refine (Follows.byte _ _).bind fun kind _ _ => ?_
  by_cases h0 : kind = 0
  · rw [if_pos h0, if_pos h0]
    exact (Follows.document _).map _
  · rw [if_neg h0, if_neg h0]
    by_cases h1 : kind = 1
    · rw [if_pos h1, if_pos h1]
      refine (Follows.int32 _ _).bind fun size rest _ => ?_
      apply Follows.get_right
      by_cases hsmall : size.toInt < 4
      · rw [if_pos hsmall, if_pos (.inl hsmall)]
        exact .fail_bind _ _
      · -- what is left of the size is a count, and is compared with the bytes that are left
        have hdifference : difference32 size 4 = .ok (size - 4) := difference32_four (by omega)
        have hrest : (size - 4).toInt = size.toInt - 4 := toInt_sub_four (by omega)
        have hcount : toCount (size - 4) = .ok (size.toInt - 4).toNat := by
          rw [toCount_of_nonneg (by omega), hrest]
        rw [if_neg hsmall]
        refine Follows.get_left (Follows.step_left hdifference (Follows.step_left hcount ?_))
        by_cases hmissing : rest.length < (size.toInt - 4).toNat
        · rw [if_pos hmissing, if_pos (.inr (by omega))]
          exact .fail_bind _ _
        · rw [if_neg hmissing, if_neg (by omega)]
          refine Follows.step_left hdifference (Follows.step_left hcount ?_)
          exact (Follows.bytes _ _ _).bind fun content _ _ =>
            .within (readSequence_follows content) _
    · rw [if_neg h1, if_neg h1]
      exact .fail _ _

end CheckedReader

end DocGateway.Wire
