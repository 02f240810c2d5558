import DocGateway.Connection.State
import Mathlib.Algebra.Group.Nat.Defs
/-!
# Which connections look idle

What a connection does, and since when, is kept in one word: the time above, and a tag of eight bits
below. So 56 bits are left for the time, and a word gives back whatever was put into it as long as
the time fits. A connection looks idle for longer than a span only if it has been: not in any other
state, however old, and not by a clock that is behind.

## Key results

- `StateWord.toNat_pack`: the number that a word is
- `StateWord.state_pack`, `StateWord.since_pack`: what is read off a word
- `ConnectionHandle.readsAs_enter`, `ConnectionHandle.ReadsAs.play`: one change of state, and all of
  them
- `ConnectionHandle.ReadsAs.isIdlePast_iff`: whether such a connection has been idle for long enough
- `ConnectionHandle.isIdlePast_play`: every run of a connection
-/

namespace DocGateway

namespace ConnectionState

/-- A `tag` takes eight bits. -/
theorem tag_lt (s : ConnectionState) : s.tag.toNat < 2 ^ 8 := by cases s <;> decide

/-- `ofTag` reads what `tag` writes. -/
theorem ofTag_tag (s : ConnectionState) : ofTag s.tag = s := by cases s <;> rfl

end ConnectionState

/-! ### What is put into a word -/

namespace StateWord

variable (s : ConnectionState) (millis : UInt64)

/-- `pack` puts the tag into the eight bits below the time, of which what does not fit is lost. -/
theorem toNat_pack : (pack s millis).word.toNat = millis.toNat % 2 ^ 56 * 2 ^ 8 + s.tag.toNat := by
  -- a shift within 64 bits loses the upper eight
  have hshift : (millis <<< 8).toNat = (millis.toNat % 2 ^ 56) <<< 8 := by
    rw [UInt64.toNat_shiftLeft, Nat.shiftLeft_eq, Nat.shiftLeft_eq]
    change millis.toNat * 2 ^ 8 % 2 ^ 64 = _
    omega
  -- the tag meets only zeros, so that both are added up
  rw [pack, UInt64.toNat_or, hshift, ← Nat.shiftLeft_add_eq_or_of_lt s.tag_lt, Nat.shiftLeft_eq]

/-- `state` reads what `pack` put in, whatever the time. -/
theorem state_pack : (pack s millis).state = s := by
  have htag : (pack s millis).word &&& 255 = s.tag := by
    apply UInt64.toNat_inj.mp
    have hmask : (255 : UInt64).toNat = 2 ^ 8 - 1 := rfl
    have := s.tag_lt
    rw [UInt64.toNat_and, hmask, Nat.and_two_pow_sub_one_eq_mod, toNat_pack]
    omega
  rw [state, htag, s.ofTag_tag]

/-- `since` reads the time that `pack` put in, less what does not fit. -/
theorem toNat_since_pack : (pack s millis).since.toNat = millis.toNat % 2 ^ 56 := by
  have := s.tag_lt
  rw [since, UInt64.toNat_shiftRight, Nat.shiftRight_eq_div_pow, toNat_pack]
  change (millis.toNat % 2 ^ 56 * 2 ^ 8 + s.tag.toNat) / 2 ^ 8 = _
  omega

variable {millis}

/-- `since` reads a time below `2 ^ 56` as it was. -/
theorem since_pack (h : millis.toNat < 2 ^ 56) : (pack s millis).since = millis := by
  apply UInt64.toNat_inj.mp
  rw [toNat_since_pack, Nat.mod_eq_of_lt h]

end StateWord

/-! ### What becomes of a connection -/

/-- A state that a connection enters, and when. -/
structure StateChange where
  state : ConnectionState
  millis : UInt64
deriving DecidableEq, Repr, Inhabited

/-- What is done with a connection that is kept track of. -/
inductive ConnectionCall where
  | enter (change : StateChange)
  | requestClose
deriving DecidableEq, Repr, Inhabited

/-- The last change of state there has been, where `first` came before all others. -/
def lastChange (first : StateChange) : List ConnectionCall → StateChange
  | [] => first
  | .enter change :: calls => lastChange change calls
  | .requestClose :: calls => lastChange first calls

namespace ConnectionHandle

/-- Goes through calls one after another. -/
def play (c : ConnectionHandle) : List ConnectionCall → ConnectionHandle
  | [] => c
  | .enter change :: calls => (c.enter change.state change.millis).play calls
  | .requestClose :: calls => c.requestClose.play calls

/-- `state` and `since` read what a change of state wrote. -/
structure ReadsAs (c : ConnectionHandle) (change : StateChange) : Prop where
  state : c.state.state = change.state
  since : c.state.since = change.millis

variable {c : ConnectionHandle} {change : StateChange}

/-- `enter` is read as the change of state that it is. -/
theorem readsAs_enter (c : ConnectionHandle) (h : change.millis.toNat < 2 ^ 56) :
    (c.enter change.state change.millis).ReadsAs change where
  state := StateWord.state_pack _ _
  since := StateWord.since_pack _ h

/-- `requestClose` leaves the word, so it is read as before. -/
theorem ReadsAs.requestClose (h : c.ReadsAs change) : c.requestClose.ReadsAs change :=
  ⟨h.state, h.since⟩

/-- After any calls, a connection is read as its `lastChange`. -/
theorem ReadsAs.play (h : c.ReadsAs change) {calls : List ConnectionCall}
    (hcalls : ∀ x, .enter x ∈ calls → x.millis.toNat < 2 ^ 56) :
    (c.play calls).ReadsAs (lastChange change calls) := by
  -- by induction on the calls: one that enters a state makes it the one that is read, and the other
  -- changes nothing
  induction calls generalizing c change with
  | nil => exact h
  | cons call calls ih =>
    have hlater : ∀ x, .enter x ∈ calls → x.millis.toNat < 2 ^ 56 :=
      fun x hx => hcalls x (List.mem_cons_of_mem _ hx)
    cases call with
    | enter x => exact ih (c.readsAs_enter (hcalls x List.mem_cons_self)) hlater
    | requestClose => exact ih h.requestClose hlater

/-- `isIdlePast` holds of a connection that is idle, by a clock that is further on than its last
change by more than the span. -/
theorem ReadsAs.isIdlePast_iff (h : c.ReadsAs change) (now : UInt64) (grace : Span) :
    c.isIdlePast now grace = true ↔
      change.state = .idle ∧ (Span.ofMillis change.millis.toNat).nanos + grace.nanos <
        (Span.ofMillis now.toNat).nanos := by
  -- a clock that is behind shows no time passed, which is not more than any span
  have hspan (since : Nat) : grace.nanos < (Span.ofMillis (now.toNat - since)).nanos ↔
      (Span.ofMillis since).nanos + grace.nanos < (Span.ofMillis now.toNat).nanos := by
    simp only [Span.ofMillis]
    omega
  rw [isIdlePast, StateWord.isIdlePast, decide_eq_true_iff, StateWord.elapsed, h.state,
    h.since, hspan]

/-- However often a connection has changed its state, and whether it was asked to close or not, its
`StateWord` gives the `lastChange`: the state that it entered last and when, as long as each time
fits into 56 bits. By any clock, `isIdlePast` holds if and only if that state is `.idle` and the
clock is further on by more than the span. So it never holds of a connection that waits for its
first message, handles one or is closed, however old, and of none by a clock that is behind. -/
theorem isIdlePast_play (id : UInt64) (addr : SocketAddress) (accepted : UInt64)
    (calls : List ConnectionCall) (haccepted : accepted.toNat < 2 ^ 56)
    (hcalls : ∀ x, .enter x ∈ calls → x.millis.toNat < 2 ^ 56) :
    let c := (accept id addr accepted).play calls
    let last := lastChange ⟨.fresh, accepted⟩ calls
    (c.state.state, c.state.since) = (last.state, last.millis) ∧
    ∀ now grace,
      (c.isIdlePast now grace = true ↔
        last.state = .idle ∧ (Span.ofMillis last.millis.toNat).nanos + grace.nanos <
          (Span.ofMillis now.toNat).nanos) ∧
      (last.state ≠ .idle → c.isIdlePast now grace = false) ∧
      (now < last.millis → c.isIdlePast now grace = false) := by
  intro c last
  -- the word is written at the start, and read as the last change after any calls
  have hfirst : (accept id addr accepted).ReadsAs ⟨.fresh, accepted⟩ :=
    ⟨StateWord.state_pack _ _, StateWord.since_pack _ haccepted⟩
  have hlast : c.ReadsAs last := hfirst.play hcalls
  refine ⟨Prod.ext hlast.state hlast.since, ?_⟩
  intro now grace
  refine ⟨hlast.isIdlePast_iff now grace, ?_, ?_⟩
  · intro hbusy
    rw [Bool.eq_false_iff, ne_eq, hlast.isIdlePast_iff]
    exact fun h => hbusy h.1
  · intro hbehind
    rw [Bool.eq_false_iff, ne_eq, hlast.isIdlePast_iff]
    rintro ⟨-, hpast⟩
    -- spans in nanoseconds are ordered as the milliseconds are
    have := UInt64.lt_iff_toNat_lt.mp hbehind
    simp only [Span.ofMillis] at hpast
    omega

/-- The clock is set back between two messages. `isIdlePast` is asked less than a millisecond before
the end of a span, at its end, and by a clock that is behind. -/
theorem isIdlePast_play_setBack :
    let calls : List ConnectionCall :=
      [.enter ⟨.idle, 1000⟩, .requestClose, .enter ⟨.active, 5000⟩, .enter ⟨.idle, 4000⟩]
    let c := (accept 1 (.loopback 27017) 50).play calls
    ((50 : UInt64).toNat < 2 ^ 56 ∧ ∀ x, .enter x ∈ calls → x.millis.toNat < 2 ^ 56) ∧
      (c.state.state, c.state.since) = (.idle, 4000) ∧
      c.isIdlePast 4006 ⟨5999999⟩ = true ∧ c.isIdlePast 4006 6 = false ∧
      c.isIdlePast 3000 0 = false := by
  intro calls c
  have haccepted : (50 : UInt64).toNat < 2 ^ 56 := by decide
  have hcalls : ∀ x, .enter x ∈ calls → x.millis.toNat < 2 ^ 56 := by
    intro x hx
    simp only [calls, List.mem_cons, ConnectionCall.enter.injEq, reduceCtorEq, List.not_mem_nil,
      or_false, false_or] at hx
    obtain rfl | rfl | rfl := hx <;> decide
  -- the last change was at 4000, after one at 5000
  obtain ⟨hread, hidle⟩ := isIdlePast_play 1 (.loopback 27017) 50 calls haccepted hcalls
  refine ⟨⟨haccepted, hcalls⟩, hread, (hidle 4006 ⟨5999999⟩).1.mpr ⟨rfl, by decide⟩, ?_,
    (hidle 3000 0).2.2 (by decide)⟩
  rw [Bool.eq_false_iff, ne_eq, (hidle 4006 6).1]
  decide

end ConnectionHandle

end DocGateway
