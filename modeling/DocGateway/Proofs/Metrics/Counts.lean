import DocGateway.Command.ErrorCode
import DocGateway.Metrics.Registry
import DocGateway.Wire.Opcode
/-!
# Counts of a gateway

A tally takes down one label after another. A label is counted in its series, and the series of
opcodes and of error codes are all told apart, so that their counts are exact. What a gateway has
counted is given by the labels that were taken down, in their order.

## Key results

- `Tally.count_foldl`, `Tally.total_foldl`: the counts after some labels
- `Metrics.Grows`: what is counted besides
-/

namespace DocGateway

/-- The series in which a label is counted is that of another. -/
def sameSeries (label other : String) : Bool := seriesKey [label] == seriesKey [other]

/-- `sameSeries` tells opcodes apart. -/
theorem sameSeries_opcode (o p : Wire.Opcode) : sameSeries o.name p.name = decide (o = p) := by
  cases o <;> cases p <;> decide +kernel

/-- `sameSeries` tells error codes apart. -/
theorem sameSeries_errorCode (c e : ErrorCode) : sameSeries c.name e.name = decide (c = e) := by
  cases c <;> cases e <;> decide +kernel

namespace Tally

/-- The count of a label in some series. -/
def countIn (label : String) (counts : List (String × Nat)) : Nat :=
  ((counts.find? fun c => sameSeries c.1 label).map Prod.snd).getD 0

/-- `countIn` is the count of the first series that is the label's. -/
theorem countIn_cons (label other : String) (n : Nat) (counts : List (String × Nat)) :
    countIn label ((other, n) :: counts) =
      if sameSeries other label then n else countIn label counts := by
  cases h : sameSeries other label <;> simp [countIn, h]

/-- `incrementIn` counts a label once in its series. -/
theorem countIn_incrementIn (label other : String) (counts : List (String × Nat)) :
    countIn label (incrementIn other counts) = countIn label counts +
      (if sameSeries other label then 1 else 0) := by
  induction counts with
  | nil =>
    rw [incrementIn, countIn_cons]
    split <;> rfl
  | cons c counts ih =>
    obtain ⟨first, n⟩ := c
    rw [incrementIn]
    split
    · -- the label that stands for the series is another one of it
      rename_i hkey
      have hsame : sameSeries first label = sameSeries other label := by
        rw [sameSeries, sameSeries, eq_of_beq hkey]
      rw [countIn_cons, countIn_cons, hsame]
      split <;> rfl
    · rename_i hkey
      rw [countIn_cons, countIn_cons, ih]
      by_cases hfirst : sameSeries first label = true
      · -- so the other label is not of this series
        have hother : sameSeries other label = false := by
          rw [Bool.eq_false_iff]
          intro hother
          exact hkey (beq_iff_eq.mpr ((eq_of_beq hfirst).trans (eq_of_beq hother).symm))
        simp [hfirst, hother]
      · simp [hfirst]

variable (t : Tally) (labels : List String)

/-- `increment` counts a label once in its series. -/
theorem count_increment (label other : String) :
    (t.increment other).count label = t.count label + (if sameSeries other label then 1 else 0) :=
  countIn_incrementIn label other t.counts

/-- `increment` counts one label more. -/
theorem total_increment (label : String) : (t.increment label).total = t.total + 1 := by
  obtain ⟨counts⟩ := t
  simp only [total, increment]
  induction counts with
  | nil => rfl
  | cons c counts ih =>
    obtain ⟨other, n⟩ := c
    rw [incrementIn]
    split
    · simp only [List.map_cons, sum_cons]
      omega
    · simp only [List.map_cons, sum_cons, ih]
      omega

/-- `increment` for some labels counts, in each series, those of its own. -/
theorem count_foldl (label : String) :
    (labels.foldl increment t).count label = t.count label +
      labels.countP (sameSeries · label) := by
  induction labels generalizing t with
  | nil => rfl
  | cons other labels ih =>
    rw [List.foldl_cons, ih, count_increment, List.countP_cons]
    omega

/-- `increment` for some labels counts as many. -/
theorem total_foldl : (labels.foldl increment t).total = t.total + labels.length := by
  induction labels generalizing t with
  | nil => rfl
  | cons label labels ih =>
    rw [List.foldl_cons, ih, total_increment, List.length_cons]
    omega

end Tally

namespace Metrics

/-- Metrics come of others by counting messages, commands and errors under these labels, and these
cursors. What else there is in metrics may have changed. -/
structure Grows (before after : Metrics) (messages commands errors : List String)
    (opened expired : List Int64) : Prop where
  messages : after.messages = messages.foldl Tally.increment before.messages
  commands : after.commands = commands.foldl Tally.increment before.commands
  errors : after.errors = errors.foldl Tally.increment before.errors
  opened : after.cursorsOpened = before.cursorsOpened + opened.length
  expired : after.cursorsExpired = before.cursorsExpired + expired.length

namespace Grows

variable {m m' m'' : Metrics} {messages messages' commands commands' errors errors' : List String}
  {opened opened' expired expired' : List Int64}

/-- Nothing is counted by doing nothing. -/
theorem refl (m : Metrics) : m.Grows m [] [] [] [] [] := ⟨rfl, rfl, rfl, rfl, rfl⟩

/-- What is counted by one thing comes before what is counted by the next. -/
theorem trans (h : m.Grows m' messages commands errors opened expired)
    (h' : m'.Grows m'' messages' commands' errors' opened' expired') :
    m.Grows m'' (messages ++ messages') (commands ++ commands') (errors ++ errors')
      (opened ++ opened') (expired ++ expired') where
  messages := by rw [h'.messages, h.messages, List.foldl_append]
  commands := by rw [h'.commands, h.commands, List.foldl_append]
  errors := by rw [h'.errors, h.errors, List.foldl_append]
  opened := by rw [h'.opened, h.opened, List.length_append, Nat.add_assoc]
  expired := by rw [h'.expired, h.expired, List.length_append, Nat.add_assoc]

/-- `message` counts an opcode. -/
theorem message (m : Metrics) (opcode : String) : m.Grows (m.message opcode) [opcode] [] [] [] [] :=
  ⟨rfl, rfl, rfl, rfl, rfl⟩

/-- `command` counts a name. -/
theorem command (m : Metrics) (name : String) : m.Grows (m.command name) [] [name] [] [] [] :=
  ⟨rfl, rfl, rfl, rfl, rfl⟩

/-- `error` counts a code. -/
theorem error (m : Metrics) (codeName : String) :
    m.Grows (m.error codeName) [] [] [codeName] [] [] := ⟨rfl, rfl, rfl, rfl, rfl⟩

/-- `cursorOpened` counts a cursor. -/
theorem cursorOpened (m : Metrics) (id : Int64) : m.Grows m.cursorOpened [] [] [] [id] [] :=
  ⟨rfl, rfl, rfl, rfl, rfl⟩

/-- `cursorExpired` counts a cursor. -/
theorem cursorExpired (m : Metrics) (id : Int64) : m.Grows m.cursorExpired [] [] [] [] [id] :=
  ⟨rfl, rfl, rfl, rfl, rfl⟩

end Grows

end Metrics

end DocGateway
