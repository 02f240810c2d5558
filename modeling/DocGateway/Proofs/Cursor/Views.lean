import DocGateway.Proofs.Cursor.Lifetimes
/-!
# What can be told of a cursor

All that a client is ever told of the cache is how many documents were sent from a cursor. Each
operation is described here by what it does to these numbers, cursor by cursor, so that two caches
with the same numbers for some cursors can be compared.

## Key results

- `sent_get`, `sent_track`, `sent_take`, `sent_consume`: what each operation does to the number of a
  cursor
- `Holds.track`: what becomes of a cursor that is looked up before its command runs
-/

namespace DocGateway

open Bson (Document)

namespace CursorCache

/-- The number of documents sent from a cursor as long as it has been cached. -/
def sent (c : CursorCache) (id : Int64) : Nat :=
  ((c.slot? id).map fun slot => c.consumed slot.handle).getD 0

/-- Slots lead to entries of their cursors, and the exhausted cursor has none. -/
structure Labelled (c : CursorCache) : Prop where
  idAt_slot {id : Int64} {slot : CursorSlot} (h : c.slot? id = some slot) :
    c.idAt slot.handle = some id
  exhausted : c.slot? exhaustedCursor = none

variable {c c' : CursorCache} {id : Int64} {h : CursorHandle} (now : Nat)

/-- `sent` is what is counted at the entry of a cached cursor. -/
theorem sent_of_slot {slot : CursorSlot} (hslot : c.slot? id = some slot) :
    c.sent id = c.consumed slot.handle := by
  simp [sent, hslot]

/-- `sent` is zero for a cursor that is not cached. -/
theorem sent_of_none (hslot : c.slot? id = none) : c.sent id = 0 := by
  simp [sent, hslot]

/-- Nothing is counted at an entry that is not there. -/
theorem consumed_length (c : CursorCache) : c.consumed c.entries.length = 0 := by
  simp [consumed, entry?]

/-- An empty cache is `Labelled`: it has no slots that could lead anywhere. -/
theorem labelled_empty (ttl : Nat) : (empty ttl).Labelled := ⟨nofun, rfl⟩

namespace Labelled

/-- `sent` is zero for the exhausted cursor, which is never cached. -/
theorem sent_exhausted (hc : c.Labelled) : c.sent exhaustedCursor = 0 := sent_of_none hc.exhausted

/-- `Labelled` is kept where nothing is looked up. -/
theorem shrink (hc : c.Labelled) (hshrinks : c.Shrinks c') : c'.Labelled where
  idAt_slot {id slot} hslot := by
    obtain hnone | hsame := hshrinks.slot? id
    · rw [hnone] at hslot
      cases hslot
    · rw [hshrinks.idAt]
      exact hc.idAt_slot (hsame ▸ hslot)
  exhausted := by
    obtain hnone | hsame := hshrinks.slot? exhaustedCursor
    · exact hnone
    · exact hsame.trans hc.exhausted

/-- The entry that `get` finds is one of the cursor. -/
theorem idAt_get (hc : c.Labelled) (id : Int64) :
    (c.get now id).2.idAt (c.get now id).1 = some id := by
  cases hslot : c.slot? id with
  | none =>
    rw [(c.get_of_none now hslot).1]
    exact idAt_get_length now hslot
  | some slot =>
    -- the number of no cursor is not cached
    have hid : id ≠ exhaustedCursor := by
      rintro rfl
      rw [hc.exhausted] at hslot
      cases hslot
    rw [(c.get_of_slot now hid hslot).1,
      idAt_get_of_lt now (lt_length_of_idAt (hc.idAt_slot hslot))]
    exact hc.idAt_slot hslot

/-- `Labelled` is kept by `get`. -/
theorem get (hc : c.Labelled) (id : Int64) : (c.get now id).2.Labelled where
  idAt_slot {other slot} hslot := by
    -- the exhausted cursor gets no slot, and the slots of all others lead where they did
    by_cases hid : id = exhaustedCursor
    · subst hid
      rw [slot?_get_exhausted] at hslot
      rw [idAt_get_of_lt now (lt_length_of_idAt (hc.idAt_slot hslot))]
      exact hc.idAt_slot hslot
    · rw [c.slot?_get now hid] at hslot
      split at hslot
      · rename_i hother
        subst hother
        cases hslot
        exact hc.idAt_get now other
      · rw [idAt_get_of_lt now (lt_length_of_idAt (hc.idAt_slot hslot))]
        exact hc.idAt_slot hslot
  exhausted := by
    by_cases hid : id = exhaustedCursor
    · subst hid
      rw [slot?_get_exhausted]
      exact hc.exhausted
    · rw [c.slot?_get now hid, if_neg (Ne.symm hid)]
      exact hc.exhausted

/-- `Labelled` is kept by `track`. -/
theorem track (hc : c.Labelled) (command : Command) (response : Document) :
    (c.track now command response).2.Labelled := by
  obtain hsame | ⟨ids, hclosed⟩ | ⟨-, id, -, -, hget⟩ := c.track_cases now command response
  · rw [hsame]
    exact hc
  · rw [hclosed]
    exact hc.shrink (shrinks_closeAll ids)
  · rw [hget]
    exact hc.get now id

end Labelled

/-! ### Look-ups and removals -/

/-- The entry that `get` finds counts what was sent from the cursor. -/
theorem consumed_fst_get (hc : c.Labelled) (id : Int64) :
    c.consumed (c.get now id).1 = c.sent id := by
  cases hslot : c.slot? id with
  | none => rw [(c.get_of_none now hslot).1, consumed_length, sent_of_none hslot]
  | some slot =>
    have hid : id ≠ exhaustedCursor := by
      rintro rfl
      rw [hc.exhausted] at hslot
      cases hslot
    rw [(c.get_of_slot now hid hslot).1, sent_of_slot hslot]

/-- `get` sends nothing. -/
theorem sent_get (hc : c.Labelled) (id other : Int64) :
    (c.get now id).2.sent other = c.sent other := by
  by_cases ho : other = id
  · subst ho
    by_cases hid : other = exhaustedCursor
    · subst hid
      rw [(hc.get now _).sent_exhausted, hc.sent_exhausted]
    · have hslot := c.slot?_get now hid other
      rw [if_pos rfl] at hslot
      rw [sent_of_slot hslot, consumed_get, consumed_fst_get now hc]
  · rw [sent, sent, c.slot?_get_of_ne now ho]
    simp only [consumed_get]

/-- `closeAll` forgets what was sent from its cursors, and of no others. -/
theorem sent_closeAll (ids : List Int64) (other : Int64) :
    (c.closeAll ids).sent other = if other ∈ ids then 0 else c.sent other := by
  simp only [sent, slot?_closeAll, consumed_closeAll]
  split <;> rfl

/-! ### Responses -/

/-- The cursors that are closed for a response: those that a command kills, or the one of which
there is no more. No command names cursors in both ways. -/
def closedBy (command : Command) (response : Document) : List Int64 :=
  if isOk response then
    command.cursorIds ++
      if respondedCursor? response = some exhaustedCursor then command.cursorId?.toList else []
  else []

/-- `closedBy` lists only cursors that the command names. -/
theorem named_of_mem_closedBy {command : Command} {response : Document}
    (hid : id ∈ closedBy command response) :
    command.cursorId? = some id ∨ id ∈ command.cursorIds := by
  rw [closedBy] at hid
  split at hid
  · obtain hid | hid := List.mem_append.mp hid
    · exact .inr hid
    · split at hid
      · exact .inl (Option.mem_toList.mp hid)
      · cases hid
  · cases hid

/-- `track` closes the cursors of `closedBy`, or looks one up that the response names. -/
theorem track_eq (c : CursorCache) (command : Command) (response : Document) :
    (c.track now command response).2 = c.closeAll (closedBy command response) ∨
      (closedBy command response = [] ∧ ∃ id, id ≠ exhaustedCursor ∧
        (c.track now command response).2 = (c.get now id).2) := by
  cases hok : isOk response with
  | false => exact .inl (by rw [c.track_of_failed now hok, closedBy, hok]; rfl)
  | true =>
    -- a kill names cursors in one way, and any other command in the other
    by_cases hkind : command.kind = .killCursors
    · have hnone : command.cursorId? = none := by simp [Command.cursorId?, hkind]
      exact .inl (by simp [c.track_of_kill now hok hkind, closedBy, hok, hnone])
    · have hnone : command.cursorIds = [] := by
        rw [Command.cursorIds]
        split
        · exact absurd ‹_› hkind
        · rfl
      cases hid : respondedCursor? response with
      | none =>
        exact .inl (by simp [c.track_of_unnamed now hkind hid, closedBy, hok, hnone, hid, closeAll])
      | some id =>
        by_cases hne : id = exhaustedCursor
        · subst hne
          exact .inl (by simp [c.track_of_exhausted now hok hkind hid, closedBy, hok, hnone, hid])
        · exact .inr ⟨by simp [closedBy, hok, hnone, hid, hne], id, hne,
            by rw [c.track_of_named now hok hkind hid hne]⟩

/-- `track` sends nothing, but of the cursors that it closes nothing is known any more. -/
theorem sent_track (hc : c.Labelled) (command : Command) (response : Document) (other : Int64) :
    (c.track now command response).2.sent other =
      if other ∈ closedBy command response then 0 else c.sent other := by
  obtain hclosed | ⟨hnone, id, -, hget⟩ := c.track_eq now command response
  · rw [hclosed, sent_closeAll]
  · rw [hget, hnone, sent_get now hc]
    simp

/-- `track` counts nothing. -/
@[simp] theorem consumed_track (command : Command) (response : Document) (h : CursorHandle) :
    (c.track now command response).2.consumed h = c.consumed h := by
  obtain hclosed | ⟨-, id, -, hget⟩ := c.track_eq now command response
  · rw [hclosed, consumed_closeAll]
  · rw [hget, consumed_get]

/-! ### Held entries -/

/-- An entry of a cursor is held, which is still that of the cursor if the cursor is cached. -/
structure Holds (c : CursorCache) (h : CursorHandle) (id : Int64) : Prop where
  idAt : c.idAt h = some id
  handle_eq {slot : CursorSlot} (hslot : c.slot? id = some slot) : slot.handle = h

/-- `get` gives an entry that is held. -/
theorem holds_get (hc : c.Labelled) (id : Int64) : (c.get now id).2.Holds (c.get now id).1 id where
  idAt := hc.idAt_get now id
  handle_eq {slot} hslot := by
    by_cases hid : id = exhaustedCursor
    · subst hid
      rw [(hc.get now _).exhausted] at hslot
      cases hslot
    · rw [c.slot?_get now hid, if_pos rfl] at hslot
      cases hslot
      rfl

/-- `Holds` is kept by `track` for a cursor that is cached: it keeps its entry, or is closed. -/
theorem Holds.track (hh : c.Holds h id) (hcached : id = exhaustedCursor ∨ c.contains id = true)
    (command : Command) (response : Document) :
    (c.track now command response).2.Holds h id := by
  obtain hclosed | ⟨-, named, hnamed, hget⟩ := c.track_eq now command response
  · rw [hclosed]
    have hshrinks := shrinks_closeAll (c := c) (closedBy command response)
    refine ⟨(hshrinks.idAt h).trans hh.idAt, fun {slot} hslot => ?_⟩
    obtain hnone | hsame := hshrinks.slot? id
    · rw [hnone] at hslot
      cases hslot
    · exact hh.handle_eq (hsame ▸ hslot)
  -- the response names a cursor, this one or another
  · rw [hget]
    refine ⟨(idAt_get_of_lt now (lt_length_of_idAt hh.idAt) named).trans hh.idAt,
      fun {slot} hslot => ?_⟩
    rw [c.slot?_get now hnamed] at hslot
    split at hslot
    · rename_i heq
      subst heq
      cases hslot
      obtain rfl | hcontains := hcached
      · exact absurd rfl hnamed
      · obtain ⟨before, hbefore⟩ := Option.isSome_iff_exists.mp hcontains
        exact (c.get_of_slot now hnamed hbefore).1.trans (hh.handle_eq hbefore)
    · exact hh.handle_eq hslot

/-- `track` leaves a cursor cached, unless it closes it. -/
theorem contains_track (hcontains : c.contains id = true) (command : Command)
    (response : Document) :
    (c.track now command response).2.contains id = decide (id ∉ closedBy command response) := by
  obtain hclosed | ⟨hnone, named, -, hget⟩ := c.track_eq now command response
  · rw [contains] at hcontains
    rw [hclosed, contains, slot?_closeAll]
    split
    · simp [*]
    · simp [*]
  · rw [hget, hnone, c.contains_get_of_contains now hcontains]
    simp

/-- What is counted at a held entry is sent from its cursor, if that is still cached, and from no
other. -/
theorem sent_consume (hc : c.Labelled) (hh : c.Holds h id) (n : Nat) (other : Int64) :
    (c.consume h n).sent other = c.sent other + if other = id ∧ c.contains id then n else 0 := by
  have hlt := lt_length_of_idAt hh.idAt
  cases hslot : c.slot? other with
  | none =>
    have hnot : ¬(other = id ∧ c.contains id = true) := by
      rintro ⟨rfl, hcontains⟩
      rw [contains, hslot] at hcontains
      cases hcontains
    rw [sent_of_none hslot, if_neg hnot]
    exact sent_of_none (c := c.consume h n) hslot
  | some slot =>
    have hafter : (c.consume h n).sent other = (c.consume h n).consumed slot.handle :=
      sent_of_slot (c := c.consume h n) hslot
    rw [hafter, consumed_consume c hlt, sent_of_slot hslot]
    congr 1
    by_cases ho : other = id
    · subst ho
      simp [hh.handle_eq hslot, contains, hslot]
    · -- entries of two cursors are two entries
      have hne : h ≠ slot.handle := by
        rintro rfl
        exact ho (Option.some.inj ((hc.idAt_slot hslot).symm.trans hh.idAt))
      rw [if_neg hne, if_neg fun hboth => ho hboth.1]

/-- What a first batch takes is sent from the cursor of the batch. -/
theorem sent_take (hc : c.Labelled) (hid : id ≠ exhaustedCursor) (n : Nat) (other : Int64) :
    ((c.get now id).2.consume (c.get now id).1 n).sent other =
      c.sent other + if other = id then n else 0 := by
  rw [sent_consume (hc.get now id) (holds_get now hc id), sent_get now hc, c.contains_get now hid]
  simp

/-- `consume` of nothing changes nothing. -/
theorem consume_zero (c : CursorCache) (h : CursorHandle) : c.consume h 0 = c := by
  have hentries : c.entries.modify h (fun e => { e with consumed := e.consumed + 0 }) = c.entries :=
    List.modify_id h c.entries
  rw [consume, modify, hentries]

/-- `Labelled` is kept by `consume`. -/
theorem Labelled.consume (hc : c.Labelled) (h : CursorHandle) (n : Nat) :
    (c.consume h n).Labelled := hc.shrink (shrinks_consume h n)

end CursorCache

end DocGateway
