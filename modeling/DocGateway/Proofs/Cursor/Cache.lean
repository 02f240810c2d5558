import DocGateway.Cursor.Track
/-!
# What the operations on the cursor cache do

Each operation is described by what can be seen of the cache after it: which cursors have a slot, to
which entry a slot leads, and how many documents an entry counts.

## Key results

- `slot?_get`, `slot?_close`: look-ups and removals, cursor by cursor
- `get_of_slot`, `get_of_none`: a cached cursor keeps its entry, any other gets the next free one
- `consumed_get`, `consumed_consume`: only `consume` changes a count, and that of one entry
- `track_eq_cases`, `track_cases`: what a response can do to the cache
-/

namespace DocGateway

open Bson (Document)

namespace CursorCache

/-- The number of documents sent from the cursor of an entry. -/
def consumed (c : CursorCache) (h : CursorHandle) : Nat := ((c.entry? h).map (·.consumed)).getD 0

/-! ### Look-ups in lists of slots -/

/-- `lookup` finds the first slot, or looks among the others. -/
private theorem lookup_cons_eq (key : Int64) (slot : CursorSlot) (slots : List (Int64 × CursorSlot))
    (id : Int64) :
    ((key, slot) :: slots).lookup id = if id = key then some slot else slots.lookup id := by
  by_cases h : id = key
  · simp [h]
  · simp [List.lookup_cons, beq_eq_false_iff_ne.mpr h, h]

/-- `lookup` finds a slot that is touched as it is afterwards, if it is there. -/
private theorem lookup_touch (slots : List (Int64 × CursorSlot)) (id other : Int64)
    (slot : CursorSlot) :
    (slots.map fun s => if s.1 == id then (id, slot) else s).lookup other =
      (slots.lookup other).map fun s => if other = id then slot else s := by
  induction slots with
  | nil => rfl
  | cons s slots ih =>
    obtain ⟨key, present⟩ := s
    by_cases hkey : key = id
    · subst hkey
      by_cases ho : other = key <;> simp_all [lookup_cons_eq]
    · by_cases ho : other = key <;> simp_all [lookup_cons_eq]

/-- `lookup` does not find a slot that is removed, and finds all others. -/
private theorem lookup_remove (slots : List (Int64 × CursorSlot)) (id other : Int64) :
    (slots.filter (·.1 != id)).lookup other = if other = id then none else slots.lookup other := by
  induction slots with
  | nil => simp
  | cons s slots ih =>
    obtain ⟨key, present⟩ := s
    by_cases hkey : key = id
    · have hfilter : ((key, present) :: slots).filter (·.1 != id) = slots.filter (·.1 != id) := by
        simp [hkey]
      rw [hfilter, ih, lookup_cons_eq, hkey]
      by_cases ho : other = id <;> simp [ho]
    · by_cases ho : other = key <;> simp_all [lookup_cons_eq]

/-- `lookup` finds a new slot, and all others as before. -/
private theorem lookup_add {slots : List (Int64 × CursorSlot)} {id : Int64}
    (hnone : slots.lookup id = none) (other : Int64) (slot : CursorSlot) :
    (slots ++ [(id, slot)]).lookup other =
      if other = id then some slot else slots.lookup other := by
  induction slots with
  | nil => simp [lookup_cons_eq]
  | cons s slots ih =>
    obtain ⟨key, present⟩ := s
    rw [lookup_cons_eq] at hnone
    -- the number is not yet there, so it is not in front of the new one
    have hkey : ¬id = key := by
      intro h
      rw [if_pos h] at hnone
      cases hnone
    rw [if_neg hkey] at hnone
    rw [List.cons_append, lookup_cons_eq, lookup_cons_eq, ih hnone]
    by_cases ho : other = key
    · simp [ho, Ne.symm hkey]
    · simp [ho]

variable (c : CursorCache) (now : Nat) {id : Int64}

/-! ### Look-ups -/

/-- `get` gives a cached cursor the entry that it has. -/
theorem get_of_slot {slot : CursorSlot} (hid : id ≠ exhaustedCursor) (h : c.slot? id = some slot) :
    (c.get now id).1 = slot.handle ∧ (c.get now id).2.entries = c.entries := by
  simp [get, hid, h]

/-- `get` gives a cursor that is not cached a new entry behind all others. -/
theorem get_of_none (h : c.slot? id = none) :
    (c.get now id).1 = c.entries.length ∧ (c.get now id).2.entries = c.entries ++ [.fresh id] := by
  by_cases hid : id = exhaustedCursor <;> simp [get, hid, h, allocate]

/-- `get` always makes a new entry for the exhausted cursor, and never a slot. -/
theorem get_exhausted :
    c.get now exhaustedCursor = (c.entries.length, c.allocate exhaustedCursor) := by
  simp [get]

/-- `get` gives a slot to the cursor that was looked up, and leaves all others alone. -/
theorem slot?_get (hid : id ≠ exhaustedCursor) (other : Int64) :
    (c.get now id).2.slot? other =
      if other = id then some ⟨(c.get now id).1, now⟩ else c.slot? other := by
  cases h : c.slot? id with
  | none =>
    have hnone : c.slots.lookup id = none := h
    simp only [get, hid, ↓reduceIte, h]
    exact lookup_add hnone other _
  | some slot =>
    have hsome : c.slots.lookup id = some slot := h
    simp only [get, hid, ↓reduceIte, h]
    -- the slot of the cursor is touched in its place
    simp only [slot?, lookup_touch]
    by_cases ho : other = id
    · simp [ho, hsome]
    · simp [ho]

/-- `get` leaves the time to live. -/
@[simp] theorem ttl_get (id : Int64) : (c.get now id).2.ttl = c.ttl := by
  unfold get
  split
  · rfl
  · split <;> rfl

/-- `get` of the exhausted cursor leaves all slots. -/
@[simp] theorem slot?_get_exhausted (id : Int64) :
    (c.get now exhaustedCursor).2.slot? id = c.slot? id := by
  rw [get_exhausted]
  rfl

/-- `get` leaves the slots of other cursors, whatever is looked up. -/
theorem slot?_get_of_ne {other : Int64} (h : other ≠ id) :
    (c.get now id).2.slot? other = c.slot? other := by
  by_cases hid : id = exhaustedCursor
  · subst hid
    exact slot?_get_exhausted c now other
  · rw [slot?_get c now hid, if_neg h]

/-- `get` leaves the cursor cached. -/
@[simp] theorem contains_get (hid : id ≠ exhaustedCursor) :
    (c.get now id).2.contains id = true := by
  rw [contains, slot?_get c now hid, if_pos rfl]
  rfl

/-- `get` leaves cached what is cached. -/
theorem contains_get_of_contains {other : Int64} (h : c.contains other = true) :
    (c.get now id).2.contains other = true := by
  by_cases hid : id = exhaustedCursor
  · subst hid
    rwa [contains, slot?_get_exhausted]
  · by_cases ho : other = id
    · subst ho
      exact contains_get c now hid
    · rwa [contains, slot?_get_of_ne c now ho]

/-- What is cached after `get` was cached before, or was looked up. -/
theorem contains_of_get {other : Int64} (h : (c.get now id).2.contains other = true) :
    other = id ∨ c.contains other = true := by
  by_cases ho : other = id
  · exact .inl ho
  · rw [contains, slot?_get_of_ne c now ho] at h
    exact .inr h

/-! ### Removals -/

/-- `close` takes the slot of one cursor. -/
theorem slot?_close (id other : Int64) :
    (c.close id).slot? other = if other = id then none else c.slot? other :=
  lookup_remove c.slots id other

/-- `close` leaves the cursor uncached. -/
@[simp] theorem contains_close_self (id : Int64) : (c.close id).contains id = false := by
  simp [contains, slot?_close]

/-- `closeAll` takes the slots of its cursors and no others. -/
theorem slot?_closeAll (ids : List Int64) (other : Int64) :
    (c.closeAll ids).slot? other = if other ∈ ids then none else c.slot? other := by
  induction ids generalizing c with
  | nil => rfl
  | cons id ids ih =>
    have hfold : c.closeAll (id :: ids) = (c.close id).closeAll ids := rfl
    rw [hfold, ih, slot?_close]
    by_cases h : other = id <;> simp [h]

/-- `closeAll` leaves its cursors uncached, and the others as they were. -/
theorem contains_closeAll (ids : List Int64) (other : Int64) :
    (c.closeAll ids).contains other = (!ids.contains other && c.contains other) := by
  rw [contains, slot?_closeAll, contains]
  by_cases h : other ∈ ids <;> simp [h]

/-- `closeAll` leaves all entries. -/
@[simp] theorem entries_closeAll (ids : List Int64) : (c.closeAll ids).entries = c.entries := by
  induction ids generalizing c with
  | nil => rfl
  | cons id ids ih => exact ih (c.close id)

/-- `closeAll` leaves the time to live. -/
@[simp] theorem ttl_closeAll (ids : List Int64) : (c.closeAll ids).ttl = c.ttl := by
  induction ids generalizing c with
  | nil => rfl
  | cons id ids ih => exact ih (c.close id)

/-- `removeIdle` removes an idle cursor, and leaves one alone that is not idle. -/
theorem removeIdle_cases (id : Int64) :
    (c.removeIdle now id = (true, c.close id) ∧ c.contains id = true) ∨
      c.removeIdle now id = (false, c) := by
  cases h : c.slot? id with
  | none => simp [removeIdle, h]
  | some slot => by_cases hidle : c.isIdle now slot <;> simp [removeIdle, h, contains, hidle]

/-! ### Entries -/

/-- `modify` changes the entry of its handle, and no other. -/
theorem entry?_modify (h h' : CursorHandle) (f : CursorEntry → CursorEntry) :
    entry? (c.modify h f) h' = if h = h' then (c.entry? h').map f else c.entry? h' := by
  simp only [modify, entry?, List.getElem?_modify]
  split <;> simp

/-- `get` adds one entry at most, which is a fresh one. -/
theorem entries_get (id : Int64) :
    (c.get now id).2.entries = c.entries ∨ (c.get now id).2.entries = c.entries ++ [.fresh id] := by
  by_cases hid : id = exhaustedCursor
  · subst hid
    exact .inr (by rw [get_exhausted]; rfl)
  · cases h : c.slot? id with
    | none => exact .inr (get_of_none c now h).2
    | some slot => exact .inl (get_of_slot c now hid h).2

/-- `get` changes no entry that is there already. -/
theorem entry?_get_of_lt {h : CursorHandle} (hh : h < c.entries.length) (id : Int64) :
    entry? (c.get now id).2 h = c.entry? h := by
  obtain he | he := c.entries_get now id
  · unfold entry?
    rw [he]
  · unfold entry?
    rw [he, List.getElem?_append_left hh]

/-- `get` counts nothing. -/
@[simp] theorem consumed_get (id : Int64) (h : CursorHandle) :
    (c.get now id).2.consumed h = c.consumed h := by
  obtain he | he := c.entries_get now id
  · rw [consumed, entry?, he, consumed, entry?]
  · -- the new entry has sent nothing, as if it were not there
    rw [consumed, entry?, he, consumed, entry?]
    by_cases hh : h < c.entries.length
    · rw [List.getElem?_append_left hh]
    · rw [List.getElem?_append_right (Nat.le_of_not_lt hh),
        List.getElem?_eq_none (Nat.le_of_not_lt hh)]
      cases h - c.entries.length <;> rfl

/-- `close` counts nothing. -/
@[simp] theorem consumed_close (id : Int64) (h : CursorHandle) :
    (c.close id).consumed h = c.consumed h := rfl

/-- `closeAll` counts nothing. -/
@[simp] theorem consumed_closeAll (ids : List Int64) (h : CursorHandle) :
    (c.closeAll ids).consumed h = c.consumed h := by
  rw [consumed, entry?, entries_closeAll, consumed, entry?]

/-- `clear` counts nothing. -/
@[simp] theorem consumed_clear (h : CursorHandle) : c.clear.consumed h = c.consumed h := rfl

/-- `modify` counts nothing where it leaves `consumed` alone, as stages do with what they keep
beside a cursor. -/
theorem consumed_modify (h : CursorHandle) {f : CursorEntry → CursorEntry}
    (hf : ∀ e, (f e).consumed = e.consumed) (h' : CursorHandle) :
    (c.modify h f).consumed h' = c.consumed h' := by
  rw [consumed, entry?_modify, consumed]
  split
  · cases c.entry? h' <;> simp [hf]
  · rfl

/-- `consume` counts for one entry, which must be there. -/
theorem consumed_consume {h : CursorHandle} (hh : h < c.entries.length) (n : Nat)
    (h' : CursorHandle) :
    (c.consume h n).consumed h' = c.consumed h' + if h = h' then n else 0 := by
  rw [consumed, consume, entry?_modify, consumed]
  by_cases he : h = h'
  · subst he
    rw [if_pos rfl, if_pos rfl, entry?, List.getElem?_eq_getElem hh]
    rfl
  · rw [if_neg he, if_neg he, Nat.add_zero]

/-! ### Responses -/

variable {command : Command} {response : Document}

/-- `track` does nothing for a failed response. -/
theorem track_of_failed (hok : isOk response = false) :
    c.track now command response = (none, c) := by
  simp [track, hok]

/-- `track` closes the cursors that a kill lists. -/
theorem track_of_kill (hok : isOk response = true) (hkind : command.kind = .killCursors) :
    c.track now command response = (none, c.closeAll command.cursorIds) := by
  simp [track, hok, hkind]

/-- `track` does nothing for a response that names no cursor. -/
theorem track_of_unnamed (hkind : command.kind ≠ .killCursors)
    (hid : respondedCursor? response = none) :
    c.track now command response = (none, c) := by
  unfold track
  split
  · rfl
  · split <;> simp_all

/-- `track` closes the cursor that the command continues, for a response without more results. -/
theorem track_of_exhausted (hok : isOk response = true) (hkind : command.kind ≠ .killCursors)
    (hid : respondedCursor? response = some exhaustedCursor) :
    c.track now command response = (none, c.closeAll command.cursorId?.toList) := by
  unfold track
  split
  · simp_all
  · split <;> simp_all

/-- `track` looks up the cursor that a response names. -/
theorem track_of_named (hok : isOk response = true) (hkind : command.kind ≠ .killCursors)
    (hid : respondedCursor? response = some id) (hne : id ≠ exhaustedCursor) :
    c.track now command response = (if c.contains id then none else some id, (c.get now id).2) := by
  unfold track
  split
  · simp_all
  · split <;> simp_all

/-- `track` closes cursors, if any, or looks up the cursor that the response names. Only the look-up
of one that was not cached is reported. -/
theorem track_eq_cases (command : Command) (response : Document) :
    (∃ ids, c.track now command response = (none, c.closeAll ids)) ∨
    (isOk response = true ∧ ∃ id, respondedCursor? response = some id ∧ id ≠ exhaustedCursor ∧
      c.track now command response = (if c.contains id then none else some id,
        (c.get now id).2)) := by
  by_cases hok : isOk response = true
  case neg => exact .inl ⟨[], c.track_of_failed now (Bool.eq_false_iff.mpr hok)⟩
  by_cases hkind : command.kind = .killCursors
  case pos => exact .inl ⟨_, c.track_of_kill now hok hkind⟩
  -- a successful response to another command: what counts is the cursor that it names
  cases hid : respondedCursor? response with
  | none => exact .inl ⟨[], c.track_of_unnamed now hkind hid⟩
  | some id =>
    by_cases hne : id = exhaustedCursor
    · subst hne
      exact .inl ⟨_, c.track_of_exhausted now hok hkind hid⟩
    · exact .inr ⟨hok, id, rfl, hne, c.track_of_named now hok hkind hid hne⟩

/-- `track` does nothing, closes cursors, or looks up the cursor that the response names. -/
theorem track_cases (command : Command) (response : Document) :
    (c.track now command response).2 = c ∨
    (∃ ids, (c.track now command response).2 = c.closeAll ids) ∨
    (isOk response = true ∧ ∃ id, respondedCursor? response = some id ∧ id ≠ exhaustedCursor ∧
      (c.track now command response).2 = (c.get now id).2) := by
  obtain ⟨ids, hclosed⟩ | ⟨hok, id, hid, hne, hget⟩ := c.track_eq_cases now command response
  · exact .inr (.inl ⟨ids, congrArg Prod.snd hclosed⟩)
  · exact .inr (.inr ⟨hok, id, hid, hne, congrArg Prod.snd hget⟩)

end CursorCache

end DocGateway
