import DocGateway.Proofs.Cursor.Lifetimes
/-!
# Entries that are shared through handles

Whoever looked a cursor up may read and write its entry through the handle for as long as he likes,
also when the cursor has been removed since, or lives again with another entry. Here the calls that
are made come in any order, and what was looked up and what was written is taken down. From that
alone it follows which handles share an entry, and what the entry holds.

## Key results

- `CacheUse.Follows.step`: each call leaves every entry with what was written through the handles
  that lead to it
- `CacheUse.isSound_run`: what holds of the cache after any calls, and what the next look-up finds
-/

namespace DocGateway

open Bson (Document)

/-! ### Slots -/

namespace CursorCache

variable (c : CursorCache)

/-- Where no cursor has two slots, `slot?` finds each slot that is listed. -/
theorem mem_slots_iff (hnodup : (c.slots.map (·.1)).Nodup) {id : Int64} {slot : CursorSlot} :
    (id, slot) ∈ c.slots ↔ c.slot? id = some slot := by
  rw [slot?, List.lookup_eq_some_iff]
  constructor
  · intro hmem
    obtain ⟨before, after, heq⟩ := List.append_of_mem hmem
    refine ⟨before, after, heq, fun p hp => ?_⟩
    rw [heq, List.map_append, List.map_cons, List.nodup_append] at hnodup
    exact bne_iff_ne.mpr (hnodup.2.2 p.1 (List.mem_map_of_mem hp) id List.mem_cons_self).symm
  · rintro ⟨before, after, heq, -⟩
    rw [heq]
    exact List.mem_append_right _ List.mem_cons_self

/-- `closeAll` only takes slots away. -/
theorem slots_closeAll_sublist (ids : List Int64) : (c.closeAll ids).slots.Sublist c.slots := by
  induction ids generalizing c with
  | nil => exact List.Sublist.refl _
  | cons id ids ih => exact (ih (c.close id)).trans List.filter_sublist

/-- `get` gives no cursor a second slot. -/
theorem nodup_get (now : Nat) (h : (c.slots.map (·.1)).Nodup) (id : Int64) :
    ((c.get now id).2.slots.map (·.1)).Nodup := by
  by_cases hid : id = exhaustedCursor
  · subst hid
    rwa [get_exhausted]
  cases hslot : c.slot? id with
  | some slot =>
    -- the slot is touched where it is
    have hkeys : (c.get now id).2.slots.map (·.1) = c.slots.map (·.1) := by
      simp only [get, hid, ↓reduceIte, hslot, List.map_map]
      refine List.map_congr_left fun s _ => ?_
      by_cases hs : s.1 = id <;> simp [hs]
    rwa [hkeys]
  | none =>
    have hkeys : (c.get now id).2.slots.map (·.1) = c.slots.map (·.1) ++ [id] := by
      simp [get, hid, hslot]
    have hnew : id ∉ c.slots.map (·.1) := by
      rw [slot?, List.lookup_eq_none_iff] at hslot
      rintro hmem
      obtain ⟨s, hs, rfl⟩ := List.mem_map.mp hmem
      simpa using hslot s hs
    rw [hkeys, List.nodup_append]
    refine ⟨h, by simp, fun key hkey => ?_⟩
    rintro _ hmem rfl
    exact hnew (List.mem_singleton.mp hmem ▸ hkey)

/-- `close` of a cursor that is not cached changes nothing. -/
theorem close_of_none {id : Int64} (h : c.slot? id = none) : c.close id = c := by
  rw [slot?, List.lookup_eq_none_iff] at h
  have hslots : c.slots.filter (·.1 != id) = c.slots := by
    refine List.filter_eq_self.mpr fun s hs => bne_iff_ne.mpr fun heq => ?_
    simpa [heq] using h s hs
  rw [close, hslots]

/-- `removeAllIdle` closes what it reports, and does nothing else. -/
theorem removeAllIdle_eq_closeAll (now : Nat) (ids : List Int64) :
    (c.removeAllIdle now ids).2 = c.closeAll (c.removeAllIdle now ids).1 := by
  induction ids generalizing c with
  | nil => rfl
  | cons id ids ih =>
    obtain ⟨h, -⟩ | h := c.removeIdle_cases now id
    · simp only [removeAllIdle, h, ↓reduceIte]
      exact ih (c.close id)
    · simp only [removeAllIdle, h, Bool.false_eq_true, ↓reduceIte]
      exact ih c

end CursorCache

/-! ### Calls -/

/-- What is read and written of an entry: how many documents were sent, and what stages keep beside
the cursor. -/
structure CursorContents where
  consumed : Nat
  sidecar : Sidecar
deriving DecidableEq, Repr, Inhabited

/-- The contents of `CursorEntry.fresh`. -/
def CursorContents.fresh : CursorContents := ⟨0, .empty⟩

namespace CursorEntry

def contents (e : CursorEntry) : CursorContents := ⟨e.consumed, e.sidecar⟩

/-- Writes to an entry. It stays the entry of its cursor. -/
def write (change : CursorContents → CursorContents) (e : CursorEntry) : CursorEntry :=
  ⟨e.id, (change e.contents).consumed, (change e.contents).sidecar⟩

/-- `CursorEntry.fresh` has the contents `CursorContents.fresh`. -/
@[simp] theorem contents_fresh (id : Int64) : (CursorEntry.fresh id).contents = .fresh := rfl

/-- `write` changes the contents. -/
@[simp] theorem contents_write (change : CursorContents → CursorContents) (e : CursorEntry) :
    (e.write change).contents = change e.contents := rfl

/-- `write` keeps the cursor of the entry. -/
@[simp] theorem id_write (change : CursorContents → CursorContents) (e : CursorEntry) :
    (e.write change).id = e.id := rfl

end CursorEntry

/-- A call of the cursor cache, or a use of a handle that it gave out. A handle is named by the
place of the look-up that it comes from. -/
inductive CacheCall where
  | create (id : Int64)
  | get (id : Int64)
  | contains (id : Int64)
  | size
  | close (id : Int64)
  | clear
  | reapExpired
  | track (command : Command) (response : Document)
  | read (place : Nat)
  | write (place : Nat) (change : CursorContents → CursorContents)

/-- A cursor cache that is in use. -/
structure CacheUse where
  cache : CursorCache
  /-- How often each cursor was removed. -/
  removals : Int64 → Nat
  /-- The look-ups so far, the earliest first. -/
  lookUps : List LookUp
  /-- What was written so far, the earliest first, each by the place of the look-up that it was
  written through. -/
  writes : List (Nat × (CursorContents → CursorContents))

namespace CacheUse

/-- A cache that was not used yet. -/
def start (ttl : Nat) : CacheUse := ⟨.empty ttl, fun _ => 0, [], []⟩

/-- The cache is replaced, and `removals` counts the cursors that are lost by it. -/
def withCache (u : CacheUse) (cache : CursorCache) : CacheUse :=
  { u with cache, removals := u.cache.removalsTo cache u.removals }

/-- Takes down a look-up. -/
def note (u : CacheUse) (l : LookUp) : CacheUse := { u with lookUps := u.lookUps ++ [l] }

/-- Looks a cursor up. -/
def lookUp (u : CacheUse) (now : Nat) (id : Int64) : CacheUse :=
  let (h, cache) := u.cache.get now id
  (u.withCache cache).note ⟨id, h, u.removals id⟩

/-- Writes to the entry at a handle, which comes from the look-up in some place. -/
def writeAt (u : CacheUse) (place : Nat) (h : CursorHandle)
    (change : CursorContents → CursorContents) : CacheUse :=
  { u.withCache (u.cache.modify h (·.write change)) with writes := u.writes ++ [(place, change)] }

/-- Writes through the handle from one of the look-ups, if there is one in the place. -/
def write (u : CacheUse) (place : Nat) (change : CursorContents → CursorContents) : CacheUse :=
  match u.lookUps[place]? with
  | some l => u.writeAt place l.handle change
  | none => u

/-- One call is made. -/
def step (u : CacheUse) (now : Nat) : CacheCall → CacheUse
  | .create id | .get id => u.lookUp now id
  | .contains _ | .size | .read _ => u
  | .close id => u.withCache (u.cache.close id)
  | .clear => u.withCache u.cache.clear
  | .reapExpired => u.withCache (u.cache.reapExpired now).2
  | .track command response => u.withCache (u.cache.track now command response).2
  | .write place change => u.write place change

/-- Calls are made one after another, each at its time. -/
def run (u : CacheUse) (calls : List (Nat × CacheCall)) : CacheUse :=
  calls.foldl (fun u call => u.step call.1 call.2) u

/-! ### What is to be seen through handles -/

/-- What is read through the handle from one of the look-ups. -/
def contents? (u : CacheUse) (place : Nat) : Option CursorContents := do
  let l ← u.lookUps[place]?
  let e ← u.cache.entry? l.handle
  return e.contents

/-- Whether two look-ups are to lead to one entry: those of one life of a cursor are, but each
look-up of the exhausted cursor has an entry of its own. -/
def shares (u : CacheUse) (place place' : Nat) : Bool :=
  match u.lookUps[place]?, u.lookUps[place']? with
  | some l, some l' =>
    l.cursor == l'.cursor &&
      if l.cursor = exhaustedCursor then place == place' else l.lifetime == l'.lifetime
  | _, _ => false

/-- What comes of a fresh entry by some writes. -/
def afterWrites (writes : List (Nat × (CursorContents → CursorContents))) : CursorContents :=
  writes.foldl (fun contents w => w.2 contents) .fresh

/-- What is to be read through the handle from one of the look-ups: what was written through this
handle and those that share its entry. -/
def written (u : CacheUse) (place : Nat) : CursorContents :=
  afterWrites (u.writes.filter fun w => u.shares place w.1)

/-- What holds of a cache in use, whatever was called. -/
structure IsSound (u : CacheUse) : Prop where
  /-- The exhausted cursor is not cached. -/
  not_contains_exhausted : u.cache.contains exhaustedCursor = false
  /-- No cursor has two slots. -/
  nodup : (u.cache.slots.map (·.1)).Nodup
  /-- A slot leads to an entry of its cursor. -/
  idAt_slot {id : Int64} {slot : CursorSlot} (h : (id, slot) ∈ u.cache.slots) :
    u.cache.idAt slot.handle = some id
  /-- The slots of different cursors lead to different entries. -/
  handle_ne {id id' : Int64} {slot slot' : CursorSlot} (h : (id, slot) ∈ u.cache.slots)
    (h' : (id', slot') ∈ u.cache.slots)
    (hne : id ≠ id') : slot.handle ≠ slot'.handle
  /-- A cursor has a slot to the entry that was looked up for as long as it is not removed, and no
  longer. -/
  slot_iff {place : Nat} {l : LookUp} (h : u.lookUps[place]? = some l)
    (hid : l.cursor ≠ exhaustedCursor) :
    (∃ slot, (l.cursor, slot) ∈ u.cache.slots ∧ slot.handle = l.handle) ↔
    u.removals l.cursor = l.lifetime
  /-- No slot leads to an entry of the exhausted cursor. -/
  slot_ne {place : Nat} {l : LookUp} (h : u.lookUps[place]? = some l)
    (hid : l.cursor = exhaustedCursor) {id : Int64} {slot : CursorSlot}
    (hslot : (id, slot) ∈ u.cache.slots) : slot.handle ≠ l.handle
  /-- Look-ups lead to one entry if and only if they are to. -/
  handle_eq_iff {place place' : Nat} {l l' : LookUp} (h : u.lookUps[place]? = some l)
    (h' : u.lookUps[place']? = some l') :
    l.handle = l'.handle ↔ u.shares place place' = true
  /-- What is written through a handle is read through all handles that share its entry, and through
  no others. -/
  contents_eq {place : Nat} {l : LookUp} (h : u.lookUps[place]? = some l) :
    u.contents? place = some (u.written place)

/-! ### The writes to an entry -/

/-- Whether a write was made to an entry. -/
def isTo (lookUps : List LookUp) (h : CursorHandle)
    (w : Nat × (CursorContents → CursorContents)) : Bool :=
  lookUps[w.1]?.map (·.handle) == some h

/-- What was written to an entry. -/
def writtenAt (u : CacheUse) (h : CursorHandle) : CursorContents :=
  afterWrites (u.writes.filter (isTo u.lookUps h))

/-- The last write is applied to what the writes before it leave. -/
@[simp] theorem afterWrites_concat (writes : List (Nat × (CursorContents → CursorContents)))
    (w : Nat × (CursorContents → CursorContents)) :
    afterWrites (writes ++ [w]) = w.2 (afterWrites writes) := by
  simp [afterWrites]

/-- `note` puts the look-up behind those there were. -/
theorem getElem?_note {u : CacheUse} {l l' : LookUp} {place : Nat}
    (h : (u.note l).lookUps[place]? = some l') :
    (u.lookUps[place]? = some l' ∧ place < u.lookUps.length) ∨
      (place = u.lookUps.length ∧ l' = l) := by
  rw [note] at h
  -- the look-up is the new one if its place is behind all others
  by_cases hlt : place < u.lookUps.length
  · rw [List.getElem?_append_left hlt] at h
    exact .inl ⟨h, hlt⟩
  · have hbound := (List.getElem?_eq_some_iff.mp h).1
    rw [List.length_append, List.length_singleton] at hbound
    obtain rfl : place = u.lookUps.length := Nat.eq_of_lt_succ_of_not_lt hbound hlt
    rw [List.getElem?_concat_length] at h
    exact .inr ⟨rfl, (Option.some.inj h).symm⟩

/-- The entries hold what was written to them, and the look-ups lead to entries of their lives. -/
structure Follows (u : CacheUse) (since : CursorHandle → Nat) : Prop where
  dated : u.cache.Dated u.removals since
  exhausted : u.cache.slot? exhaustedCursor = none
  nodup : (u.cache.slots.map (·.1)).Nodup
  isIn {l : LookUp} (h : l ∈ u.lookUps) : l.IsIn u.cache since
  /-- Each look-up of the exhausted cursor has an entry of its own. -/
  alone {place place' : Nat} {l l' : LookUp} (h : u.lookUps[place]? = some l)
    (h' : u.lookUps[place']? = some l') (hid : l.cursor = exhaustedCursor)
    (heq : l.handle = l'.handle) : place = place'
  /-- What is written is written through a handle from a look-up before. -/
  placed {w : Nat × (CursorContents → CursorContents)} (h : w ∈ u.writes) : w.1 < u.lookUps.length
  contents {h : CursorHandle} {e : CursorEntry} (he : u.cache.entry? h = some e) :
    e.contents = u.writtenAt h

variable {u : CacheUse} {since : CursorHandle → Nat}

/-! ### What keeps the entries right -/

namespace Follows

/-- `Follows` holds of a cache that was not used. -/
theorem start (ttl : Nat) : (CacheUse.start ttl).Follows fun _ => 0 where
  dated := .empty ttl _ _
  exhausted := rfl
  nodup := List.nodup_nil
  isIn h := by cases h
  alone h := by cases h
  placed h := by cases h
  contents h := by cases h

variable (h : u.Follows since)

include h in
/-- `Follows` is kept if slots are taken away and all entries stay. -/
theorem withCache {cache : CursorCache} (hc : u.cache.Shrinks cache)
    (hslots : cache.slots.Sublist u.cache.slots)
    (hentries : cache.entries = u.cache.entries) : (u.withCache cache).Follows since where
  dated := h.dated.mono hc
  exhausted := by
    obtain hnone | hsame := hc.slot? exhaustedCursor
    · exact hnone
    · exact hsame.trans h.exhausted
  nodup := h.nodup.sublist (hslots.map _)
  isIn hl := (h.isIn hl).mono (fun h _ => hc.idAt h) fun _ _ => rfl
  alone hl hl' := h.alone hl hl'
  placed hw := h.placed hw
  -- no entry has changed, so each has what was written to it
  contents he := by
    refine h.contents (he ▸ ?_)
    change u.cache.entries[_]? = cache.entries[_]?
    rw [hentries]

include h in
/-- `Follows` is kept by `closeAll`, the one way in which calls remove cursors one by one. -/
theorem withCache_closeAll (ids : List Int64) :
    (u.withCache (u.cache.closeAll ids)).Follows since :=
  h.withCache (CursorCache.shrinks_closeAll ids) (u.cache.slots_closeAll_sublist ids)
    (u.cache.entries_closeAll ids)

include h in
/-- Nothing was written to the entry that the next look-up may add. -/
theorem writtenAt_length : u.writtenAt u.cache.entries.length = .fresh := by
  have hnone : u.writes.filter (isTo u.lookUps u.cache.entries.length) = [] := by
    rw [List.filter_eq_nil_iff]
    intro w _ hto
    rw [isTo, beq_iff_eq, Option.map_eq_some_iff] at hto
    obtain ⟨l, hl, heq⟩ := hto
    exact absurd heq
      (Nat.ne_of_lt (CursorCache.lt_length_of_idAt (h.isIn (List.mem_of_getElem? hl)).idAt))
  rw [writtenAt, hnone]
  rfl

include h in
/-- `Follows` is kept by `get`, and what it looks up `IsIn` the cache after it. -/
theorem get (now : Nat) (id : Int64) :
    ∃ since', (u.withCache (u.cache.get now id).2).Follows since' ∧
      LookUp.IsIn ⟨id, (u.cache.get now id).1, u.removals id⟩ (u.cache.get now id).2 since' := by
  obtain ⟨since', hdated, hsince, hidAt, hnew⟩ := h.dated.get now id
  have hentries (h : CursorHandle) (hlt : h < u.cache.entries.length) :=
    CursorCache.idAt_get_of_lt now hlt id
  refine ⟨since', ⟨hdated, ?_, u.cache.nodup_get now h.nodup id,
    fun hl => (h.isIn hl).mono hentries hsince, h.alone, h.placed, ?_⟩,
    hidAt, hnew⟩
  -- the exhausted cursor gets no slot, not even when it is looked up
  · by_cases hid : id = exhaustedCursor
    · subst hid
      exact (u.cache.slot?_get_exhausted now _).trans h.exhausted
    · exact (u.cache.slot?_get_of_ne now (Ne.symm hid)).trans h.exhausted
  · intro handle e he
    change CursorCache.entry? (u.cache.get now id).2 handle = some e at he
    by_cases hlt : handle < u.cache.entries.length
    · rw [u.cache.entry?_get_of_lt now hlt] at he
      exact h.contents he
    · obtain hsame | hadded := u.cache.entries_get now id
      · rw [CursorCache.entry?, hsame, List.getElem?_eq_none (Nat.le_of_not_lt hlt)] at he
        cases he
      · -- this is the entry that was added
        have hbound := (List.getElem?_eq_some_iff.mp he).1
        rw [hadded, List.length_append, List.length_singleton] at hbound
        obtain rfl : handle = u.cache.entries.length := Nat.eq_of_lt_succ_of_not_lt hbound hlt
        rw [CursorCache.entry?, hadded, List.getElem?_concat_length] at he
        cases he
        exact h.writtenAt_length.symm

include h in
/-- `Follows` is kept if a look-up is taken down that `IsIn` the cache. -/
theorem note {l : LookUp} (hl : l.IsIn u.cache since)
    (halone : l.cursor = exhaustedCursor → ∀ l' ∈ u.lookUps, l'.handle ≠ l.handle) :
    (u.note l).Follows since where
  dated := h.dated
  exhausted := h.exhausted
  nodup := h.nodup
  isIn hmem := by
    obtain hmem | hmem := List.mem_append.mp hmem
    · exact h.isIn hmem
    · exact List.mem_singleton.mp hmem ▸ hl
  alone {place place' l₁ l₂} h₁ h₂ hid heq := by
    -- an entry is of one cursor, so both look-ups are of the exhausted one
    have hcursor : l₂.cursor = l₁.cursor := by
      have hin {place : Nat} {l' : LookUp} (h' : (u.note l).lookUps[place]? = some l') :
          u.cache.idAt l'.handle = some l'.cursor := by
        obtain hmem | hmem := List.mem_append.mp (List.mem_of_getElem? h')
        · exact (h.isIn hmem).idAt
        · exact List.mem_singleton.mp hmem ▸ hl.idAt
      exact Option.some.inj ((hin h₂).symm.trans (heq ▸ hin h₁))
    obtain ⟨hold, -⟩ | ⟨hplace, rfl⟩ :=
      getElem?_note h₁ <;> obtain ⟨hold', -⟩ | ⟨hplace', rfl⟩ := getElem?_note h₂
    · exact h.alone hold hold' hid heq
    · exact absurd heq (halone (hcursor.trans hid) _ (List.mem_of_getElem? hold))
    · exact absurd heq.symm (halone hid _ (List.mem_of_getElem? hold'))
    · rw [hplace, hplace']
  placed hw := Nat.lt_of_lt_of_le (h.placed hw) (by simp [CacheUse.note])
  contents {handle e} he := by
    rw [h.contents he, writtenAt, writtenAt]
    congr 1
    refine List.filter_congr fun w hw => ?_
    rw [isTo, isTo, CacheUse.note, List.getElem?_append_left (h.placed hw)]

include h in
/-- `get` of a cursor that is not cached gives a handle that no look-up has given before. -/
theorem handle_ne (now : Nat) {id : Int64} (hnone : u.cache.slot? id = none) {l : LookUp}
    (hl : l ∈ u.lookUps) :
    l.handle ≠ (u.cache.get now id).1 := by
  rw [(u.cache.get_of_none now hnone).1]
  exact Nat.ne_of_lt (CursorCache.lt_length_of_idAt (h.isIn hl).idAt)

include h in
/-- `Follows` is kept by `lookUp`: `get` first, then `note`. -/
theorem lookUp (now : Nat) (id : Int64) : ∃ since', (u.lookUp now id).Follows since' := by
  obtain ⟨since', hget, hin⟩ := h.get now id
  exact ⟨since', hget.note hin fun hid _ hl =>
    h.handle_ne now ((congrArg _ hid).trans h.exhausted) hl⟩

include h in
/-- `Follows` is kept by `writeAt`, as the write is applied to the one entry that the handle leads
to. -/
theorem writeAt {place : Nat} {l : LookUp} (hl : u.lookUps[place]? = some l)
    (change : CursorContents → CursorContents) :
    (u.writeAt place l.handle change).Follows since := by
  have hc := CursorCache.shrinks_modify (c := u.cache) l.handle (CursorEntry.id_write change)
  refine ⟨h.dated.mono hc, h.exhausted, h.nodup, fun hl =>
    (h.isIn hl).mono (fun h _ => hc.idAt h) fun _ _ => rfl, h.alone, ?_, ?_⟩
  · intro w hw
    obtain hw | hw := List.mem_append.mp hw
    · exact h.placed hw
    · rw [List.mem_singleton.mp hw]
      exact (List.getElem?_eq_some_iff.mp hl).1
  · intro handle e he
    change CursorCache.entry? (u.cache.modify l.handle (·.write change)) handle = some e at he
    change _ = afterWrites ((u.writes ++ [(place, change)]).filter (isTo u.lookUps handle))
    rw [CursorCache.entry?_modify] at he
    rw [List.filter_append]
    -- the write counts for this entry exactly if its handle leads there
    by_cases heq : l.handle = handle
    · rw [if_pos heq, Option.map_eq_some_iff] at he
      obtain ⟨e', he', rfl⟩ := he
      have hto : isTo u.lookUps handle (place, change) = true := by simp [isTo, hl, heq]
      rw [List.filter_cons_of_pos hto, List.filter_nil, afterWrites_concat,
        CursorEntry.contents_write, h.contents he', writtenAt]
    · rw [if_neg heq] at he
      have hto : ¬isTo u.lookUps handle (place, change) = true := by simp [isTo, hl, heq]
      rw [List.filter_cons_of_neg hto, List.filter_nil, List.append_nil, h.contents he, writtenAt]

include h in
/-- `Follows` is kept by each call. -/
theorem step (now : Nat) (call : CacheCall) : ∃ since', (u.step now call).Follows since' := by
  cases call with
  | create id | get id => exact h.lookUp now id
  | contains _ | size | read _ => exact ⟨since, h⟩
  | close id => exact ⟨since, h.withCache_closeAll [id]⟩
  | clear => exact ⟨since, h.withCache CursorCache.shrinks_clear (List.nil_sublist _) rfl⟩
  | reapExpired =>
    refine ⟨since, ?_⟩
    rw [CacheUse.step, CursorCache.reapExpired, CursorCache.removeAllIdle_eq_closeAll]
    exact h.withCache_closeAll _
  -- `track` closes cursors, or looks one up
  | track command response =>
    rw [CacheUse.step]
    obtain hsame | ⟨ids, hclosed⟩ | ⟨-, id, -, -, hget⟩ := u.cache.track_cases now command response
    · exact ⟨since, by rw [hsame]; exact h.withCache_closeAll []⟩
    · exact ⟨since, by rw [hclosed]; exact h.withCache_closeAll ids⟩
    · obtain ⟨since', hget', -⟩ := h.get now id
      exact ⟨since', by rw [hget]; exact hget'⟩
  | write place change =>
    rw [CacheUse.step, CacheUse.write]
    split
    · exact ⟨since, h.writeAt ‹_› change⟩
    · exact ⟨since, h⟩

include h in
/-- `Follows` is kept by any calls, one after another. -/
theorem run (calls : List (Nat × CacheCall)) : ∃ since', (u.run calls).Follows since' := by
  induction calls generalizing u since with
  | nil => exact ⟨since, h⟩
  | cons call calls ih =>
    obtain ⟨since', h'⟩ := h.step call.1 call.2
    exact ih h'

/-! ### What is right when they are -/

include h in
/-- Two look-ups have one handle exactly if they share an entry: one of a cursor that is cached
stands for its life, by `LookUp.IsIn`, and those of the exhausted cursor are apart. -/
theorem handle_eq_iff {place place' : Nat} {l l' : LookUp} (hl : u.lookUps[place]? = some l)
    (hl' : u.lookUps[place']? = some l') :
    l.handle = l'.handle ↔ u.shares place place' = true := by
  have hin := h.isIn (List.mem_of_getElem? hl)
  have hin' := h.isIn (List.mem_of_getElem? hl')
  rw [shares, hl, hl']
  -- each look-up of the exhausted cursor is alone with its entry, any other stands for a life
  by_cases hid : l.cursor = exhaustedCursor
  · simp only [hid, ↓reduceIte, Bool.and_eq_true, beq_iff_eq]
    constructor
    · intro heq
      refine ⟨?_, h.alone hl hl' hid heq⟩
      rw [← hid]
      exact Option.some.inj (hin.idAt.symm.trans (heq ▸ hin'.idAt))
    · rintro ⟨-, rfl⟩
      rw [Option.some.inj (hl.symm.trans hl')]
  · simp only [hid, ↓reduceIte, Bool.and_eq_true, beq_iff_eq]
    rw [eq_comm, hin.handle_eq_iff hin' h.dated hid, eq_comm (a := l'.cursor),
      eq_comm (a := l'.lifetime)]

include h in
/-- The writes to the entry of a look-up are those through handles that share it. -/
theorem written_eq {place : Nat} {l : LookUp} (hl : u.lookUps[place]? = some l) :
    u.writtenAt l.handle = u.written place := by
  rw [writtenAt, written]
  congr 1
  refine List.filter_congr fun w hw => ?_
  obtain ⟨l', hl'⟩ : ∃ l', u.lookUps[w.1]? = some l' := ⟨_, List.getElem?_eq_getElem (h.placed hw)⟩
  rw [isTo, hl', Bool.eq_iff_iff, ← h.handle_eq_iff hl hl', eq_comm (a := l.handle)]
  simp

include h in
/-- What `Follows` keeps is what `IsSound` states. -/
theorem isSound : u.IsSound where
  not_contains_exhausted := by rw [CursorCache.contains, h.exhausted]; rfl
  nodup := h.nodup
  idAt_slot hslot := h.dated.idAt_slot ((u.cache.mem_slots_iff h.nodup).mp hslot)
  handle_ne hslot hslot' hne heq := by
    have hid := h.dated.idAt_slot ((u.cache.mem_slots_iff h.nodup).mp hslot)
    rw [heq, h.dated.idAt_slot ((u.cache.mem_slots_iff h.nodup).mp hslot')] at hid
    exact hne (Option.some.inj hid).symm
  slot_iff {place l} hl hid := by
    have hin := h.isIn (List.mem_of_getElem? hl)
    simp only [u.cache.mem_slots_iff h.nodup]
    constructor
    · rintro ⟨slot, hslot, heq⟩
      rw [← h.dated.since_slot hslot, heq, hin.since_handle hid]
    · intro hpresent
      -- an entry without a slot is of an earlier life
      obtain hlt | hslot := h.dated.past hid hin.idAt
      · rw [hin.since_handle hid, hpresent] at hlt
        exact absurd hlt (Nat.lt_irrefl _)
      · exact hslot
  slot_ne {place l} hl hid id slot hslot heq := by
    have hin := h.isIn (List.mem_of_getElem? hl)
    rw [u.cache.mem_slots_iff h.nodup] at hslot
    have hslotId := h.dated.idAt_slot hslot
    rw [heq, hin.idAt, hid] at hslotId
    rw [← Option.some.inj hslotId, h.exhausted] at hslot
    cases hslot
  handle_eq_iff hl hl' := h.handle_eq_iff hl hl'
  contents_eq {place l} hl := by
    obtain ⟨e, he, -⟩ := Option.map_eq_some_iff.mp (h.isIn (List.mem_of_getElem? hl)).idAt
    rw [contents?, hl, ← h.written_eq hl, ← h.contents he]
    simp [he]

end Follows

/-- No call of `step` takes a look-up back. -/
theorem lookUps_prefix_step (u : CacheUse) (now : Nat) (call : CacheCall) :
    u.lookUps <+: (u.step now call).lookUps := by
  cases call with
  | create id | get id => exact List.prefix_append _ _
  | write place change =>
    rw [step, write]
    split <;> exact List.prefix_rfl
  | _ => exact List.prefix_rfl

/-- `run` takes no look-up back. -/
theorem lookUps_prefix_run (u : CacheUse) (calls : List (Nat × CacheCall)) :
    u.lookUps <+: (u.run calls).lookUps := by
  induction calls generalizing u with
  | nil => exact List.prefix_rfl
  | cons call calls ih => exact (u.lookUps_prefix_step call.1 call.2).trans (ih _)

/-- A look-up keeps its place in a `run`. -/
theorem getElem?_run {place : Nat} {l : LookUp} (hl : u.lookUps[place]? = some l)
    (calls : List (Nat × CacheCall)) :
    (u.run calls).lookUps[place]? = some l := by
  obtain ⟨more, hmore⟩ := u.lookUps_prefix_run calls
  rw [← hmore, List.getElem?_append_left (List.getElem?_eq_some_iff.mp hl).1, hl]

/-- `withCache` of the same cache counts no removal. -/
theorem withCache_self (u : CacheUse) : u.withCache u.cache = u := by
  have hremovals : u.cache.removalsTo u.cache u.removals = u.removals := by
    funext id
    simp [CursorCache.removalsTo]
  rw [withCache, hremovals]

/-- Look-ups with different handles do not come to share an entry, whatever is called. -/
theorem Follows.shares_run (h : u.Follows since) {place place' : Nat} {l l' : LookUp}
    (hl : u.lookUps[place]? = some l) (hl' : u.lookUps[place']? = some l')
    (hne : l.handle ≠ l'.handle) (calls : List (Nat × CacheCall)) :
    (u.run calls).shares place place' = false := by
  obtain ⟨since', h'⟩ := h.run calls
  rw [Bool.eq_false_iff, ne_eq, ← h'.handle_eq_iff (getElem?_run hl calls) (getElem?_run hl' calls)]
  exact hne

/-- `lookUp` takes down the cursor, the handle it got, and the life that the cursor is in. -/
theorem getElem?_lookUp (u : CacheUse) (now : Nat) (id : Int64) :
    (u.lookUp now id).lookUps[u.lookUps.length]? =
      some ⟨id, (u.cache.get now id).1, u.removals id⟩ :=
  List.getElem?_concat_length

/-- `lookUp` of a cursor that is not cached finds a fresh entry. -/
theorem contents?_lookUp (u : CacheUse) (now : Nat) {id : Int64} (h : u.cache.slot? id = none) :
    (u.lookUp now id).contents? u.lookUps.length = some .fresh := by
  obtain ⟨hhandle, hentries⟩ := u.cache.get_of_none now h
  have hentry : (u.lookUp now id).cache.entry? (u.cache.get now id).1 = some (.fresh id) := by
    change (u.cache.get now id).2.entries[_]? = _
    rw [hhandle, hentries, List.getElem?_concat_length]
  rw [contents?, getElem?_lookUp]
  simp [hentry]

/-- `lookUp` of a cursor that is not cached gives an entry that no earlier look-up comes to
share. -/
theorem Follows.shares_lookUp (h : u.Follows since) (now : Nat) {id : Int64}
    (hslot : u.cache.slot? id = none) {place : Nat} (hplace : place < u.lookUps.length)
    (later : List (Nat × CacheCall)) :
    ((u.lookUp now id).run later).shares u.lookUps.length place = false := by
  obtain ⟨since', hfound⟩ := h.step now (.get id)
  have hold : (u.lookUp now id).lookUps[place]? = some u.lookUps[place] := by
    have happend : (u.lookUp now id).lookUps = u.lookUps ++
        [⟨id, (u.cache.get now id).1, u.removals id⟩] := rfl
    rw [happend, List.getElem?_append_left hplace, List.getElem?_eq_getElem hplace]
  exact hfound.shares_run (u.getElem?_lookUp now id) hold
    (h.handle_ne now hslot (List.getElem_mem hplace)).symm later

/-! ### Calls that remove cursors -/

/-- Whether a call is to take a cursor out of the cache. -/
def drops (u : CacheUse) (now : Nat) (call : CacheCall) (id : Int64) : Bool :=
  match call with
  | .close closed => id == closed
  | .clear => true
  | .reapExpired => (u.cache.reapExpired now).1.contains id
  | .track command response =>
    isOk response &&
      if command.kind = .killCursors then command.cursorIds.contains id
      else respondedCursor? response == some exhaustedCursor && command.cursorId? == some id
  | _ => false

/-- `track` leaves a cursor cached that it does not drop, and no other. -/
theorem contains_track_of_contains (u : CacheUse) (now : Nat) (command : Command)
    (response : Document) {id : Int64} (h : u.cache.contains id = true) :
    (u.cache.track now command response).2.contains id =
      !u.drops now (.track command response) id := by
  rw [drops]
  -- the cases of `drops` are those of `track`
  cases hok : isOk response with
  | false => simpa [u.cache.track_of_failed now hok] using h
  | true =>
    by_cases hkind : command.kind = .killCursors
    · simp [u.cache.track_of_kill now hok hkind, hkind, CursorCache.contains_closeAll, h]
    · cases hid : respondedCursor? response with
      | none => simpa [u.cache.track_of_unnamed now hkind hid, hkind] using h
      | some named =>
        by_cases hne : named = exhaustedCursor
        · subst hne
          rw [u.cache.track_of_exhausted now hok hkind hid, CursorCache.contains_closeAll, h]
          cases command.cursorId? with
          | none => simp [hkind]
          | some continued => simp [hkind, Bool.beq_eq_decide_eq, eq_comm]
        · rw [u.cache.track_of_named now hok hkind hid hne,
            u.cache.contains_get_of_contains now h]
          simp [hkind, hne]

/-- `step` leaves a cursor cached that the call does not drop, and no other. -/
theorem contains_step_of_contains (u : CacheUse) (now : Nat) (call : CacheCall) {id : Int64}
    (h : u.cache.contains id = true) :
    (u.step now call).cache.contains id = !u.drops now call id := by
  cases call with
  | create looked | get looked => exact u.cache.contains_get_of_contains now h
  | contains _ | size | read _ => exact h
  | close closed =>
    change (u.cache.closeAll [closed]).contains id = _
    rw [CursorCache.contains_closeAll, h, drops, Bool.and_true, List.contains_cons,
      List.contains_nil, Bool.or_false]
  | clear => rfl
  -- removing the idle ones is closing them, one after the other
  | reapExpired =>
    change (u.cache.removeAllIdle now (u.cache.idle now)).2.contains id = _
    rw [u.cache.removeAllIdle_eq_closeAll, CursorCache.contains_closeAll, h, Bool.and_true]
    rfl
  | track command response => exact u.contains_track_of_contains now command response h
  | write place change =>
    rw [step, write]
    split <;> exact h

/-- `step` leaves a cursor uncached that the call drops, also if it was not cached before. -/
theorem contains_step_of_drops (u : CacheUse) (now : Nat) (call : CacheCall) {id : Int64}
    (hdrops : u.drops now call id = true) : (u.step now call).cache.contains id = false := by
  cases h : u.cache.contains id with
  | true => rw [u.contains_step_of_contains now call h, hdrops, Bool.not_true]
  | false =>
    -- a call that drops cursors caches none
    have hclosed (ids : List Int64) : (u.cache.closeAll ids).contains id = false := by
      rw [CursorCache.contains_closeAll, h, Bool.and_false]
    cases call with
    | close closed => exact hclosed [closed]
    | clear => rfl
    | reapExpired =>
      change (u.cache.removeAllIdle now (u.cache.idle now)).2.contains id = false
      rw [u.cache.removeAllIdle_eq_closeAll]
      exact hclosed _
    | track command response =>
      change (u.cache.track now command response).2.contains id = false
      rw [drops, Bool.and_eq_true] at hdrops
      obtain ⟨hok, hdrops⟩ := hdrops
      split at hdrops
      · rename_i hkind
        rw [u.cache.track_of_kill now hok hkind]
        exact hclosed _
      · rename_i hkind
        rw [Bool.and_eq_true, beq_iff_eq] at hdrops
        rw [u.cache.track_of_exhausted now hok hkind hdrops.1]
        exact hclosed _
    | _ => cases hdrops

/-- `removals` counts the cursors that are cached and that the call drops. -/
theorem removals_step (u : CacheUse) (now : Nat) (call : CacheCall) (id : Int64) :
    (u.step now call).removals id =
      u.removals id + if u.cache.contains id && u.drops now call id then 1 else 0 := by
  -- what a call removes is counted by the caches before and after
  have hremovals : (u.step now call).removals =
      u.cache.removalsTo (u.step now call).cache u.removals := by
    have hself := congrArg CacheUse.removals u.withCache_self
    cases call with
    | contains _ | size | read _ => exact hself.symm
    | write place change =>
      rw [step, write]
      split
      · rfl
      · exact hself.symm
    | _ => rfl
  rw [hremovals, CursorCache.removalsTo]
  cases h : u.cache.contains id with
  | false => rfl
  | true => rw [u.contains_step_of_contains now call h, Bool.not_not]

/-- What a call does about a cursor that it `drops`, and about one that it does not. -/
structure TakesOut (u : CacheUse) (now : Nat) (call : CacheCall) (id : Int64) : Prop where
  dropped (h : u.drops now call id = true) : (u.step now call).cache.contains id = false
  kept (h : u.drops now call id = false) (hcached : u.cache.contains id = true) :
    (u.step now call).cache.contains id = true
  /-- The `removals` are counted of cursors that were cached and are dropped, and of no others. -/
  counted : (u.step now call).removals id =
    u.removals id + if u.cache.contains id && u.drops now call id then 1 else 0

/-- Each call does about each cursor what `TakesOut` states. -/
theorem takesOut_step (u : CacheUse) (now : Nat) (call : CacheCall) (id : Int64) :
    u.TakesOut now call id where
  dropped := u.contains_step_of_drops now call
  kept h hcached := by rw [u.contains_step_of_contains now call hcached, h, Bool.not_false]
  counted := u.removals_step now call id

/-- Whatever was called, the cache `IsSound`. `get` of a cursor that is not cached finds a `.fresh`
entry then, of which nothing that is written through an earlier handle is ever read. The cache may
be asked for cursors, and be told to `close` one that it does not have: that changes nothing. A
cursor is not cached after `close` or `clear`, and `removals` counts what the calls take out that
`drops` names: these two, `reapExpired` for what it reports, and `track` for a response that ends
cursors. -/
theorem isSound_run (ttl : Nat) (calls : List (Nat × CacheCall)) (now : Nat) (id : Int64)
    (later : List (Nat × CacheCall)) :
    let u := (start ttl).run calls
    let found := u.step now (.get id)
    u.IsSound ∧
      (found = u.step now (.create id) ∧
        (∃ h, found.lookUps = u.lookUps ++ [⟨id, h, u.removals id⟩]) ∧
        (u.cache.contains id = false → found.contents? u.lookUps.length = some .fresh ∧
          ∀ place < u.lookUps.length, (found.run later).shares u.lookUps.length place = false)) ∧
      u.step now (.contains id) = u ∧ u.step now .size = u ∧
      (u.cache.contains id = false → u.step now (.close id) = u) ∧
      (u.step now (.close id)).cache.contains id = false ∧
      (u.step now .clear).cache.contains id = false ∧
      ∀ call, u.TakesOut now call id := by
  intro u found
  -- all is right after the calls, so that it goes on to be after more of them
  obtain ⟨since, h⟩ := (Follows.start ttl).run calls
  have hslot (hnone : u.cache.contains id = false) : u.cache.slot? id = none := by
    simpa [CursorCache.contains] using hnone
  refine ⟨h.isSound, ⟨rfl, ⟨_, rfl⟩, fun hnone => ?_⟩, rfl, rfl, fun hnone => ?_,
    u.cache.contains_close_self id, rfl, fun call => u.takesOut_step now call id⟩
  · exact ⟨u.contents?_lookUp now (hslot hnone),
      fun place hplace => h.shares_lookUp now (hslot hnone) hplace later⟩
  · rw [step, u.cache.close_of_none (hslot hnone), withCache_self]

/-- What is written through the first handle, after its cursor was removed and looked up again, is
not read through the second. -/
example :
    let u := (start 1000).run [(0, .get 5), (1, .close 5), (2, .get 5),
      (3, .write 0 fun contents => ⟨contents.consumed + 3, contents.sidecar⟩)]
    u.contents? 0 = some ⟨3, .empty⟩ ∧ u.contents? 1 = some .fresh := by
  decide

end CacheUse

end DocGateway
