import DocGateway.Proofs.Cursor.Cache
/-!
# Lives of cursors

A cursor that is looked up after it was removed lives again, with a new entry. So its lives can be
told apart by how often it had been removed before, and each entry belongs to one life of one
cursor.

## Key results

- `Dated.get`, `Dated.mono`: look-ups and removals keep entries with the lives that they belong to
- `LookUp.IsIn.handle_eq_iff`: two look-ups lead to the same entry if and only if they were made in
  the same life of the same cursor
-/

namespace DocGateway

namespace CursorCache

/-- The cursor of an entry. -/
def idAt (c : CursorCache) (h : CursorHandle) : Option Int64 := (c.entry? h).map (·.id)

/-- How often each cursor has been removed when the cache has become another one in one step. -/
def removalsTo (c c' : CursorCache) (removals : Int64 → Nat) (id : Int64) : Nat :=
  removals id + if c.contains id && !c'.contains id then 1 else 0

/-- The entries belong to lives of their cursors: `since h` is the number of removals before the
life that the entry at `h` belongs to. -/
structure Dated (c : CursorCache) (removals : Int64 → Nat) (since : CursorHandle → Nat) : Prop where
  /-- A slot leads to an entry of its cursor. -/
  idAt_slot {id : Int64} {slot : CursorSlot} (h : c.slot? id = some slot) :
    c.idAt slot.handle = some id
  /-- It is the entry of the present life. -/
  since_slot {id : Int64} {slot : CursorSlot} (h : c.slot? id = some slot) :
    since slot.handle = removals id
  /-- An entry to which no slot leads belongs to a life that is over. -/
  past {id : Int64} {h : CursorHandle} (hid : id ≠ exhaustedCursor) (hh : c.idAt h = some id) :
    since h < removals id ∨ ∃ slot, c.slot? id = some slot ∧ slot.handle = h
  /-- No two entries belong to the same life. -/
  unique {id : Int64} {h h' : CursorHandle} (hid : id ≠ exhaustedCursor) (hh : c.idAt h = some id)
    (hh' : c.idAt h' = some id) (heq : since h = since h') : h = h'

variable {c c' : CursorCache} {removals : Int64 → Nat} {since : CursorHandle → Nat}

/-- An entry with a cursor is one of the entries. -/
theorem lt_length_of_idAt {h : CursorHandle} {id : Int64} (hh : c.idAt h = some id) :
    h < c.entries.length := by
  rw [idAt, Option.map_eq_some_iff] at hh
  obtain ⟨e, he, -⟩ := hh
  exact (List.getElem?_eq_some_iff.mp he).1

/-- `get` leaves the cursors of the entries that are there already. -/
theorem idAt_get_of_lt (now : Nat) {h : CursorHandle} (hh : h < c.entries.length) (id : Int64) :
    (c.get now id).2.idAt h = c.idAt h := by
  rw [idAt, c.entry?_get_of_lt now hh, idAt]

/-- The new entry of `get` is one of the cursor that was looked up. -/
theorem idAt_get_length (now : Nat) {id : Int64} (hnone : c.slot? id = none) :
    (c.get now id).2.idAt c.entries.length = some id := by
  rw [idAt, entry?, (c.get_of_none now hnone).2, List.getElem?_concat_length]
  rfl

/-! ### Removals -/

/-- Nothing is looked up: entries stay with their cursors, and slots stay in their places or are
taken away. -/
structure Shrinks (c c' : CursorCache) : Prop where
  idAt (h : CursorHandle) : c'.idAt h = c.idAt h
  slot? (id : Int64) : c'.slot? id = none ∨ c'.slot? id = c.slot? id

/-- A cache that stays as it is shrinks to itself. -/
theorem shrinks_refl : c.Shrinks c := ⟨fun _ => rfl, fun _ => .inr rfl⟩

/-- `close` only takes slots away. -/
theorem shrinks_close (id : Int64) : c.Shrinks (c.close id) where
  idAt _ := rfl
  slot? id' := by
    rw [slot?_close]
    split <;> simp

/-- `closeAll` only takes slots away. -/
theorem shrinks_closeAll (ids : List Int64) : c.Shrinks (c.closeAll ids) where
  idAt h := by rw [CursorCache.idAt, entry?, entries_closeAll, CursorCache.idAt, entry?]
  slot? id' := by
    rw [slot?_closeAll]
    split <;> simp

/-- `clear` only takes slots away. -/
theorem shrinks_clear : c.Shrinks c.clear where
  idAt _ := rfl
  slot? _ := .inl rfl

/-- `modify` takes nothing away where it leaves the cursor of an entry alone. -/
theorem shrinks_modify (h : CursorHandle) {f : CursorEntry → CursorEntry}
    (hf : ∀ e, (f e).id = e.id) :
    c.Shrinks (c.modify h f) where
  idAt h' := by
    rw [CursorCache.idAt, entry?_modify, CursorCache.idAt]
    split
    · cases c.entry? h' <;> simp [hf]
    · rfl
  slot? _ := .inr rfl

/-- `consume` takes nothing away. -/
theorem shrinks_consume (h : CursorHandle) (n : Nat) : c.Shrinks (c.consume h n) :=
  shrinks_modify h fun _ => rfl

/-- What is cached in a cache that `Shrinks` from another was cached in that one. -/
theorem Shrinks.contains (h : c.Shrinks c') {id : Int64} (hid : c'.contains id = true) :
    c.contains id = true := by
  obtain hnone | hsame := h.slot? id
  · simp [CursorCache.contains, hnone] at hid
  · rwa [CursorCache.contains, hsame] at hid

/-! ### Lives -/

namespace Dated

/-- In an empty cache there is nothing to be dated. -/
theorem empty (ttl : Nat) (removals : Int64 → Nat) (since : CursorHandle → Nat) :
    Dated (.empty ttl) removals since where
  idAt_slot h := by cases h
  since_slot h := by cases h
  past _ hh := by cases hh
  unique _ hh := by cases hh

/-- `Dated` is kept where nothing is looked up, with the removals counted. -/
theorem mono (h : Dated c removals since) (hc : c.Shrinks c') :
    Dated c' (c.removalsTo c' removals) since where
  idAt_slot {id slot} hslot := by
    obtain hnone | hsame := hc.slot? id
    · rw [hnone] at hslot; cases hslot
    · rw [hc.idAt]
      exact h.idAt_slot (hsame ▸ hslot)
  since_slot {id slot} hslot := by
    obtain hnone | hsame := hc.slot? id
    · rw [hnone] at hslot; cases hslot
    · rw [h.since_slot (hsame ▸ hslot)]
      simp [removalsTo, contains, hslot]
  past {id handle} hid hh := by
    rw [hc.idAt] at hh
    obtain hlt | ⟨slot, hslot, rfl⟩ := h.past hid hh
    · exact .inl (Nat.lt_of_lt_of_le hlt (Nat.le_add_right _ _))
    · obtain hnone | hsame := hc.slot? id
      · -- this removal ends the life of the entry
        left
        rw [h.since_slot hslot]
        simp [removalsTo, contains, hslot, hnone]
      · exact .inr ⟨slot, hsame.trans hslot, rfl⟩
  unique hid hh hh' heq := h.unique hid (hc.idAt _ ▸ hh) (hc.idAt _ ▸ hh') heq

/-- `Dated` is kept by the look-up of a cached cursor, with the same dates. -/
theorem get_of_slot (h : Dated c removals since) (now : Nat) {id : Int64} {slot : CursorSlot}
    (hid : id ≠ exhaustedCursor) (hslot : c.slot? id = some slot) :
    Dated (c.get now id).2 removals since := by
  obtain ⟨hhandle, hentries⟩ := c.get_of_slot now hid hslot
  have hidAt (h : CursorHandle) : (c.get now id).2.idAt h = c.idAt h := by
    rw [idAt, entry?, hentries, idAt, entry?]
  -- the slot is touched, but leads to the same entry
  have hslots {id' : Int64} {slot' : CursorSlot} (h' : (c.get now id).2.slot? id' = some slot') :
      ∃ slot, c.slot? id' = some slot ∧ slot.handle = slot'.handle := by
    rw [c.slot?_get now hid, hhandle] at h'
    split at h'
    · rename_i heq
      cases h'
      exact ⟨slot, heq ▸ hslot, rfl⟩
    · exact ⟨slot', h', rfl⟩
  -- each field for the new cache, by the slot that the touched one was
  constructor
  · intro id' slot' h'
    obtain ⟨slot, hs, heq⟩ := hslots h'
    rw [hidAt, ← heq]
    exact h.idAt_slot hs
  · intro id' slot' h'
    obtain ⟨slot, hs, heq⟩ := hslots h'
    rw [← heq]
    exact h.since_slot hs
  · intro id' handle hid' hh
    obtain hlt | ⟨slot', hs, rfl⟩ := h.past hid' (hidAt handle ▸ hh)
    · exact .inl hlt
    · right
      rw [c.slot?_get now hid]
      by_cases heq : id' = id
      · subst heq
        rw [hslot] at hs
        cases hs
        exact ⟨_, if_pos rfl, hhandle⟩
      · exact ⟨slot', by rw [if_neg heq, hs], rfl⟩
  · intro id' handle handle' hid' hh hh' heq
    exact h.unique hid' (hidAt handle ▸ hh) (hidAt handle' ▸ hh') heq

/-- `Dated` is kept by the look-up of the exhausted cursor, which has no lives. -/
theorem get_exhausted (h : Dated c removals since) (now : Nat) :
    Dated (c.get now exhaustedCursor).2 removals since := by
  have hidAt {handle : CursorHandle} {id : Int64} (hid : id ≠ exhaustedCursor)
      (hh : (c.get now exhaustedCursor).2.idAt handle = some id) : c.idAt handle = some id := by
    by_cases hlt : handle < c.entries.length
    · rwa [idAt_get_of_lt now hlt] at hh
    · -- the entry that was added is of the exhausted cursor
      have heq : handle = c.entries.length := by
        have := lt_length_of_idAt hh
        simp only [c.get_exhausted now, allocate, List.length_append, List.length_singleton] at this
        exact Nat.eq_of_lt_succ_of_not_lt this hlt
      subst heq
      simp only [idAt, entry?, c.get_exhausted now, allocate, List.getElem?_concat_length,
        Option.map_some, CursorEntry.fresh, Option.some.injEq] at hh
      exact absurd hh.symm hid
  constructor
  · intro id slot hslot
    rw [slot?_get_exhausted] at hslot
    have hh := h.idAt_slot hslot
    rwa [idAt_get_of_lt now (lt_length_of_idAt hh)]
  · intro id slot hslot
    rw [slot?_get_exhausted] at hslot
    exact h.since_slot hslot
  · intro id handle hid hh
    rw [slot?_get_exhausted]
    exact h.past hid (hidAt hid hh)
  · intro id handle handle' hid hh hh' heq
    exact h.unique hid (hidAt hid hh) (hidAt hid hh') heq

/-- `Dated` is kept by the look-up of a cursor that is not cached: it begins a new life. -/
theorem get_of_none (h : Dated c removals since) (now : Nat) {id : Int64}
    (hid : id ≠ exhaustedCursor) (hnone : c.slot? id = none) :
    Dated (c.get now id).2 removals fun h =>
      if h = c.entries.length then removals id else since h := by
  obtain ⟨hhandle, hentries⟩ := c.get_of_none now hnone
  -- an entry is the one that was added, or an old one of a life that is over if it is of this
  -- cursor
  have hcases {handle : CursorHandle} {id' : Int64} (hh : (c.get now id).2.idAt handle = some id') :
      (handle = c.entries.length ∧ id' = id) ∨
      (handle ≠ c.entries.length ∧ c.idAt handle = some id') := by
    by_cases heq : handle = c.entries.length
    · subst heq
      rw [idAt_get_length now hnone] at hh
      exact .inl ⟨rfl, (Option.some.inj hh).symm⟩
    · have hlt := lt_length_of_idAt hh
      rw [hentries, List.length_append, List.length_singleton] at hlt
      rw [idAt_get_of_lt now (Nat.lt_of_le_of_ne (Nat.le_of_lt_succ hlt) heq)] at hh
      exact .inr ⟨heq, hh⟩
  have hold {handle : CursorHandle} (hh : c.idAt handle = some id) :
      since handle < removals id := by
    obtain hlt | ⟨slot, hslot, -⟩ := h.past hid hh
    · exact hlt
    · rw [hnone] at hslot; cases hslot
  -- each field by cases: the entry that was added, or one that was there
  constructor
  · intro id' slot hslot
    rw [c.slot?_get now hid, hhandle] at hslot
    split at hslot
    · rename_i heq
      cases hslot
      rw [idAt_get_length now hnone, heq]
    · have hh := h.idAt_slot hslot
      rwa [idAt_get_of_lt now (lt_length_of_idAt hh)]
  · intro id' slot hslot
    rw [c.slot?_get now hid, hhandle] at hslot
    split at hslot
    · rename_i heq
      cases hslot
      simp [heq]
    · have hlt := lt_length_of_idAt (h.idAt_slot hslot)
      rw [if_neg (Nat.ne_of_lt hlt)]
      exact h.since_slot hslot
  · intro id' handle hid' hh
    rw [c.slot?_get now hid]
    obtain ⟨rfl, rfl⟩ | ⟨hne, hh⟩ := hcases hh
    · exact .inr ⟨_, if_pos rfl, hhandle⟩
    · simp only [if_neg hne]
      obtain hlt | ⟨slot, hslot, heq⟩ := h.past hid' hh
      · exact .inl hlt
      · have hne' : id' ≠ id := by
          rintro rfl
          rw [hnone] at hslot
          cases hslot
        exact .inr ⟨slot, by rw [if_neg hne', hslot], heq⟩
  -- two entries of one life are both new or both old, as all old ones of this cursor are of earlier
  -- lives
  · intro id' handle handle' hid' hh hh' heq
    obtain ⟨rfl, rfl⟩ | ⟨hne, hin⟩ := hcases hh <;> obtain ⟨rfl, hid''⟩ | ⟨hne', hin'⟩ := hcases hh'
    · rfl
    · have := hold hin'
      simp only [if_neg hne', ↓reduceIte] at heq
      omega
    · subst hid''
      have := hold hin
      simp only [if_neg hne, ↓reduceIte] at heq
      omega
    · rw [if_neg hne, if_neg hne'] at heq
      exact h.unique hid' hin hin' heq

/-- `get` removes nothing. -/
theorem removalsTo_get (now : Nat) (id : Int64) :
    c.removalsTo (c.get now id).2 removals = removals := by
  funext id'
  by_cases heq : id' = id
  · subst heq
    by_cases hid : id' = exhaustedCursor
    · subst hid
      simp [removalsTo, contains, ← Option.isSome_iff_ne_none]
    · simp [removalsTo, hid]
  · simp [removalsTo, contains, c.slot?_get_of_ne now heq, ← Option.isSome_iff_ne_none]

/-- `Dated` is kept by any look-up: old entries stay in their lives, and the entry that was found
belongs to the present one. -/
theorem get (h : Dated c removals since) (now : Nat) (id : Int64) :
    ∃ since', Dated (c.get now id).2 (c.removalsTo (c.get now id).2 removals) since' ∧
      (∀ h < c.entries.length, since' h = since h) ∧
      (c.get now id).2.idAt (c.get now id).1 = some id ∧
      (id ≠ exhaustedCursor → since' (c.get now id).1 = removals id) := by
  -- three kinds of look-up: the exhausted cursor, one that is not cached, and one that is
  rw [removalsTo_get]
  by_cases hid : id = exhaustedCursor
  · subst hid
    refine ⟨since, h.get_exhausted now, fun _ _ => rfl, ?_, fun hid => absurd rfl hid⟩
    simp [c.get_exhausted now, allocate, idAt, entry?, CursorEntry.fresh]
  · cases hslot : c.slot? id with
    | none =>
      obtain ⟨hhandle, -⟩ := c.get_of_none now hslot
      refine ⟨_, h.get_of_none now hid hslot, fun h hlt => if_neg (Nat.ne_of_lt hlt), ?_,
        fun _ => ?_⟩
      · rw [hhandle, idAt_get_length now hslot]
      · rw [hhandle, if_pos rfl]
    | some slot =>
      obtain ⟨hhandle, -⟩ := c.get_of_slot now hid hslot
      have hh := h.idAt_slot hslot
      refine ⟨since, h.get_of_slot now hid hslot, fun _ _ => rfl, ?_, fun _ => ?_⟩
      · rw [hhandle, idAt_get_of_lt now (lt_length_of_idAt hh), hh]
      · rw [hhandle, h.since_slot hslot]

end Dated

end CursorCache

/-! ### Look-ups -/

/-- A look-up of a cursor: the entry that was found, and how often the cursor had been removed
before, which tells its lives apart. -/
structure LookUp where
  cursor : Int64
  handle : CursorHandle
  lifetime : Nat
deriving DecidableEq, Repr, Inhabited

namespace LookUp

/-- A look-up leads to an entry of its cursor, and of the life that it was made in. -/
structure IsIn (l : LookUp) (c : CursorCache) (since : CursorHandle → Nat) : Prop where
  idAt : c.idAt l.handle = some l.cursor
  since_handle (h : l.cursor ≠ exhaustedCursor) : since l.handle = l.lifetime

namespace IsIn

variable {l l' : LookUp} {c c' : CursorCache} {removals : Int64 → Nat}
  {since since' : CursorHandle → Nat}

/-- A look-up goes on to lead where it leads. -/
theorem mono (h : l.IsIn c since) (hentries : ∀ h < c.entries.length, c'.idAt h = c.idAt h)
    (hsince : ∀ h < c.entries.length, since' h = since h) : l.IsIn c' since' where
  idAt := by rw [hentries _ (CursorCache.lt_length_of_idAt h.idAt), h.idAt]
  since_handle hid := by rw [hsince _ (CursorCache.lt_length_of_idAt h.idAt), h.since_handle hid]

/-- Two look-ups lead to the same entry if and only if they were made in the same life of the same
cursor. -/
theorem handle_eq_iff (h : l.IsIn c since) (h' : l'.IsIn c since) (hdated : c.Dated removals since)
    (hid : l.cursor ≠ exhaustedCursor) :
    l'.handle = l.handle ↔ l'.cursor = l.cursor ∧ l'.lifetime = l.lifetime := by
  constructor
  · intro heq
    have hcursor : l'.cursor = l.cursor := Option.some.inj (h'.idAt.symm.trans (heq ▸ h.idAt))
    refine ⟨hcursor, ?_⟩
    rw [← h.since_handle hid, ← h'.since_handle (hcursor ▸ hid), heq]
  · rintro ⟨hcursor, hlifetime⟩
    have hid' : l'.cursor ≠ exhaustedCursor := hcursor ▸ hid
    refine hdated.unique hid (hcursor ▸ h'.idAt) h.idAt ?_
    rw [h'.since_handle hid', h.since_handle hid, hlifetime]

end IsIn

end LookUp

end DocGateway
