import DocGateway.Cursor.Sidecar
/-!
# The cursor cache

The cache keeps, for each open cursor, what has to survive from one request to the next. An entry is
reached through a handle, which stays good after the cursor was removed: a request that holds it can
finish with it. So entries are kept apart from the slots that say which handle a cursor has now and
when it was last looked up. A cursor that is looked up after it was removed gets a new entry.

Times are counts of milliseconds of one clock.
-/

namespace DocGateway

/-- The identifier that stands for no more results. It never has a slot. -/
def exhaustedCursor : Int64 := 0

/-- What is known of one cursor: how many documents were sent from it, and what stages keep beside
it. -/
structure CursorEntry where
  id : Int64
  consumed : Nat
  sidecar : Sidecar
deriving DecidableEq, Repr, Inhabited

/-- The entry of a cursor that nothing is known of yet. -/
def CursorEntry.fresh (id : Int64) : CursorEntry := ⟨id, 0, .empty⟩

/-- The place of an entry. -/
abbrev CursorHandle := Nat

/-- The present entry of a cursor, and when it was last looked up. -/
structure CursorSlot where
  handle : CursorHandle
  touched : Nat
deriving DecidableEq, Repr, Inhabited

structure CursorCache where
  /-- How long a cursor may be left alone. -/
  ttl : Nat
  /-- All entries ever made, by handle. -/
  entries : List CursorEntry
  /-- The slots of the cursors that are cached. -/
  slots : List (Int64 × CursorSlot)
deriving DecidableEq, Repr, Inhabited

namespace CursorCache

/-- A cache without cursors. -/
def empty (ttl : Nat) : CursorCache := ⟨ttl, [], []⟩

/-- The number of cached cursors. -/
def size (c : CursorCache) : Nat := c.slots.length

/-- The slot of a cursor. -/
def slot? (c : CursorCache) (id : Int64) : Option CursorSlot := c.slots.lookup id

/-- Whether a cursor is cached. Asking does not count as a look-up. -/
def contains (c : CursorCache) (id : Int64) : Bool := (c.slot? id).isSome

/-- The entry that a handle leads to. -/
def entry? (c : CursorCache) (h : CursorHandle) : Option CursorEntry := c.entries[h]?

/-- Adds an entry, to which no slot leads yet. Its handle is the number of entries before it. -/
def allocate (c : CursorCache) (id : Int64) : CursorCache :=
  { c with entries := c.entries ++ [.fresh id] }

/-- Looks a cursor up, and makes an entry for it if it has none. For the exhausted cursor each
look-up makes an entry of its own, without a slot. -/
def get (c : CursorCache) (now : Nat) (id : Int64) : CursorHandle × CursorCache :=
  if id = exhaustedCursor then (c.entries.length, c.allocate id)
  else
    match c.slot? id with
    | some slot =>
      let touched := c.slots.map fun s => if s.1 == id then (id, ⟨slot.handle, now⟩) else s
      (slot.handle, { c with slots := touched })
    | none =>
      (c.entries.length, { c.allocate id with slots := c.slots ++ [(id, ⟨c.entries.length, now⟩)] })

/-- Changes the entry that a handle leads to. -/
def modify (c : CursorCache) (h : CursorHandle) (f : CursorEntry → CursorEntry) : CursorCache :=
  { c with entries := c.entries.modify h f }

/-- Adds to the count of documents sent from a cursor. -/
def consume (c : CursorCache) (h : CursorHandle) (n : Nat) : CursorCache :=
  c.modify h fun e => { e with consumed := e.consumed + n }

/-- Removes a cursor at once. -/
def close (c : CursorCache) (id : Int64) : CursorCache :=
  { c with slots := c.slots.filter (·.1 != id) }

/-- Removes all cursors. -/
def clear (c : CursorCache) : CursorCache := { c with slots := [] }

/-! ### Expiry -/

/-- Whether a slot has been left alone for as long as it may. -/
def isIdle (c : CursorCache) (now : Nat) (slot : CursorSlot) : Bool := c.ttl ≤ now - slot.touched

/-- The cursors that a scan finds idle, in ascending order. -/
def idle (c : CursorCache) (now : Nat) : List Int64 :=
  ((c.slots.filter fun s => c.isIdle now s.2).map (·.1)).mergeSort (· ≤ ·)

/-- Removes a cursor if it is still idle, and says whether it was removed. -/
def removeIdle (c : CursorCache) (now : Nat) (id : Int64) : Bool × CursorCache :=
  match c.slot? id with
  | some slot => if c.isIdle now slot then (true, c.close id) else (false, c)
  | none => (false, c)

/-- Removes those of some cursors that are still idle, and reports them. -/
def removeAllIdle (c : CursorCache) (now : Nat) : List Int64 → List Int64 × CursorCache
  | [] => ([], c)
  | id :: ids =>
    let (removed, c) := c.removeIdle now id
    let (reported, c) := c.removeAllIdle now ids
    (if removed then id :: reported else reported, c)

/-- Removes the idle cursors, and reports them. -/
def reapExpired (c : CursorCache) (now : Nat) : List Int64 × CursorCache :=
  c.removeAllIdle now (c.idle now)

end CursorCache

end DocGateway
