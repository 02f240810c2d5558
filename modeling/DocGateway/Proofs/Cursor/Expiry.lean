import DocGateway.Proofs.Cursor.Handles
import Mathlib.Data.List.Basic
import Mathlib.Data.List.Induction
/-!
# Cursors expire once, and only when they are idle

A call that reaps the expired cursors scans the cache for idle ones, and then removes them one by
one, if they still are idle. In between others create, get and close cursors, and reap them too.
Here such steps are taken in any order, each with what the clock reads then, and what comes of them
is taken down. The record alone tells which cursors are cached, with which entry, and since when
they were left alone; and what each step finds is what the record says.

## Key results

- `ReapedCache.Follows.step`, `ReapedCache.follows_run`: each step keeps the cache as the record
  says, if the clock does not go back
- `ReapedCache.Follows.isExact`: what is reported, and when
- `ReapedCache.reapExpired_eq`: a call that nobody comes between is `CursorCache.reapExpired`
-/

namespace DocGateway

/-! ### Steps and their record -/

/-- A step of one of those who share a cursor cache. -/
inductive CacheStep where
  | create (id : Int64)
  | get (id : Int64)
  | contains (id : Int64)
  | close (id : Int64)
  /-- A call that reaps expired cursors scans the cache. -/
  | scan
  /-- A call comes to one of the cursors that its scan found, whichever it is. -/
  | reap (call : Nat) (id : Int64)
deriving DecidableEq, Repr

/-- What came of a step. -/
inductive CacheEvent where
  /-- A cursor was created or got, with an entry. -/
  | found (id : Int64) (handle : CursorHandle)
  | asked (id : Int64) (cached : Bool)
  | closed (id : Int64)
  | scanned (ids : List Int64)
  /-- A call came to a cursor, and reported it or left it alone. -/
  | reaped (call : Nat) (id : Int64) (reported : Bool)
deriving DecidableEq, Repr

namespace CacheEvent

/-- Whether a cursor was looked up or removed. -/
def Moves (id : Int64) : CacheEvent → Prop
  | found id' _ | closed id' | reaped _ id' true => id' = id
  | _ => False

/-- What a scan found. -/
def scanned? : CacheEvent → Option (List Int64)
  | scanned ids => some ids
  | _ => none

/-- The cursor that a call came to. -/
def reapedBy? (call : Nat) : CacheEvent → Option Int64
  | reaped call' id _ => if call' = call then some id else none
  | _ => none

/-- The cursor that a call reported. -/
def reportedBy? (call : Nat) : CacheEvent → Option Int64
  | reaped call' id true => if call' = call then some id else none
  | _ => none

end CacheEvent

/-- What came of the steps so far, the earliest first, and when. -/
abbrev CacheRecord := List (Nat × CacheEvent)

namespace CacheRecord

/-- A cursor was last looked up at the time that a slot tells, with the entry that the slot leads
to, and it was not removed since. The exhausted cursor is never cached. -/
def Stands (r : CacheRecord) (id : Int64) (slot : CursorSlot) : Prop :=
  id ≠ exhaustedCursor ∧ ∃ before after : CacheRecord,
    r = before ++ (slot.touched, .found id slot.handle) :: after ∧
    ∀ p ∈ after, ¬p.2.Moves id

/-- A cursor is cached, and it was last looked up so long ago. -/
def Idle (r : CacheRecord) (ttl now : Nat) (id : Int64) : Prop :=
  ∃ slot, r.Stands id slot ∧ slot.touched + ttl ≤ now

/-- What the scans found, each by the number of its call. -/
def scans (r : CacheRecord) : List (List Int64) := r.filterMap (·.2.scanned?)

/-- The cursors that a call came to. -/
def reapedBy (r : CacheRecord) (call : Nat) : List Int64 := r.filterMap (·.2.reapedBy? call)

/-- The cursors that a call reported. -/
def reportedBy (r : CacheRecord) (call : Nat) : List Int64 := r.filterMap (·.2.reportedBy? call)

end CacheRecord

/-- What comes of a step is what the record before it says: a look-up leads to the entry that the
cursor has, or to a new one if it has none, a scan finds what is idle, and a call comes to what its
scan found, and reports what is idle then. -/
def CacheEvent.IsRight (ttl : Nat) (earlier : CacheRecord) (now : Nat) : CacheEvent → Prop
  | found id handle => (∀ slot, earlier.Stands id slot → slot.handle = handle) ∧
      ((∀ slot, ¬earlier.Stands id slot) → ∀ t id', (t, found id' handle) ∉ earlier)
  | asked id cached => cached = true ↔ ∃ slot, earlier.Stands id slot
  | closed _ => True
  | scanned ids => ids.Nodup ∧ ∀ id, id ∈ ids ↔ earlier.Idle ttl now id
  | reaped call id reported =>
    (∃ ids, earlier.scans[call]? = some ids ∧ id ∈ ids) ∧
      (reported = true ↔ earlier.Idle ttl now id)

/-- A cursor cache that is shared, with calls under way that reap expired cursors. -/
structure ReapedCache where
  cache : CursorCache
  /-- The cursors that each call is still to come to. -/
  pending : List (List Int64)
  record : CacheRecord

namespace ReapedCache

/-- A cache of which no use was made. -/
def start (ttl : Nat) : ReapedCache := ⟨.empty ttl, [], []⟩

/-- Takes down what came of a step. -/
def note (u : ReapedCache) (now : Nat) (e : CacheEvent) : ReapedCache :=
  { u with record := u.record ++ [(now, e)] }

/-- Takes a step. A call can only come to a cursor that it found and that it has not come to
before. -/
def step (u : ReapedCache) (now : Nat) : CacheStep → ReapedCache
  | .create id | .get id =>
    let (handle, cache) := u.cache.get now id
    { u with cache }.note now (.found id handle)
  | .contains id => u.note now (.asked id (u.cache.contains id))
  | .close id => { u with cache := u.cache.close id }.note now (.closed id)
  | .scan =>
    let ids := u.cache.idle now
    { u with pending := u.pending ++ [ids] }.note now (.scanned ids)
  | .reap call id =>
    match u.pending[call]? with
    | some ids =>
      if id ∈ ids then
        let (reported, cache) := u.cache.removeIdle now id
        { u with cache, pending := u.pending.set call (ids.erase id) }.note now
          (.reaped call id reported)
      else u
    | none => u

/-- Takes steps one after another, each at its time. -/
def run (u : ReapedCache) (steps : List (Nat × CacheStep)) : ReapedCache :=
  steps.foldl (fun u s => u.step s.1 s.2) u

/-- What holds after any steps. -/
structure IsExact (ttl : Nat) (u : ReapedCache) : Prop where
  /-- A cursor is cached just as the record says. -/
  slot?_iff {id : Int64} {slot : CursorSlot} :
    u.cache.slot? id = some slot ↔ u.record.Stands id slot
  /-- What came of each step is what the record before it says. -/
  right {earlier later : CacheRecord} {now : Nat} {e : CacheEvent}
    (h : u.record = earlier ++ (now, e) :: later) :
    e.IsRight ttl earlier now
  /-- A call comes to each cursor that it found, once. -/
  perm {call : Nat} {ids : List Int64} (h : u.record.scans[call]? = some ids) :
    ∃ pending, u.pending[call]? = some pending ∧ (pending ++ u.record.reapedBy call).Perm ids
  /-- A cursor that was just reported is not cached. -/
  removed {earlier : CacheRecord} {now call : Nat} {id : Int64}
    (h : u.record = earlier ++ [(now, .reaped call id true)]) :
    u.cache.contains id = false
  /-- A cursor that was reported is not reported again before it was looked up again. -/
  once {earlier between later : CacheRecord} {now now' call call' : Nat} {id : Int64}
    (h : u.record = earlier ++ (now, .reaped call id true) ::
      (between ++ (now', .reaped call' id true) :: later)) :
    ∃ t handle, (t, .found id handle) ∈ between
  /-- A cursor that was closed, and not looked up since, is not reported. -/
  closed {earlier between later : CacheRecord} {t now call : Nat} {id : Int64} {reported : Bool}
    (h : u.record = earlier ++ (t, .closed id) ::
      (between ++ (now, .reaped call id reported) :: later))
    (hnone : ∀ t handle, (t, .found id handle) ∉ between) : reported = false
  /-- A cursor that was looked up a short time ago is not reported. If it was not removed since, it
  stays cached with its entry. -/
  touched {earlier between later : CacheRecord} {t now call : Nat} {id : Int64}
    {handle : CursorHandle} {reported : Bool}
    (h : u.record = earlier ++ (t, .found id handle) ::
      (between ++ (now, .reaped call id reported) :: later)) (hshort : now < t + ttl) :
    reported = false ∧
    (id ≠ exhaustedCursor → (∀ p ∈ between, p.2.Moves id → ∃ handle, p.2 = .found id handle) →
      ∃ touched, CacheRecord.Stands (earlier ++ (t, .found id handle) ::
        (between ++ [(now, .reaped call id reported)])) id ⟨handle, touched⟩)
  /-- A cursor that was idle at a scan, and was left alone since, is reported. -/
  idle {earlier between later : CacheRecord} {t now call : Nat} {ids : List Int64} {id : Int64}
    {reported : Bool}
    (h : u.record = earlier ++ (t, .scanned ids) ::
      (between ++ (now, .reaped call id reported) :: later))
    (hidle : earlier.Idle ttl t id) (halone : ∀ p ∈ between, ¬p.2.Moves id) : reported = true

end ReapedCache

/-! ### What records say -/

namespace CacheRecord

variable {r a b : CacheRecord} {now t : Nat} {e : CacheEvent} {id : Int64} {slot : CursorSlot}

/-- No cursor is cached by an empty record. -/
@[simp] theorem not_stands_nil : ¬Stands [] id slot := by
  rintro ⟨-, before, after, h, -⟩
  simp at h

/-- The last event is the look-up that the slot tells of, or it does not concern the cursor. -/
theorem stands_concat : (r ++ [(now, e)]).Stands id slot ↔
    (id ≠ exhaustedCursor ∧ now = slot.touched ∧ e = .found id slot.handle) ∨
    (¬e.Moves id ∧ r.Stands id slot) := by
  constructor
  · rintro ⟨hid, before, after, h, halone⟩
    -- the look-up is the last event, or stands before it
    obtain rfl | ⟨after, p, rfl⟩ := after.eq_nil_or_concat'
    · obtain ⟨rfl, hlast⟩ := List.append_inj' h rfl
      obtain ⟨rfl, rfl⟩ := Prod.mk.inj (List.singleton_inj.mp hlast)
      exact .inl ⟨hid, rfl, rfl⟩
    · rw [← List.cons_append, ← List.append_assoc] at h
      obtain ⟨rfl, hlast⟩ := List.append_inj' h rfl
      obtain rfl := List.singleton_inj.mp hlast
      exact .inr ⟨halone (now, e) (by simp), hid, before, after, rfl,
        fun p hp => halone p (by simp [hp])⟩
  · rintro (⟨hid, rfl, rfl⟩ | ⟨hmoves, hid, before, after, rfl, halone⟩)
    · exact ⟨hid, r, [], rfl, by simp⟩
    · refine ⟨hid, before, after ++ [(now, e)], by simp, fun p hp => ?_⟩
      obtain hp | hp := List.mem_append.mp hp
      · exact halone p hp
      · rwa [List.mem_singleton.mp hp]

/-- A slot of `a ++ b` is one of `b`, or one of `a` that nothing in `b` concerns. -/
theorem stands_append : (a ++ b).Stands id slot ↔ b.Stands id slot ∨
      ((∀ p ∈ b, ¬p.2.Moves id) ∧ a.Stands id slot) := by
  induction b using List.reverseRecOn with
  | nil => simp
  | append_singleton b p ih =>
    obtain ⟨now, e⟩ := p
    rw [← List.append_assoc, stands_concat, stands_concat, ih, List.forall_mem_append,
      List.forall_mem_singleton]
    tauto

/-- The first event gives the slot if it is the last one that concerns the cursor. -/
theorem stands_cons : Stands ((t, e) :: r) id slot ↔
    r.Stands id slot ∨
    ((∀ p ∈ r, ¬p.2.Moves id) ∧ id ≠ exhaustedCursor ∧ t = slot.touched ∧
      e = .found id slot.handle) := by
  have h := @stands_append [(t, e)] r id slot
  have hone := @stands_concat [] t e id slot
  simp only [List.nil_append, not_stands_nil, and_false, or_false] at hone
  rwa [hone] at h

/-- Events before one that `Moves` the cursor do not count. -/
theorem stands_of_moves (h : Stands (a ++ (t, e) :: b) id slot) (hmoves : e.Moves id) :
    b.Stands id slot ∨ t = slot.touched ∧ e = .found id slot.handle := by
  obtain hstands | ⟨halone, -⟩ := stands_append.mp h
  · exact (stands_cons.mp hstands).imp_right fun h => h.2.2
  · exact absurd hmoves (halone _ List.mem_cons_self)

/-- A scan that is taken down is the last of `scans`. -/
@[simp] theorem scans_concat : scans (r ++ [(now, e)]) = r.scans ++ e.scanned?.toList := by
  rw [scans, List.filterMap_append]
  cases e <;> rfl

/-- A cursor that a call came to just now is the last of `reapedBy`. -/
@[simp] theorem reapedBy_concat (call : Nat) :
    reapedBy (r ++ [(now, e)]) call = r.reapedBy call ++ (e.reapedBy? call).toList := by
  rw [reapedBy, List.filterMap_append]
  cases h : e.reapedBy? call <;> simp [h, reapedBy]

/-- A cursor that a call reported just now is the last of `reportedBy`. -/
@[simp] theorem reportedBy_concat (call : Nat) :
    reportedBy (r ++ [(now, e)]) call = r.reportedBy call ++ (e.reportedBy? call).toList := by
  rw [reportedBy, List.filterMap_append]
  cases h : e.reportedBy? call <;> simp [h, reportedBy]

/-- A call that came to no cursor reported none. -/
theorem reportedBy_eq_nil {call : Nat} (h : r.reapedBy call = []) : r.reportedBy call = [] := by
  rw [reapedBy, List.filterMap_eq_nil_iff] at h
  rw [reportedBy, List.filterMap_eq_nil_iff]
  rintro ⟨t, e⟩ hp
  have hnone := h (t, e) hp
  cases e with
  | reaped call' id reported =>
    cases reported with
    | true => exact hnone
    | false => rfl
  | _ => rfl

/-- The look-up that a slot tells of is in the record. -/
theorem found_mem_of_stands (h : r.Stands id slot) : (slot.touched, .found id slot.handle) ∈ r := by
  obtain ⟨-, before, after, rfl, -⟩ := h
  simp

end CacheRecord

/-! ### Idle cursors -/

namespace CursorCache

variable (c : CursorCache) (now : Nat) {id : Int64}

/-- `idle` finds the cursors whose slots are idle. -/
theorem mem_idle_iff (hnodup : (c.slots.map (·.1)).Nodup) :
    id ∈ c.idle now ↔ ∃ slot, c.slot? id = some slot ∧ c.isIdle now slot = true := by
  simp only [idle, List.mem_mergeSort, List.mem_map, List.mem_filter, Prod.exists, exists_and_right,
    exists_eq_right, c.mem_slots_iff hnodup]

/-- `idle` finds no cursor twice. -/
theorem nodup_idle (hnodup : (c.slots.map (·.1)).Nodup) : (c.idle now).Nodup :=
  (List.mergeSort_perm _ _).nodup_iff.mpr (hnodup.sublist (List.filter_sublist.map _))

/-- `removeIdle` reports a cursor exactly if its slot is idle. -/
theorem removeIdle_fst_iff :
    (c.removeIdle now id).1 = true ↔ ∃ slot, c.slot? id = some slot ∧ c.isIdle now slot = true := by
  unfold removeIdle
  split
  · rename_i slot hslot
    split <;> simp_all
  · simp_all

/-- `close` takes the slot of its cursor, and leaves all others. -/
theorem slot?_close_eq_some_iff {id' : Int64} {slot : CursorSlot} :
    (c.close id').slot? id = some slot ↔ id' ≠ id ∧ c.slot? id = some slot := by
  rw [c.slot?_close]
  by_cases h : id = id'
  · simp [h]
  · simp [h, Ne.symm h]

end CursorCache

namespace ReapedCache

/-! ### What comes of a step -/

/-- What comes of a step, with the cache and the pending cursors after it. -/
inductive Effect (u : ReapedCache) (now : Nat) : CacheEvent → CursorCache → List (List Int64) → Prop
  | found (id : Int64) :
      Effect u now (.found id (u.cache.get now id).1) (u.cache.get now id).2 u.pending
  | asked (id : Int64) : Effect u now (.asked id (u.cache.contains id)) u.cache u.pending
  | closed (id : Int64) : Effect u now (.closed id) (u.cache.close id) u.pending
  | scanned : Effect u now (.scanned (u.cache.idle now)) u.cache (u.pending ++ [u.cache.idle now])
  | reported {call : Nat} {id : Int64} {ids : List Int64} (hcall : u.pending[call]? = some ids)
      (hid : id ∈ ids)
      (hidle : ∃ slot, u.cache.slot? id = some slot ∧ u.cache.isIdle now slot = true) :
      Effect u now (.reaped call id true) (u.cache.close id) (u.pending.set call (ids.erase id))
  | spared {call : Nat} {id : Int64} {ids : List Int64} (hcall : u.pending[call]? = some ids)
      (hid : id ∈ ids)
      (hidle : ¬∃ slot, u.cache.slot? id = some slot ∧ u.cache.isIdle now slot = true) :
      Effect u now (.reaped call id false) u.cache (u.pending.set call (ids.erase id))

/-- Each step is an `Effect` that is taken down, or changes nothing. -/
theorem step_cases (u : ReapedCache) (now : Nat) (s : CacheStep) :
    u.step now s = u ∨ ∃ e cache pending, u.Effect now e cache pending ∧
      u.step now s = ⟨cache, pending, u.record ++ [(now, e)]⟩ := by
  cases s with
  | create id | get id => exact .inr ⟨_, _, _, .found id, rfl⟩
  | contains id => exact .inr ⟨_, _, _, .asked id, rfl⟩
  | close id => exact .inr ⟨_, _, _, .closed id, rfl⟩
  | scan => exact .inr ⟨_, _, _, .scanned, rfl⟩
  | reap call id =>
    cases hcall : u.pending[call]? with
    | none => exact .inl (by simp [step, hcall])
    | some ids =>
      by_cases hid : id ∈ ids
      case neg => exact .inl (by simp [step, hcall, hid])
      right
      have hiff := @CursorCache.removeIdle_fst_iff u.cache now id
      -- the call looks at the cursor again, as others may have come before it
      obtain ⟨hremove, -⟩ | hremove := u.cache.removeIdle_cases now id
      · rw [hremove] at hiff
        exact ⟨_, _, _, .reported hcall hid (hiff.mp rfl),
          by simp [step, hcall, hid, hremove, note]⟩
      · rw [hremove] at hiff
        exact ⟨_, _, _, .spared hcall hid fun h => Bool.false_ne_true (hiff.mpr h),
          by simp [step, hcall, hid, hremove, note]⟩

/-- What each step keeps: the fields say how the cache and `pending` go with the record. -/
structure Follows (ttl : Nat) (u : ReapedCache) : Prop where
  ttl_eq : u.cache.ttl = ttl
  nodup : (u.cache.slots.map (·.1)).Nodup
  slot?_iff {id : Int64} {slot : CursorSlot} :
    u.cache.slot? id = some slot ↔ u.record.Stands id slot
  handle_lt {t : Nat} {id : Int64} {handle : CursorHandle} (h : (t, .found id handle) ∈ u.record) :
    handle < u.cache.entries.length
  call_lt {t call : Nat} {id : Int64} {reported : Bool}
    (h : (t, .reaped call id reported) ∈ u.record) : call < u.pending.length
  length_scans : u.record.scans.length = u.pending.length
  perm {call : Nat} {ids pending : List Int64} (hids : u.record.scans[call]? = some ids)
    (hpending : u.pending[call]? = some pending) :
    (pending ++ u.record.reapedBy call).Perm ids
  right {earlier later : CacheRecord} {now : Nat} {e : CacheEvent}
    (h : u.record = earlier ++ (now, e) :: later) :
    e.IsRight ttl earlier now
  sorted : (u.record.map (·.1)).Pairwise (· ≤ ·)

variable {ttl now : Nat} {u : ReapedCache} {e : CacheEvent} {cache : CursorCache}
  {pending : List (List Int64)}

namespace Effect

/-- No effect changes the time to live. -/
theorem ttl_eq (h : u.Effect now e cache pending) : cache.ttl = u.cache.ttl := by
  cases h with
  | found id => exact u.cache.ttl_get now id
  | _ => rfl

/-- No effect gives a cursor a second slot. -/
theorem nodup (h : u.Effect now e cache pending) (hnodup : (u.cache.slots.map (·.1)).Nodup) :
    (cache.slots.map (·.1)).Nodup := by
  cases h with
  | found id => exact u.cache.nodup_get now hnodup id
  | closed | reported => exact hnodup.sublist (List.filter_sublist.map _)
  | asked | scanned | spared => exact hnodup

/-- No effect takes an entry away. -/
theorem length_le (h : u.Effect now e cache pending) :
    u.cache.entries.length ≤ cache.entries.length := by
  cases h with
  | found id => obtain h | h := u.cache.entries_get now id <;> simp [h]
  | _ => exact Nat.le_refl _

/-- If the slots are those that `Stands` tells before a step, they are after it. -/
theorem slot?_iff (h : u.Effect now e cache pending)
    (hslot : ∀ {id slot}, u.cache.slot? id = some slot ↔ u.record.Stands id slot) {id : Int64}
    {slot : CursorSlot} :
    cache.slot? id = some slot ↔ CacheRecord.Stands (u.record ++ [(now, e)]) id slot := by
  rw [CacheRecord.stands_concat, ← hslot]
  cases h with
  | found id' =>
    by_cases heq : id = id'
    · subst heq
      by_cases hid : id = exhaustedCursor
      · -- the exhausted cursor is never cached
        subst hid
        have hnone : u.cache.slot? exhaustedCursor ≠ some slot := fun h => (hslot.mp h).1 rfl
        simp [CacheEvent.Moves, hnone]
      · obtain ⟨handle, touched⟩ := slot
        simp [u.cache.slot?_get now hid, CacheEvent.Moves, hid, and_comm]
    · simp [u.cache.slot?_get_of_ne now heq, CacheEvent.Moves, Ne.symm heq]
  | closed | reported => simp [u.cache.slot?_close_eq_some_iff, CacheEvent.Moves]
  | asked | scanned | spared => simp [CacheEvent.Moves]

end Effect

namespace Follows

variable (h : u.Follows ttl) (hclock : ∀ p ∈ u.record, p.1 ≤ now)

include h hclock in
/-- A cursor is idle in the cache exactly if it is `Idle` by the record. -/
theorem idle_iff {id : Int64} :
    (∃ slot, u.cache.slot? id = some slot ∧ u.cache.isIdle now slot = true) ↔
      u.record.Idle ttl now id := by
  refine exists_congr fun slot => ?_
  rw [h.slot?_iff]
  refine and_congr_right fun hstands => ?_
  have := hclock _ (CacheRecord.found_mem_of_stands hstands)
  simp only [CursorCache.isIdle, h.ttl_eq, decide_eq_true_eq]
  omega

include h in
/-- The cursors that a call is still to come to were found by its scan. -/
theorem exists_scan {call : Nat} {id : Int64} {ids : List Int64}
    (hcall : u.pending[call]? = some ids) (hid : id ∈ ids) :
    ∃ found, u.record.scans[call]? = some found ∧ id ∈ found := by
  have hlt : call < u.record.scans.length := by
    rw [h.length_scans]
    exact (List.getElem?_eq_some_iff.mp hcall).1
  have hscan := List.getElem?_eq_getElem hlt
  exact ⟨_, hscan, (h.perm hscan hcall).mem_iff.mp (List.mem_append_left _ hid)⟩

include h hclock in
/-- What comes of a step `IsRight` by the record before it. -/
theorem isRight (heffect : u.Effect now e cache pending) : e.IsRight ttl u.record now := by
  cases heffect with
  | found id =>
    refine ⟨fun slot hstands => ?_, fun hnone t id' hmem => ?_⟩
    · exact (u.cache.get_of_slot now hstands.1 (h.slot?_iff.mpr hstands)).1.symm
    · -- a new entry is behind all entries that were found before
      have hslot : u.cache.slot? id = none :=
        Option.eq_none_iff_forall_ne_some.mpr fun slot hslot => hnone slot (h.slot?_iff.mp hslot)
      have hlt := h.handle_lt hmem
      rw [(u.cache.get_of_none now hslot).1] at hlt
      exact Nat.lt_irrefl _ hlt
  | asked id =>
    rw [CacheEvent.IsRight, CursorCache.contains, Option.isSome_iff_exists]
    exact exists_congr fun _ => h.slot?_iff
  | closed id => trivial
  | scanned =>
    exact ⟨u.cache.nodup_idle now h.nodup, fun id =>
      (u.cache.mem_idle_iff now h.nodup).trans (h.idle_iff hclock)⟩
  | reported hcall hid hidle =>
    exact ⟨h.exists_scan hcall hid, iff_of_true rfl ((h.idle_iff hclock).mp hidle)⟩
  | spared hcall hid hidle =>
    exact ⟨h.exists_scan hcall hid, iff_of_false Bool.false_ne_true fun hmem =>
      hidle ((h.idle_iff hclock).mpr hmem)⟩

include h in
/-- Each scan adds one list to `scans` and one to `pending`. -/
theorem length_scans_concat (heffect : u.Effect now e cache pending) :
    (CacheRecord.scans (u.record ++ [(now, e)])).length = pending.length := by
  rw [CacheRecord.scans_concat, List.length_append, h.length_scans]
  cases heffect <;> simp [CacheEvent.scanned?]

include h in
/-- A call that has not started came to no cursor. -/
theorem reapedBy_length : u.record.reapedBy u.pending.length = [] := by
  rw [CacheRecord.reapedBy, List.filterMap_eq_nil_iff]
  rintro ⟨t, e⟩ hmem
  cases e with
  | reaped call id reported => exact if_neg (Nat.ne_of_lt (h.call_lt hmem))
  | _ => rfl

include h in
/-- A cursor that a call comes to goes from `pending` to `reapedBy`. -/
theorem perm_reap {call call' : Nat} {id : Int64} {reported : Bool} {ids found left : List Int64}
    (hcall : u.pending[call]? = some ids) (hid : id ∈ ids)
    (hfound : u.record.scans[call']? = some found)
    (hleft : (u.pending.set call (ids.erase id))[call']? = some left) :
    (left ++ CacheRecord.reapedBy (u.record ++ [(now, .reaped call id reported)]) call').Perm
      found := by
  rw [CacheRecord.reapedBy_concat]
  by_cases heq : call = call'
  · subst heq
    -- the cursor goes from what is pending to what the call has come to
    rw [List.getElem?_set_self (List.getElem?_eq_some_iff.mp hcall).1] at hleft
    obtain rfl := Option.some.inj hleft
    simp only [CacheEvent.reapedBy?, ↓reduceIte, Option.toList_some]
    rw [← List.append_assoc]
    exact (List.perm_append_singleton id _).trans
      (((List.perm_cons_erase hid).symm.append_right _).trans (h.perm hfound hcall))
  · rw [List.getElem?_set_ne heq] at hleft
    simpa [CacheEvent.reapedBy?, heq] using h.perm hfound hleft

include h in
/-- After each step, what a call is still to come to and what it came to are what its scan found. -/
theorem perm_concat (heffect : u.Effect now e cache pending) {call : Nat} {ids left : List Int64}
    (hids : (CacheRecord.scans (u.record ++ [(now, e)]))[call]? = some ids)
    (hleft : pending[call]? = some left) :
    (left ++ CacheRecord.reapedBy (u.record ++ [(now, e)]) call).Perm ids := by
  rw [CacheRecord.scans_concat] at hids
  cases heffect with
  | found | asked | closed =>
    simp only [CacheEvent.scanned?, Option.toList_none, List.append_nil] at hids
    simpa [CacheEvent.reapedBy?] using h.perm hids hleft
  | reported hcall hid | spared hcall hid =>
    simp only [CacheEvent.scanned?, Option.toList_none, List.append_nil] at hids
    exact h.perm_reap hcall hid hids hleft
  | scanned =>
    by_cases hlt : call < u.pending.length
    · rw [List.getElem?_append_left (h.length_scans ▸ hlt)] at hids
      rw [List.getElem?_append_left hlt] at hleft
      simpa [CacheEvent.reapedBy?] using h.perm hids hleft
    · -- the new call has come to nothing yet
      have hlast := (List.getElem?_eq_some_iff.mp hleft).1
      rw [List.length_append, List.length_singleton] at hlast
      obtain rfl : call = u.pending.length := Nat.eq_of_lt_succ_of_not_lt hlast hlt
      rw [List.getElem?_concat_length] at hleft
      rw [← h.length_scans] at hids
      simp only [CacheEvent.scanned?, Option.toList_some, List.getElem?_concat_length] at hids
      obtain rfl := Option.some.inj hleft
      obtain rfl := Option.some.inj hids
      simp [CacheEvent.reapedBy?, h.reapedBy_length]

include h in
/-- `get` leads to an entry that is there. -/
theorem handle_get_lt (now : Nat) (id : Int64) :
    (u.cache.get now id).1 < (u.cache.get now id).2.entries.length := by
  cases hslot : u.cache.slot? id with
  | some slot =>
    have hstands := h.slot?_iff.mp hslot
    obtain ⟨hhandle, hentries⟩ := u.cache.get_of_slot now hstands.1 hslot
    rw [hhandle, hentries]
    exact h.handle_lt (CacheRecord.found_mem_of_stands hstands)
  | none =>
    obtain ⟨hhandle, hentries⟩ := u.cache.get_of_none now hslot
    rw [hhandle, hentries, List.length_append]
    exact Nat.lt_succ_self _

include h hclock in
/-- `Follows` is kept by an `Effect` that is taken down. -/
theorem concat (heffect : u.Effect now e cache pending) :
    Follows ttl ⟨cache, pending, u.record ++ [(now, e)]⟩ where
  ttl_eq := heffect.ttl_eq.trans h.ttl_eq
  nodup := heffect.nodup h.nodup
  slot?_iff := heffect.slot?_iff h.slot?_iff
  -- what the last event says is so by its effect, and all others by `h`
  handle_lt hmem := by
    obtain hmem | hmem := List.mem_append.mp hmem
    · exact Nat.lt_of_lt_of_le (h.handle_lt hmem) heffect.length_le
    · obtain ⟨-, rfl⟩ := Prod.mk.inj (List.mem_singleton.mp hmem)
      cases heffect with
      | found => exact h.handle_get_lt now _
  call_lt hmem := by
    have hle : u.pending.length ≤ pending.length := by cases heffect <;> simp
    obtain hmem | hmem := List.mem_append.mp hmem
    · exact Nat.lt_of_lt_of_le (h.call_lt hmem) hle
    · obtain ⟨-, rfl⟩ := Prod.mk.inj (List.mem_singleton.mp hmem)
      cases heffect with
      | reported hcall | spared hcall =>
        exact Nat.lt_of_lt_of_le (List.getElem?_eq_some_iff.mp hcall).1 hle
  length_scans := h.length_scans_concat heffect
  perm := h.perm_concat heffect
  right {earlier later now' e'} heq := by
    obtain rfl | ⟨later, p, rfl⟩ := later.eq_nil_or_concat'
    · obtain ⟨rfl, hlast⟩ := List.append_inj' heq rfl
      obtain ⟨rfl, rfl⟩ := Prod.mk.inj (List.singleton_inj.mp hlast)
      exact h.isRight hclock heffect
    · rw [← List.cons_append, ← List.append_assoc] at heq
      exact h.right (List.append_inj' heq rfl).1
  sorted := by
    rw [List.map_append, List.pairwise_append]
    refine ⟨h.sorted, List.pairwise_singleton _ _, fun t ht t' ht' => ?_⟩
    obtain ⟨p, hp, rfl⟩ := List.mem_map.mp ht
    obtain rfl := List.mem_singleton.mp ht'
    exact hclock p hp

include h hclock in
/-- `Follows` is kept by each step, and nothing is taken down that is later than it. -/
theorem step (s : CacheStep) :
    (u.step now s).Follows ttl ∧ ∀ p ∈ (u.step now s).record, p.1 ≤ now := by
  obtain hsame | ⟨e, cache, pending, heffect, heq⟩ := u.step_cases now s
  · rw [hsame]
    exact ⟨h, hclock⟩
  · rw [heq]
    refine ⟨h.concat hclock heffect, fun p hp => ?_⟩
    obtain hp | hp := List.mem_append.mp hp
    · exact hclock p hp
    · obtain rfl := List.mem_singleton.mp hp
      exact Nat.le_refl _

/-- `Follows` holds of a cache that was not used. -/
theorem start (ttl : Nat) : (start ttl).Follows ttl where
  ttl_eq := rfl
  nodup := List.nodup_nil
  slot?_iff := ⟨nofun, fun h => absurd h CacheRecord.not_stands_nil⟩
  handle_lt := nofun
  call_lt := nofun
  length_scans := rfl
  perm := nofun
  right h := by simp [ReapedCache.start] at h
  sorted := List.Pairwise.nil

include h in
/-- `Follows` is kept by any steps, if the clock does not go back. -/
theorem run {steps : List (Nat × CacheStep)} (hlater : ∀ p ∈ u.record, ∀ s ∈ steps, p.1 ≤ s.1)
    (hsorted : (steps.map (·.1)).Pairwise (· ≤ ·)) : (u.run steps).Follows ttl := by
  induction steps generalizing u with
  | nil => exact h
  | cons s steps ih =>
    obtain ⟨hfirst, hsorted⟩ := List.pairwise_cons.mp hsorted
    obtain ⟨hstep, hclock⟩ := h.step (fun p hp => hlater p hp s List.mem_cons_self) s.2
    exact ih hstep (fun p hp s' hs' =>
      Nat.le_trans (hclock p hp) (hfirst s'.1 (List.mem_map_of_mem hs'))) hsorted

end Follows

/-! ### What holds of any steps -/

namespace Follows

variable (h : u.Follows ttl) {earlier between later : CacheRecord} {t call : Nat} {id : Int64}
  {handle : CursorHandle} {reported : Bool}

include h in
/-- What stands later in the record was not done earlier. -/
theorem le_of_mem (heq : u.record = earlier ++ (t, e) :: later) {p : Nat × CacheEvent}
    (hp : p ∈ later) : t ≤ p.1 := by
  have hsorted := h.sorted
  rw [heq, List.map_append, List.pairwise_append] at hsorted
  exact (List.pairwise_cons.mp hsorted.2.1).1 p.1 (List.mem_map_of_mem hp)

include h in
/-- A call that comes to a cursor reports it exactly if it is `Idle` then. -/
theorem reported_iff (heq : u.record = earlier ++ (now, .reaped call id reported) :: later) :
    reported = true ↔ earlier.Idle ttl now id := (h.right heq).2

include h in
/-- Between two reports of a cursor it was looked up: it was cached at the second one. -/
theorem once {now' call' : Nat}
    (heq : u.record = earlier ++ (now, .reaped call id true) ::
      (between ++ (now', .reaped call' id true) :: later)) :
    ∃ t handle, (t, .found id handle) ∈ between := by
  rw [← List.cons_append, ← List.append_assoc] at heq
  -- the first report removed the cursor, so the look-up since which it stands was after that
  obtain ⟨slot, hstands, -⟩ := (h.reported_iff heq).mp rfl
  obtain hstands | ⟨-, hfound⟩ := CacheRecord.stands_of_moves hstands rfl
  · exact ⟨_, _, CacheRecord.found_mem_of_stands hstands⟩
  · cases hfound

include h in
/-- A cursor that was closed and not looked up since is not cached, so it is not reported. -/
theorem not_reported_of_closed (heq : u.record = earlier ++ (t, .closed id) ::
      (between ++ (now, .reaped call id reported) :: later))
    (hnone : ∀ t handle, (t, .found id handle) ∉ between) : reported = false := by
  rw [← List.cons_append, ← List.append_assoc] at heq
  rw [Bool.eq_false_iff, ne_eq, h.reported_iff heq]
  rintro ⟨slot, hstands, -⟩
  obtain hstands | ⟨-, hfound⟩ := CacheRecord.stands_of_moves hstands rfl
  · exact hnone _ _ (CacheRecord.found_mem_of_stands hstands)
  · cases hfound

include h in
/-- A cursor that was looked up less than `ttl` ago is not `Idle`, so it is not reported. -/
theorem not_reported_of_found (heq : u.record = earlier ++ (t, .found id handle) ::
      (between ++ (now, .reaped call id reported) :: later))
    (hshort : now < t + ttl) : reported = false := by
  have hlater {p : Nat × CacheEvent} (hp : p ∈ between) : t ≤ p.1 :=
    h.le_of_mem heq (List.mem_append_left _ hp)
  rw [← List.cons_append, ← List.append_assoc] at heq
  rw [Bool.eq_false_iff, ne_eq, h.reported_iff heq]
  rintro ⟨slot, hstands, hidle⟩
  -- the cursor was left alone since this look-up at most
  have htouched : t ≤ slot.touched := by
    obtain hstands | ⟨htouched, -⟩ := CacheRecord.stands_of_moves hstands rfl
    · exact hlater (CacheRecord.found_mem_of_stands hstands)
    · exact Nat.le_of_eq htouched
  omega

include h in
/-- A cursor keeps its entry as long as nothing but look-ups concerns it. -/
theorem stands_of_found (hid : id ≠ exhaustedCursor)
    (heq : u.record = earlier ++ (t, .found id handle) :: (between ++ later))
    (hkept : ∀ p ∈ between, p.2.Moves id → ∃ handle, p.2 = .found id handle) :
    ∃ touched,
      CacheRecord.Stands (earlier ++ (t, .found id handle) :: between) id ⟨handle, touched⟩ := by
  induction between using List.reverseRecOn generalizing later with
  | nil => exact ⟨t, CacheRecord.stands_concat.mpr (.inl ⟨hid, rfl, rfl⟩)⟩
  | append_singleton between p ih =>
    obtain ⟨now, e⟩ := p
    rw [List.append_assoc] at heq
    obtain ⟨touched, hstands⟩ := ih heq fun p hp => hkept p (List.mem_append_left _ hp)
    rw [← List.cons_append, ← List.append_assoc] at heq ⊢
    by_cases hmoves : e.Moves id
    · -- another look-up leads to the entry that the cursor has
      obtain ⟨handle', rfl⟩ := hkept (now, e) (by simp) hmoves
      obtain rfl : handle = handle' := (h.right heq).1 _ hstands
      exact ⟨now, CacheRecord.stands_concat.mpr (.inl ⟨hid, rfl, rfl⟩)⟩
    · exact ⟨touched, CacheRecord.stands_concat.mpr (.inr ⟨hmoves, hstands⟩)⟩

include h in
/-- A cursor that was `Idle` at a scan is still when its call comes to it, if nothing concerned it
in between. -/
theorem reported_of_idle {ids : List Int64}
    (heq : u.record = earlier ++ (t, .scanned ids) ::
      (between ++ (now, .reaped call id reported) :: later))
    (hidle : earlier.Idle ttl t id) (halone : ∀ p ∈ between, ¬p.2.Moves id) : reported = true := by
  have hle : t ≤ now := h.le_of_mem heq (p := (now, .reaped call id reported)) (by simp)
  rw [← List.cons_append, ← List.append_assoc] at heq
  obtain ⟨slot, hstands, hslot⟩ := hidle
  refine (h.reported_iff heq).mpr ⟨slot, CacheRecord.stands_append.mpr (.inr ⟨?_, hstands⟩),
    Nat.le_trans hslot hle⟩
  exact List.forall_mem_cons.mpr ⟨not_false, halone⟩

include h in
/-- What `Follows` keeps is what `IsExact` states. -/
theorem isExact : u.IsExact ttl where
  slot?_iff := h.slot?_iff
  right := h.right
  perm {call ids} hids := by
    have hlt : call < u.pending.length := by
      rw [← h.length_scans]
      exact (List.getElem?_eq_some_iff.mp hids).1
    have hpending := List.getElem?_eq_getElem hlt
    exact ⟨_, hpending, h.perm hids hpending⟩
  -- a slot would tell of a look-up after the removal
  removed {earlier now call id} heq := by
    rw [CursorCache.contains, Option.isSome_eq_false_iff, Option.isNone_iff_eq_none,
      Option.eq_none_iff_forall_ne_some]
    intro slot hslot
    rw [h.slot?_iff, heq, CacheRecord.stands_concat] at hslot
    obtain ⟨-, -, hfound⟩ | ⟨hmoves, -⟩ := hslot
    · cases hfound
    · exact hmoves rfl
  once := h.once
  closed := h.not_reported_of_closed
  -- the call that leaves the cursor alone is one more event that does not concern it
  touched {earlier between later t now call id handle reported} heq hshort := by
    obtain rfl := h.not_reported_of_found heq hshort
    refine ⟨rfl, fun hid hkept => ?_⟩
    have hconcat : between ++ (now, .reaped call id false) :: later =
        (between ++ [(now, .reaped call id false)]) ++ later := by simp
    rw [hconcat] at heq
    refine h.stands_of_found hid heq fun p hp => ?_
    obtain hp | hp := List.mem_append.mp hp
    · exact hkept p hp
    · rw [List.mem_singleton.mp hp]
      exact False.elim
  idle := h.reported_of_idle

end Follows

/-! ### Calls that nobody comes between -/

/-- A call that comes to its next cursor does `removeIdle`. -/
theorem step_reap {call : Nat} {id : Int64} {ids : List Int64}
    (hcall : u.pending[call]? = some (id :: ids)) :
    u.step now (.reap call id) = ⟨(u.cache.removeIdle now id).2, u.pending.set call ids,
      u.record ++ [(now, .reaped call id (u.cache.removeIdle now id).1)]⟩ := by
  simp [step, hcall, note]

/-- A call that comes to all that is left for it, at once, does `removeAllIdle`. -/
theorem run_reaps {call : Nat} {ids : List Int64} (hcall : u.pending[call]? = some ids) :
    let v := u.run (ids.map fun id => (now, .reap call id))
    v.cache = (u.cache.removeAllIdle now ids).2 ∧
      v.record.reportedBy call = u.record.reportedBy call ++ (u.cache.removeAllIdle now ids).1 := by
  intro v
  -- by induction on the cursors of the scan that are left
  induction ids generalizing u with
  | nil => exact ⟨rfl, (List.append_nil _).symm⟩
  | cons id ids ih =>
    have hset := List.getElem?_set_self (a := ids) (List.getElem?_eq_some_iff.mp hcall).1
    have hv : v = (u.step now (.reap call id)).run (ids.map fun id => (now, .reap call id)) := rfl
    rw [hv, step_reap hcall]
    obtain ⟨hcache, hreported⟩ :=
      ih (u := ⟨(u.cache.removeIdle now id).2, u.pending.set call ids, _⟩) hset
    refine ⟨hcache, hreported.trans ?_⟩
    rw [CacheRecord.reportedBy_concat, List.append_assoc]
    cases hremove : (u.cache.removeIdle now id).1 <;>
      simp [CursorCache.removeAllIdle, CacheEvent.reportedBy?, hremove]

/-- A call that nobody comes between: it scans, and comes to all that it found. -/
def reapAll (u : ReapedCache) (now : Nat) : ReapedCache :=
  u.run ((now, .scan) :: (u.cache.idle now).map fun id => (now, .reap u.pending.length id))

/-- `CursorCache.reapExpired` is `reapAll`, a call that nobody comes between. -/
theorem reapExpired_eq (h : u.Follows ttl) (now : Nat) :
    u.cache.reapExpired now = ((u.reapAll now).record.reportedBy u.pending.length,
      (u.reapAll now).cache) := by
  have hcall : (u.pending ++ [u.cache.idle now])[u.pending.length]? = some (u.cache.idle now) :=
    List.getElem?_concat_length
  obtain ⟨hcache, hreported⟩ := @run_reaps now (u.step now .scan) _ _ hcall
  -- nothing was reported by a scan that has just begun
  have hscan : (u.step now .scan).record.reportedBy u.pending.length = [] := by
    change CacheRecord.reportedBy (u.record ++ [(now, .scanned (u.cache.idle now))])
      u.pending.length = []
    rw [CacheRecord.reportedBy_concat, CacheRecord.reportedBy_eq_nil h.reapedBy_length]
    rfl
  rw [hscan, List.nil_append] at hreported
  exact Prod.ext hreported.symm hcache.symm

/-- After any `run` of steps the cache `Follows` its record, if the clock does not go back. -/
theorem follows_run (ttl : Nat) {steps : List (Nat × CacheStep)}
    (hclock : (steps.map (·.1)).Pairwise (· ≤ ·)) :
    ((start ttl).run steps).Follows ttl :=
  (Follows.start ttl).run nofun hclock

/-- Two cursors are idle at a scan, and 7 is looked up before the call comes to it. -/
def oneTouched : List (Nat × CacheStep) :=
  [(0, .create 5), (0, .create 7), (10, .scan), (11, .get 7), (12, .reap 0 5), (12, .reap 0 7)]

/-- In `oneTouched`, cursor 7 stays, and 5 is reported. -/
theorem reportedBy_oneTouched :
    ((start 10).run oneTouched).record.reportedBy 0 = [5] ∧
      ((start 10).run oneTouched).cache.contains 7 = true := by
  -- the sorting of the scan is done by a lemma, and what comes before and after it computes
  let u := ((start 10).step 0 (.create 5)).step 0 (.create 7)
  have hscan : u.step 10 .scan = { u with pending := [[5, 7]] }.note 10 (.scanned [5, 7]) := by
    have hslots : (u.cache.slots.filter fun s => u.cache.isIdle 10 s.2).map (·.1) = [5, 7] := by
      decide
    have hidle : u.cache.idle 10 = [5, 7] := by
      rw [CursorCache.idle, hslots]
      exact List.mergeSort_of_pairwise (by decide)
    rw [step, hidle]
    rfl
  have hrun : (start 10).run oneTouched = (u.step 10 .scan).run (oneTouched.drop 3) := by
    simp only [run, oneTouched, List.drop_succ_cons, List.drop_zero, List.foldl_cons,
      List.foldl_nil, u]
  rw [hrun, hscan]
  decide

end ReapedCache

end DocGateway
