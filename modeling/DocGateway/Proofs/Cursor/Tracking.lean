import DocGateway.Proofs.Bson.Fields
import DocGateway.Proofs.Command.Kinds
import DocGateway.Proofs.Cursor.Handles
/-!
# What a response does to the cache

The cache follows the responses to commands. What is done depends on the name under which a command
was parsed, on its document as it is now, and on the response. Nothing else is done: cursors that
are not named keep their slots, and no entry that was there before is changed.

A response reports a cursor as opened if it was not cached before and is cached then. So if it is
reported again, it was removed in between.

## Key results

- `CursorCache.isTracked_track`: the cache after a response, and what is reported
- `CacheUse.exists_removal`: a cursor that is cached no longer was removed by one of the calls
- `CacheUse.tracked_exactly`: both for commands that are parsed and edited, and for any calls of the
  cache
-/

namespace DocGateway

open Bson (Document Value)

/-- A response names a cursor. -/
def NamesCursor (response : Document) (id : Int64) : Prop :=
  ∃ (cursor : Document) (v : Value),
    response.get? "cursor" = some (.document cursor) ∧ cursor.get? "id" = some v ∧
    v.toInt64? = some id

/-- `respondedCursor?` gives the cursor that `NamesCursor` tells of. -/
theorem respondedCursor?_eq_some_iff {response : Document} {id : Int64} :
    respondedCursor? response = some id ↔ NamesCursor response id := by
  simp only [respondedCursor?, NamesCursor, Option.bind_eq_bind, Option.bind_eq_some_iff,
    Document.getDocument?_eq_some_iff]
  constructor
  · rintro ⟨cursor, hcursor, v, hv, hid⟩
    exact ⟨cursor, v, hcursor, hv, hid⟩
  · rintro ⟨cursor, v, hcursor, hv, hid⟩
    exact ⟨cursor, hcursor, v, hv, hid⟩

namespace CursorCache

/-- Some cursors are removed, and nothing else is done. -/
structure Drops (c : CursorCache) (gone : Int64 → Prop) (c' : CursorCache) : Prop where
  ttl : c'.ttl = c.ttl
  entries : c'.entries = c.entries
  removed {id : Int64} (h : gone id) : c'.slot? id = none
  kept {id : Int64} (h : ¬gone id) : c'.slot? id = c.slot? id

/-- A cursor is cached with the entry that it has, or with a fresh one, and nothing else is done. -/
structure Caches (c : CursorCache) (now : Nat) (id : Int64) (c' : CursorCache) : Prop where
  ttl : c'.ttl = c.ttl
  others {other : Int64} (h : other ≠ id) : c'.slot? other = c.slot? other
  present {slot : CursorSlot} (h : c.slot? id = some slot) : c'.slot? id = some ⟨slot.handle, now⟩ ∧
    c'.entries = c.entries
  absent (h : c.slot? id = none) : c'.slot? id = some ⟨c.entries.length, now⟩ ∧
    c'.entries = c.entries ++ [.fresh id]

/-- What is left of a cache after the response to a command of some name, the document of which is
now `d`, and what is reported. -/
structure IsTracked (c : CursorCache) (now : Nat) (name : String) (d response : Document)
    (opened : Option Int64) (c' : CursorCache) :
    Prop where
  failed (hok : isOk response = false) : c' = c
  killed (hok : isOk response = true) (hname : name = "killCursors") : c.Drops (ListsCursor d) c'
  named (hok : isOk response = true) (hname : name ≠ "killCursors") {id : Int64}
    (hid : NamesCursor response id)
    (hne : id ≠ exhaustedCursor) : c.Caches now id c'
  exhausted (hok : isOk response = true) (hname : name ≠ "killCursors")
    (hid : NamesCursor response exhaustedCursor) :
    c.Drops (fun id => name = "getMore" ∧ ContinuesCursor d id) c'
  unnamed (hok : isOk response = true) (hname : name ≠ "killCursors")
    (hid : ¬∃ id, NamesCursor response id) : c' = c
  reported (id : Int64) : opened = some id ↔ c.contains id = false ∧ c'.contains id = true

variable (c : CursorCache) (now : Nat)

/-- `closeAll` drops the cursors that it lists. -/
theorem drops_closeAll {ids : List Int64} {gone : Int64 → Prop} (h : ∀ id, id ∈ ids ↔ gone id) :
    c.Drops gone (c.closeAll ids) where
  ttl := c.ttl_closeAll ids
  entries := c.entries_closeAll ids
  removed {id} hgone := by rw [slot?_closeAll, if_pos ((h id).mpr hgone)]
  kept {id} hkept := by rw [slot?_closeAll, if_neg (mt (h id).mp hkept)]

/-- `get` caches the cursor that is looked up. -/
theorem caches_get {id : Int64} (hid : id ≠ exhaustedCursor) :
    c.Caches now id (c.get now id).2 where
  ttl := c.ttl_get now id
  others h := c.slot?_get_of_ne now h
  present {slot} h := by
    obtain ⟨hhandle, hentries⟩ := c.get_of_slot now hid h
    rw [c.slot?_get now hid, if_pos rfl, hhandle]
    exact ⟨rfl, hentries⟩
  absent h := by
    obtain ⟨hhandle, hentries⟩ := c.get_of_none now h
    rw [c.slot?_get now hid, if_pos rfl, hhandle]
    exact ⟨rfl, hentries⟩

/-- `track` reports a cursor exactly if it was not cached before and is cached then. -/
theorem reported_iff (command : Command) (response : Document) (id : Int64) :
    (c.track now command response).1 = some id ↔
      c.contains id = false ∧ (c.track now command response).2.contains id = true := by
  obtain ⟨ids, hclosed⟩ | ⟨-, named, -, hne, hget⟩ := c.track_eq_cases now command response
  · rw [hclosed]
    refine iff_of_false nofun ?_
    rintro ⟨habsent, hpresent⟩
    -- what is cached after cursors were closed was so before
    rw [(shrinks_closeAll ids).contains hpresent] at habsent
    cases habsent
  · rw [hget]
    by_cases hid : id = named
    · subst hid
      simp [c.contains_get now hne]
    · have hsame : (c.get now named).2.contains id = c.contains id := by
        rw [contains, c.slot?_get_of_ne now hid, contains]
      simp only [hsame]
      -- the cursor that is reported is another one, and this one is cached before and after, or
      -- neither
      refine iff_of_false (fun h => ?_) (fun h => ?_)
      · split at h
        · cases h
        · exact hid (Option.some.inj h).symm
      · rw [h.1] at h
        exact absurd h.2 (by decide)

/-- `track` does what the name of the command and its present document say. -/
theorem isTracked_track {command : Command} {name : String}
    (hkill : command.kind = .killCursors ↔ name = "killCursors")
    (hmore : command.kind = .getMore ↔ name = "getMore") (response : Document) :
    c.IsTracked now name command.document response (c.track now command response).1
      (c.track now command response).2 where
  -- one case of `track` for each field
  failed hok := by rw [c.track_of_failed now hok]
  killed hok hname := by
    have hkind := hkill.mpr hname
    rw [c.track_of_kill now hok hkind]
    exact c.drops_closeAll fun id => Command.mem_cursorIds_iff hkind
  named hok hname {id} hid hne := by
    rw [c.track_of_named now hok (mt hkill.mp hname) (respondedCursor?_eq_some_iff.mpr hid) hne]
    exact c.caches_get now hne
  exhausted hok hname hid := by
    rw [c.track_of_exhausted now hok (mt hkill.mp hname) (respondedCursor?_eq_some_iff.mpr hid)]
    refine c.drops_closeAll fun id => ?_
    rw [Option.mem_toList, Command.cursorId?_eq_some_iff, hmore]
  unnamed hok hname hid := by
    have hnone : respondedCursor? response = none := by
      rw [Option.eq_none_iff_forall_ne_some]
      intro id hsome
      exact hid ⟨id, respondedCursor?_eq_some_iff.mp hsome⟩
    rw [c.track_of_unnamed now (mt hkill.mp hname) hnone]
  reported id := c.reported_iff now command response id

end CursorCache

namespace CacheUse

/-- The cursor that a call reports as opened. -/
def opened? (u : CacheUse) (call : Nat × CacheCall) : Option Int64 :=
  match call.2 with
  | .track command response => (u.cache.track call.1 command response).1
  | _ => none

/-- A call removes a cursor. -/
def Removes (u : CacheUse) (call : Nat × CacheCall) (id : Int64) : Prop :=
  u.cache.contains id = true ∧ (u.step call.1 call.2).cache.contains id = false

/-- The call that reports a cursor leaves it cached. -/
theorem contains_of_opened {u : CacheUse} {call : Nat × CacheCall} {id : Int64}
    (h : u.opened? call = some id) :
    u.cache.contains id = false ∧ (u.step call.1 call.2).cache.contains id = true := by
  obtain ⟨now, call⟩ := call
  cases call with
  | track command response => exact (u.cache.reported_iff now command response id).mp h
  | _ => cases h

/-- A cursor that was cached before some calls, and is not cached after them, was removed by one of
them. -/
theorem exists_removal (u : CacheUse) (calls : List (Nat × CacheCall)) {id : Int64}
    (hbefore : u.cache.contains id = true) (hafter : (u.run calls).cache.contains id = false) :
    ∃ earlier call later, calls = earlier ++ call :: later ∧ (u.run earlier).Removes call id := by
  -- by induction on the calls: the first one removes it, or it is still cached behind the first one
  induction calls generalizing u with
  | nil =>
    have hsame : u.cache.contains id = false := hafter
    rw [hbefore] at hsame
    cases hsame
  | cons call calls ih =>
    cases hstep : (u.step call.1 call.2).cache.contains id with
    | false => exact ⟨[], call, calls, rfl, hbefore, hstep⟩
    | true =>
      -- this call was not the one, so it is among those that follow
      obtain ⟨earlier, removal, later, rfl, hremoves⟩ := ih (u.step call.1 call.2) hstep hafter
      exact ⟨call :: earlier, removal, later, rfl, hremoves⟩

/-- `track` does to the cache what the name of the command, its document as it was edited and the
response call for (`IsTracked`), and reports a cursor exactly if it is cached only since then. So
between two reports of a cursor there is a call that `Removes` it, whatever calls are made. -/
theorem tracked_exactly :
    (∀ (d : Document) (parsed : Command), Command.parse d = .ok parsed →
      ∃ name, d.firstKey? = some name ∧
        ∀ (edits : List (Document → Document)) (c : CursorCache) (now : Nat) (response : Document),
          let (opened, c') := c.track now (parsed.edited edits) response
          c.IsTracked now name (d.edited edits) response opened c') ∧
    ∀ (u : CacheUse) (first second : Nat × CacheCall) (between : List (Nat × CacheCall))
      (id : Int64),
      u.opened? first = some id → ((u.step first.1 first.2).run between).opened? second = some id →
        ∃ earlier call later, between = earlier ++ call :: later ∧
          ((u.step first.1 first.2).run earlier).Removes call id := by
  constructor
  · intro d parsed hparse
    obtain ⟨rfl, name, hname, hkind⟩ := Command.kindOf_of_parse hparse
    obtain ⟨hkill, hmore⟩ := Command.kindOf_names_cursors hkind
    refine ⟨name, hname, fun edits c now response => ?_⟩
    -- edits change the document, and leave what its first key stood for
    rw [← Command.document_edited]
    rw [← Command.kind_edited edits] at hkill hmore
    exact c.isTracked_track now hkill hmore response
  · intro u first second between id hfirst hsecond
    exact exists_removal _ between (contains_of_opened hfirst).2 (contains_of_opened hsecond).1

/-- A cursor that was removed by `killCursors` is reported a second time. -/
example :
    let found : Document := [("ok", .int32 1), ("cursor", .document [("id", .int64 7)])]
    let find : CacheCall := .track ⟨.find, [("find", .string "c")]⟩ found
    let kill : CacheCall :=
      .track ⟨.killCursors, [("killCursors", .string "c"), ("cursors", .array [.int64 7])]⟩
        [("ok", .int32 1)]
    let u := (start 1000).run [(0, find), (1, kill)]
    (start 1000).opened? (0, find) = some 7 ∧ u.opened? (2, find) = some 7 := by
  decide

end CacheUse

end DocGateway
