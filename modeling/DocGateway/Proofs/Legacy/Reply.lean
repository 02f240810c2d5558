import DocGateway.Legacy.Reply
import DocGateway.Proofs.Cursor.Cache
/-!
# What legacy replies hold

The reply to a legacy request is made from the response to its command. What it is does not depend
on the cache, but for the place from which a request for more goes on.

## Key results

- `firstReply_of_failed`, `getMoreReply_of_failed`: a failure is the only document of its reply
- `firstReply_find`, `getMoreReply_of_batch`: the documents of a batch are those of the reply
-/

namespace DocGateway.Legacy

open Bson (Document Value)
open Wire (Reply)

/-! ### Batches -/

/-- A response carries documents under a key of its cursor. One without a cursor, or without the
key, carries none. -/
def Carries (response : Document) (key : String) (ds : List Document) : Prop :=
  (response.get? "cursor" = none ∧ ds = []) ∨
    ∃ cursor : Document, response.get? "cursor" = some (.document cursor) ∧
      ((cursor.get? key = none ∧ ds = []) ∨ cursor.get? key = some (.array (ds.map Value.document)))

/-- `documentsOf` accepts an array of documents. -/
theorem documentsOf_map_document (ds : List Document) :
    documentsOf (ds.map Value.document) = .ok ds := by
  have h : (ds.map Value.document).mapM Value.asDocument? = some ds := by
    induction ds with
    | nil => rfl
    | cons d ds ih =>
      rw [List.map_cons, List.mapM_cons, ih]
      rfl
  rw [documentsOf, h]

/-- `batchOf` is what the response `Carries`. -/
theorem batchOf_of_carries {response : Document} {key : String} {ds : List Document}
    (h : Carries response key ds) :
    ∃ id batch, batchOf response key = .ok (id, batch) ∧ batch.getD [] = ds ∧
      (ds ≠ [] → batch = some ds) := by
  obtain ⟨hnone, rfl⟩ | ⟨cursor, hcursor, ⟨hnone, rfl⟩ | hitems⟩ := h
  · refine ⟨exhaustedCursor, none, ?_, rfl, fun h => absurd rfl h⟩
    simp [batchOf, cursorOf, hnone, bind, Except.bind, pure, Except.pure]
  · refine ⟨idOf cursor, none, ?_, rfl, fun h => absurd rfl h⟩
    simp [batchOf, cursorOf, hcursor, itemsOf, hnone, bind, Except.bind, pure, Except.pure]
  · refine ⟨idOf cursor, some ds, ?_, rfl, fun _ => rfl⟩
    simp [batchOf, cursorOf, hcursor, itemsOf, hitems, documentsOf_map_document, bind, Except.bind,
      pure, Except.pure]

/-- `cursorOf` is a document in the response. -/
theorem getDocument?_of_cursorOf {response cursor : Document}
    (h : cursorOf response = .ok (some cursor)) :
    response.getDocument? "cursor" = some cursor := by
  simp only [cursorOf] at h
  split at h <;> cases h
  simp only [Document.getDocument?, *]

/-- `itemsOf` is an array in the cursor. -/
theorem getArray?_of_itemsOf {cursor : Document} {key : String} {items : List Value}
    (h : itemsOf cursor key = .ok (some items)) : cursor.getArray? key = some items := by
  simp only [itemsOf] at h
  split at h <;> cases h
  simp only [Document.getArray?, *]

variable (cursors : CursorCache) {response : Document}

/-! ### Replies to queries -/

/-- `firstReply` of a failure is one document, whatever the shape. -/
theorem firstReply_of_failed (shape : ReplyShape) (hok : isOk response = false) :
    firstReply shape response = .ok ⟨singleReply response, none⟩ := by
  simp [firstReply, hok]

/-- `firstReply` to a find query has the documents of the first batch. -/
theorem firstReply_find (hok : isOk response = true) {id : Int64} {batch : Option (List Document)}
    (hb : batchOf response "firstBatch" = .ok (id, batch)) :
    firstReply .find response =
      .ok ⟨{ emptyReply with cursorId := id, documents := batch.getD [] },
        batch.map fun ds => (id, ds.length)⟩ := by
  simp [firstReply, hok, findReply, hb, bind, Except.bind, pure, Except.pure]

/-- What the reply to a query takes from a cursor that has more. -/
def taken? (shape : ReplyShape) (response : Document) : Option (Int64 × Nat) :=
  ((firstReply shape response).toOption.bind (·.taken)).filter (·.1 ≠ exhaustedCursor)

/-- `taken?` is what `firstReply` takes from a cursor that is not exhausted. -/
theorem taken?_eq_some {shape : ReplyShape} {id : Int64} {n : Nat}
    (h : taken? shape response = some (id, n)) :
    id ≠ exhaustedCursor ∧ ∃ reply, firstReply shape response = .ok ⟨reply, some (id, n)⟩ := by
  rw [taken?, Option.filter_eq_some_iff, Option.bind_eq_some_iff] at h
  obtain ⟨⟨⟨reply, taken⟩, hfirst, rfl⟩, hid⟩ := h
  refine ⟨by simpa using hid, reply, ?_⟩
  cases hr : firstReply shape response <;> simp_all [Except.toOption]

/-- `firstReply` takes from the cursor of a response of success. -/
theorem cursorOf_of_taken {shape : ReplyShape} {reply : Reply} {id : Int64} {n : Nat}
    (h : firstReply shape response = .ok ⟨reply, some (id, n)⟩) :
    isOk response = true ∧ ∃ cursor, cursorOf response = .ok (some cursor) ∧ idOf cursor = id := by
  have hok : isOk response = true := by
    cases hok : isOk response with
    | true => rfl
    | false => simp [firstReply_of_failed shape hok] at h
  refine ⟨hok, ?_⟩
  -- every way out without a cursor takes nothing
  cases shape with
  | explain => simp [firstReply, hok] at h
  | command unwrap =>
    rw [firstReply, if_neg (not_not_intro hok)] at h
    simp only [commandReply, bind, Except.bind] at h
    match hcursor : cursorOf response with
    | .error e => simp [hcursor] at h
    | .ok none => simp [hcursor, pure, Except.pure] at h
    | .ok (some cursor) =>
      simp only [hcursor] at h
      match hitems : itemsOf cursor "firstBatch" with
      | .error e => simp [hitems] at h
      | .ok none => cases unwrap <;> simp [hitems, pure, Except.pure] at h
      | .ok (some items) =>
        cases unwrap <;> simp [hitems, pure, Except.pure] at h <;> exact ⟨cursor, rfl, h.2.1⟩
  | find =>
    rw [firstReply, if_neg (not_not_intro hok)] at h
    simp only [findReply, batchOf, bind, Except.bind] at h
    match hcursor : cursorOf response with
    | .error e => simp [hcursor] at h
    | .ok none => simp [hcursor, pure, Except.pure] at h
    | .ok (some cursor) =>
      simp only [hcursor] at h
      match hitems : itemsOf cursor "firstBatch" with
      | .error e => simp [hitems] at h
      | .ok none => simp [hitems, pure, Except.pure] at h
      | .ok (some items) =>
        simp only [hitems] at h
        cases hds : documentsOf items <;> simp [hds, pure, Except.pure] at h
        exact ⟨cursor, rfl, h.2.1⟩

/-- `respondedCursor?` is the id of the cursor, if that is not exhausted. -/
theorem respondedCursor?_of_idOf {cursor : Document}
    (hcursor : response.getDocument? "cursor" = some cursor) (hid : idOf cursor ≠ exhaustedCursor) :
    respondedCursor? response = some (idOf cursor) := by
  have hbind : respondedCursor? response = (cursor.get? "id").bind Value.toInt64? := by
    simp [respondedCursor?, hcursor, bind]
  rw [hbind]
  rw [idOf] at hid ⊢
  cases hvalue : (cursor.get? "id").bind Value.toInt64? with
  | none => simp [hvalue] at hid
  | some id => rfl

/-- `batchOf` has the id of `respondedCursor?`, or the exhausted one if there is none. -/
theorem id_batchOf {key : String} {id : Int64} {batch : Option (List Document)}
    (h : batchOf response key = .ok (id, batch)) :
    id = (respondedCursor? response).getD exhaustedCursor := by
  simp only [batchOf, bind, Except.bind] at h
  match hcursor : cursorOf response with
  | .error e => simp [hcursor] at h
  | .ok none =>
    have hnone : response.getDocument? "cursor" = none := by
      simp only [cursorOf] at hcursor
      split at hcursor <;> cases hcursor
      simp only [Document.getDocument?, *]
    simp only [hcursor, pure, Except.pure, Except.ok.injEq, Prod.mk.injEq] at h
    simp [respondedCursor?, hnone, h.1]
  | .ok (some cursor) =>
    -- whatever the items are, the number is that of the cursor
    have hid : id = idOf cursor := by
      simp only [hcursor] at h
      match hitems : itemsOf cursor key with
      | .error e => simp [hitems] at h
      | .ok none => simp [hitems, pure, Except.pure] at h; exact h.1.symm
      | .ok (some items) =>
        simp only [hitems] at h
        cases hds : documentsOf items <;> simp [hds, pure, Except.pure] at h
        exact h.1.symm
    rw [hid, idOf]
    simp [respondedCursor?, getDocument?_of_cursorOf hcursor]

/-- `taken?` is from the cursor that a successful response names. -/
theorem respondedCursor?_of_taken {shape : ReplyShape} {id : Int64} {n : Nat}
    (h : taken? shape response = some (id, n)) :
    isOk response = true ∧ respondedCursor? response = some id := by
  obtain ⟨hid, reply, hfirst⟩ := taken?_eq_some h
  obtain ⟨hok, cursor, hcursor, rfl⟩ := cursorOf_of_taken hfirst
  exact ⟨hok, respondedCursor?_of_idOf (getDocument?_of_cursorOf hcursor) hid⟩

/-- `taken?` is nothing for a response without a cursor. -/
theorem taken?_of_get?_none (shape : ReplyShape) (h : response.get? "cursor" = none) :
    taken? shape response = none := by
  cases htaken : taken? shape response with
  | none => rfl
  | some taken =>
    obtain ⟨-, reply, hfirst⟩ := taken?_eq_some htaken
    obtain ⟨-, cursor, hcursor, -⟩ := cursorOf_of_taken hfirst
    simp [cursorOf, h] at hcursor

/-- `queryReply` counts what is `taken?` at the entry of the cursor. -/
theorem snd_queryReply (now : Nat) (shape : ReplyShape) (response : Document) :
    (queryReply cursors now shape response).2 =
      match taken? shape response with
      | none => cursors
      | some (id, n) => (cursors.get now id).2.consume (cursors.get now id).1 n := by
  rw [queryReply, taken?]
  match firstReply shape response with
  | .error e => rfl
  | .ok ⟨reply, none⟩ => rfl
  | .ok ⟨reply, some (id, n)⟩ =>
    by_cases hid : id = exhaustedCursor <;> simp [recordTaken, Except.toOption, Option.filter, hid]

/-- `queryReply` leaves cached what is cached. -/
theorem contains_queryReply {now : Nat} {shape : ReplyShape} {id : Int64}
    (h : cursors.contains id = true) :
    (queryReply cursors now shape response).2.contains id = true := by
  rw [snd_queryReply]
  split
  · exact h
  · exact cursors.contains_get_of_contains now h

/-- `firstReply` to a find query has the cursor of the first batch, or is one of failure. -/
theorem cursorId_of_firstReply_find {first : FirstReply} (h : firstReply .find response = .ok first)
    (hid : first.reply.cursorId ≠ exhaustedCursor) :
    respondedCursor? response = some first.reply.cursorId := by
  cases hok : isOk response with
  | false =>
    rw [firstReply_of_failed _ hok, Except.ok.injEq] at h
    subst h
    exact absurd rfl hid
  | true =>
    match hb : batchOf response "firstBatch" with
    | .error e => simp [firstReply, hok, findReply, hb, bind, Except.bind] at h
    | .ok (id, batch) =>
      rw [firstReply_find hok hb, Except.ok.injEq] at h
      subst h
      have hnamed := id_batchOf hb
      -- without a cursor the reply would name none
      cases hr : respondedCursor? response with
      | none => exact absurd (by rw [hnamed, hr]; rfl) hid
      | some named => rw [hnamed, hr]; rfl

/-- `queryReply` replies with `firstReply`, whatever the cache. -/
theorem fst_queryReply (now : Nat) (shape : ReplyShape) (response : Document) :
    (queryReply cursors now shape response).1 = (firstReply shape response).map (·.reply) := by
  rw [queryReply]
  cases firstReply shape response <;> rfl

/-! ### Replies to requests for more -/

variable (h : CursorHandle)

/-- `getMoreReply` of a failure is one document. -/
theorem getMoreReply_of_failed (hok : isOk response = false) :
    getMoreReply cursors h response = (.ok (singleReply response), cursors) := by
  simp [getMoreReply, hok]

/-- `getMoreReply` fails for a batch that is none, and counts nothing. -/
theorem getMoreReply_of_error (hok : isOk response = true) {e : ServerError}
    (hb : batchOf response "nextBatch" = .error e) :
    getMoreReply cursors h response = (.error e, cursors) := by
  simp [getMoreReply, hok, hb]

/-- `getMoreReply` has the documents of the next batch, starts where the count stands, and counts
them. -/
theorem getMoreReply_of_batch (hok : isOk response = true) {id : Int64}
    {batch : Option (List Document)} (hb : batchOf response "nextBatch" = .ok (id, batch)) :
    getMoreReply cursors h response =
      (.ok { emptyReply with cursorId := id, startingFrom := startingFrom (cursors.consumed h),
                             documents := batch.getD [] },
        cursors.consume h (batch.getD []).length) := by
  simp [getMoreReply, hok, hb, CursorCache.consumed]

/-- `getMoreReply` adds to the count of its entry, or leaves the cache. -/
theorem snd_getMoreReply_cases (response : Document) :
    (getMoreReply cursors h response).2 = cursors ∨
      ∃ n, (getMoreReply cursors h response).2 = cursors.consume h n := by
  cases hok : isOk response with
  | false => exact .inl (by rw [getMoreReply_of_failed cursors h hok])
  | true =>
    match hb : batchOf response "nextBatch" with
    | .error e => exact .inl (by rw [getMoreReply_of_error cursors h hok hb])
    | .ok (id, batch) => exact .inr ⟨_, by rw [getMoreReply_of_batch cursors h hok hb]⟩

/-- `startingFrom` tells the place of a document as far as 32 bits go. -/
theorem toInt_startingFrom (n : Nat) :
    (startingFrom n).toInt = min (n : Int) Int32.maxValue.toInt := by
  have hmax : Int32.maxValue.toInt = 2147483647 := rfl
  have hn : (0 : Int) ≤ n := Int.natCast_nonneg n
  rw [startingFrom, hmax, Int32.toInt_ofInt_of_le (by omega) (by omega)]

end DocGateway.Legacy
