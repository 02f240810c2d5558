import DocGateway.Proofs.Bson.Fields
import DocGateway.Proofs.Cursor.Views
import DocGateway.Proofs.Gateway.Replies
/-!
# Replies that differ by the time

A response may tell what time it is. Documents that are the same but for that are alike, and so are
replies that such documents were put into. All that a gateway reads from a response is the same in
responses that are alike: whether it is one of success, its cursor, and the batch of it.

## Key results

- `Document.Alike.get?`: other fields are the same
- `Alike.batchOf`, `Alike.taken?`: batches and cursors
- `alike_firstReply`, `alike_getMoreReply`: legacy replies to responses that are alike
-/

namespace DocGateway

open Bson (Document Value)
open Wire (Body Message)

/-! ### Documents -/

/-- The field of a response that tells the time. -/
def clockField : String := "localTime"

namespace Bson.Document

/-- The document as it would have been at the beginning of time. -/
def atEpoch (d : Document) : Document :=
  d.map fun
    | (key, .dateTime ms) => if key = clockField then (key, .dateTime 0) else (key, .dateTime ms)
    | field => field

/-- Documents are the same apart from the time that they tell. -/
def Alike (d d' : Document) : Prop := d.atEpoch = d'.atEpoch

/-- A document is alike itself. -/
@[refl] theorem Alike.refl (d : Document) : d.Alike d := rfl

/-- `atEpoch` leaves every field but the clock. -/
theorem get?_atEpoch (d : Document) {key : String} (hkey : key ≠ clockField) :
    d.atEpoch.get? key = d.get? key := by
  induction d with
  | nil => rfl
  | cons field d ih =>
    obtain ⟨k, v⟩ := field
    -- the first field keeps its key, and its value if it is not the clock
    have hfield : ∃ w, atEpoch ((k, v) :: d) = (k, w) :: atEpoch d ∧ (k ≠ clockField → w = v) := by
      cases v with
      | dateTime ms =>
        by_cases hk : k = clockField
        · exact ⟨.dateTime 0, by simp [atEpoch, hk], fun h => absurd hk h⟩
        · exact ⟨.dateTime ms, by simp [atEpoch, hk], fun _ => rfl⟩
      | _ => exact ⟨_, rfl, fun _ => rfl⟩
    obtain ⟨w, hcons, hw⟩ := hfield
    rw [hcons, get?_cons, get?_cons, ih]
    by_cases hk : key = k
    · rw [if_pos hk, if_pos hk, hw (hk ▸ hkey)]
    · rw [if_neg hk, if_neg hk]

variable {d d' : Document}

namespace Alike

/-- `get?` finds in documents that are alike the same, but for the clock. -/
theorem get? (h : d.Alike d') {key : String} (hkey : key ≠ clockField) :
    d.get? key = d'.get? key := by
  rw [← d.get?_atEpoch hkey, ← d'.get?_atEpoch hkey, h]

/-- `isOk` does not read the clock. -/
theorem isOk (h : d.Alike d') : isOk d = isOk d' := by
  rw [DocGateway.isOk, DocGateway.isOk, h.get? (by decide)]

/-- `respondedCursor?` does not read the clock. -/
theorem respondedCursor? (h : d.Alike d') : respondedCursor? d = respondedCursor? d' := by
  rw [DocGateway.respondedCursor?, DocGateway.respondedCursor?, getDocument?, getDocument?,
    h.get? (by decide)]

/-- `closedBy` does not read the clock. -/
theorem closedBy (h : d.Alike d') (command : Command) :
    CursorCache.closedBy command d = CursorCache.closedBy command d' := by
  rw [CursorCache.closedBy, CursorCache.closedBy, h.isOk, h.respondedCursor?]

/-- `cursorOf` does not read the clock. -/
theorem cursorOf (h : d.Alike d') : Legacy.cursorOf d = Legacy.cursorOf d' := by
  rw [Legacy.cursorOf, Legacy.cursorOf, h.get? (by decide)]

/-- `batchOf` does not read the clock. -/
theorem batchOf (h : d.Alike d') (key : String) : Legacy.batchOf d key = Legacy.batchOf d' key := by
  rw [Legacy.batchOf, Legacy.batchOf, h.cursorOf]

end Alike

end Bson.Document

/-! ### Outcomes -/

/-- Outcomes are the same, or responses that are alike. -/
inductive Outcome.Alike : Outcome → Outcome → Prop
  | response {d d' : Document} (h : d.Alike d') : Alike (.response d) (.response d')
  | failure (e : ServerError) : Alike (.failure e) (.failure e)
  | crashed : Alike .crashed .crashed
  | stalled : Alike .stalled .stalled

/-! ### Messages -/

namespace Wire

/-- Bodies are the same, or they consist of documents that are alike. Batches of cursors tell no
time. -/
inductive Body.Alike : Body → Body → Prop
  | refl (b : Body) : Alike b b
  | msg (flags : MsgFlags) {d d' : Document} (h : d.Alike d') :
      Alike (.msg ⟨flags, [.body d]⟩) (.msg ⟨flags, [.body d']⟩)
  | single {d d' : Document} (h : d.Alike d') :
      Alike (.reply (Legacy.singleReply d)) (.reply (Legacy.singleReply d'))
  | compressed (c : Compressor) {b b' : Body} (h : Alike b b') :
      Alike (.compressed c b) (.compressed c b')

/-- `wrap` keeps bodies alike that are put in the same envelopes. -/
theorem Body.Alike.wrap {b b' : Body} (h : b.Alike b') (cs : List Compressor) :
    (Body.wrap cs b).Alike (.wrap cs b') := by
  induction cs with
  | nil => exact h
  | cons c cs ih => exact .compressed c ih

/-- Messages answer the same message, and are alike. Their own numbers may be any. -/
structure Message.Alike (m m' : Message) : Prop where
  responseTo : m.responseTo = m'.responseTo
  body : m.body.Alike m'.body

end Wire

/-! ### Work for clients -/

namespace Gateway

/-- Two pieces of work end in the same way, with results between which there is a relation. -/
inductive Ending.Rel {α β : Type} (r : α → β → Prop) : Ending α → Ending β → Prop
  | done {a : α} {b : β} (h : r a b) : Rel r (.done a) (.done b)
  | failed (e : ServerError) : Rel r (.failed e) (.failed e)
  | crashed : Rel r .crashed .crashed
  | stalled : Rel r .stalled .stalled

namespace Ending

variable {α β γ δ : Type} {r : α → β → Prop} {q : γ → δ → Prop}

/-- `Ending.map` keeps `Rel`, by another relation between the results. -/
theorem Rel.map {f : α → γ} {g : β → δ} {a : Ending α} {b : Ending β} (h : Rel r a b)
    (hfg : ∀ {a b}, r a b → q (f a) (g b)) :
    Rel q (a.map f) (b.map g) := by
  cases h with
  | done h => exact .done (hfg h)
  | failed e => exact .failed e
  | crashed => exact .crashed
  | stalled => exact .stalled

end Ending

/-- `endingOf` outcomes that are alike is alike. -/
theorem alike_endingOf {o o' : Outcome} (h : o.Alike o') :
    (endingOf o).Rel Document.Alike (endingOf o') := by
  cases h with
  | response h => exact .done h
  | failure e => cases e <;> constructor <;> rfl
  | crashed => exact .crashed
  | stalled => exact .stalled

/-! ### Replies -/

variable {d d' : Document}

/-- `msgReply` of documents that are alike is alike. -/
theorem alike_msgReply (h : d.Alike d') (m : Wire.Msg) :
    (Session.msgReply m d).Alike (Session.msgReply m d') := .msg _ h

/-- `firstReply` to responses that are alike fails with the same error, or gives replies that are
alike and takes the same. -/
theorem alike_firstReply (h : d.Alike d') (shape : Legacy.ReplyShape) :
    (∃ e, Legacy.firstReply shape d = .error e ∧ Legacy.firstReply shape d' = .error e) ∨
      ∃ first first', Legacy.firstReply shape d = .ok first ∧
      Legacy.firstReply shape d' = .ok first' ∧
        (Body.reply first.reply).Alike (.reply first'.reply) ∧ first.taken = first'.taken := by
  cases hok : isOk d with
  | false =>
    have hok' : isOk d' = false := h.isOk ▸ hok
    exact .inr ⟨_, _, Legacy.firstReply_of_failed shape hok, Legacy.firstReply_of_failed shape hok',
      .single h, rfl⟩
  | true =>
    have hok' : isOk d' = true := h.isOk ▸ hok
    -- success or not, the cursor and the batch are the same in both responses
    cases shape with
    | explain =>
      simp only [Legacy.firstReply, hok, hok']
      exact .inr ⟨_, _, rfl, rfl, .single h, rfl⟩
    | find =>
      simp only [Legacy.firstReply, hok, hok', Legacy.findReply, h.batchOf]
      cases Legacy.batchOf d' "firstBatch" with
      | error e => exact .inl ⟨e, rfl, rfl⟩
      | ok batch => exact .inr ⟨_, _, rfl, rfl, .refl _, rfl⟩
    | command unwrap =>
      simp only [Legacy.firstReply, hok, hok', Legacy.commandReply, h.cursorOf]
      cases Legacy.cursorOf d' with
      | error e => exact .inl ⟨e, rfl, rfl⟩
      | ok cursor =>
        cases cursor with
        | none => exact .inr ⟨_, _, rfl, rfl, .single h, rfl⟩
        | some cursor =>
          cases hitems : Legacy.itemsOf cursor "firstBatch" with
          | error e =>
            exact .inl ⟨e, by simp [hitems, bind, Except.bind], by simp [hitems, bind, Except.bind]⟩
          | ok items =>
            simp only [hitems, bind, Except.bind]
            cases unwrap with
            | false => exact .inr ⟨_, _, rfl, rfl, .single h, rfl⟩
            | true =>
              cases items with
              | none => exact .inl ⟨_, rfl, rfl⟩
              | some items => exact .inr ⟨_, _, rfl, rfl, .refl _, rfl⟩

/-- `queryReply` to responses that are alike is alike, be it with the error that there is
instead. -/
theorem alike_queryReply (h : d.Alike d') (shape : Legacy.ReplyShape) (c c' : CursorCache)
    (now now' : Nat) :
    (Body.reply (Session.orSingle (Legacy.queryReply c now shape d).1)).Alike
      (.reply (Session.orSingle (Legacy.queryReply c' now' shape d').1)) := by
  rw [Legacy.fst_queryReply, Legacy.fst_queryReply]
  obtain ⟨e, hd, hd'⟩ | ⟨first, first', hd, hd', hreply, -⟩ := alike_firstReply h shape
  · rw [hd, hd']
    exact .refl _
  · rw [hd, hd']
    exact hreply

/-- `taken?` does not read the clock. -/
theorem taken?_eq_of_alike (h : d.Alike d') (shape : Legacy.ReplyShape) :
    Legacy.taken? shape d = Legacy.taken? shape d' := by
  rw [Legacy.taken?, Legacy.taken?]
  obtain ⟨e, hd, hd'⟩ | ⟨first, first', hd, hd', -, htaken⟩ := alike_firstReply h shape
  · rw [hd, hd']
  · rw [hd, hd']
    exact congrArg (Option.filter _) htaken

/-- `getMoreReply` to responses that are alike is alike, if both start at the same place. -/
theorem alike_getMoreReply (h : d.Alike d') {c c' : CursorCache} {x x' : CursorHandle}
    (hconsumed : c.consumed x = c'.consumed x') :
    (Body.reply (Session.orSingle (Legacy.getMoreReply c x d).1)).Alike
      (.reply (Session.orSingle (Legacy.getMoreReply c' x' d').1)) := by
  cases hok : isOk d with
  | false =>
    rw [Legacy.getMoreReply_of_failed c x hok, Legacy.getMoreReply_of_failed c' x' (h.isOk ▸ hok)]
    exact .single h
  | true =>
    have hok' : isOk d' = true := h.isOk ▸ hok
    cases hbatch : Legacy.batchOf d "nextBatch" with
    | error e =>
      rw [Legacy.getMoreReply_of_error c x hok hbatch,
        Legacy.getMoreReply_of_error c' x' hok' (h.batchOf _ ▸ hbatch)]
      exact .refl _
    | ok next =>
      obtain ⟨id, batch⟩ := next
      -- the replies are the same, as both start where the cache counts to
      rw [Legacy.getMoreReply_of_batch c x hok hbatch,
        Legacy.getMoreReply_of_batch c' x' hok' (h.batchOf _ ▸ hbatch), hconsumed]
      exact .refl _

end Gateway

end DocGateway
