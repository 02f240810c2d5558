import DocGateway.Proofs.Gateway.Envelopes
import DocGateway.Proofs.Gateway.OwnDocuments
/-!
# Whether a reply can be written

A reply is written after the message is handled, and a reply that cannot be written ends the
connection. With the gateway's own stages nothing can be wrong with a reply but its size, and the
size is that of the request but for some hundred bytes and what the gateway has to tell of itself.
At the limit these hundred bytes are too many: there are names that a command can have, but that no
answer can repeat.

## Key results

- `encode_wrap_cases`, `encode_wrap_of_size`: bodies in envelopes, when they are written
- `isOwn_dispatch`: the answers to commands
- `answersWithin`, `isOwnBody_handleBody`: the bodies of replies
- `encode_reply`: a reply is written, unless there are too many bytes
- `sent_and_unanswerable`: a command whose answer has too many
-/

namespace DocGateway

open Bson (Document Value)

/-! ### Writing replies -/

/-- A compressor that makes nothing longer by more than so many bytes, up to the size of a
message. -/
def Compressor.AddsAtMost (k : Nat) (c : Compressor) : Prop :=
  ∀ plain : List UInt8, plain.length ≤ Wire.maxMessageSize →
    (c.compress plain).length ≤ plain.length + k

/-- `noop` adds nothing. -/
theorem Compressor.addsAtMost_noop : Compressor.noop.AddsAtMost 0 := fun _ _ => Nat.le_refl _

namespace Wire

/-- `envelopeBytes` are nine bytes and what the compressor gives. -/
theorem length_envelopeBytes (c : Compressor) (inner : Opcode) (plain : List UInt8) :
    (envelopeBytes c inner plain).length = (c.compress plain).length + 9 := by
  simp only [envelopeBytes, List.length_append, List.length_cons, LittleEndian.length_int32,
    LittleEndian.length_encode]
  omega

/-- `encode` of a body whose documents can be written checks its size, and then closes it. -/
theorem encode_of_writable {b : Body} (hplain : b.opcode ≠ .compressed)
    (hwritable : ∀ d ∈ b.documents, d.isWritable = true) (requestId responseTo : Int32) :
    b.encode requestId responseTo =
      (checkSize (b.plainSize + headerSize + (if b.hasChecksum then 4 else 0))).map fun _ =>
      close requestId responseTo b.opcode b.hasChecksum b.plainBytes := by
  have hall : b.documents.all Document.isWritable = true := List.all_eq_true.mpr hwritable
  rw [encode_plain hplain]
  simp only [hall, not_true_eq_false, ↓reduceIte]
  rfl

/-- `encode` of a reply of one body section: it has 21 bytes besides the document. -/
theorem encode_reply_of_writable {d : Document} (h : d.isWritable = true)
    (requestId responseTo : Int32) :
    (Body.msg (.reply d)).encode requestId responseTo = (checkSize (d.size + 21)).map fun _ =>
      close requestId responseTo .msg false (Body.msg (.reply d)).plainBytes := by
  have hopcode : (Body.msg (.reply d)).opcode ≠ .compressed := nofun
  have hdocuments : ∀ e ∈ (Body.msg (.reply d)).documents, e.isWritable = true :=
    fun e he => List.mem_singleton.mp he ▸ h
  have hchecksum : (Body.msg (.reply d)).hasChecksum = false := by
    have hflags : MsgFlags.empty.checksumPresent = false := by decide
    exact hflags
  have hsize : (Body.msg (.reply d)).plainSize = d.size + 5 := rfl
  rw [encode_of_writable hopcode hdocuments, hchecksum, hsize]
  rfl

section

variable {b : Body} (hplain : b.opcode ≠ .compressed)
  (hwritable : ∀ d ∈ b.documents, d.isWritable = true) (requestId responseTo : Int32)

include hplain hwritable

/-- `encode` of a body in envelopes succeeds, or finds too many bytes in one of them. -/
theorem encode_wrap_cases (cs : List Compressor) :
    (∃ bytes, (Body.wrap cs b).encode requestId responseTo = .ok bytes) ∨
      ∃ n, maxMessageSize < n ∧
        (Body.wrap cs b).encode requestId responseTo =
          .error (.messageTooLarge n maxMessageSize) := by
  -- each layer can only fail at the check of its size
  have hcheck (total : Nat) : checkSize total = .ok () ∨ maxMessageSize < total ∧
      checkSize total = .error (.messageTooLarge total maxMessageSize) := by
    rw [checkSize]
    split
    · exact .inr ⟨‹_›, rfl⟩
    · exact .inl rfl
  induction cs with
  | nil =>
    have hbare : Body.wrap [] b = b := rfl
    rw [hbare, encode_of_writable hplain hwritable]
    obtain hsize | ⟨hlarge, hsize⟩ :=
      hcheck (b.plainSize + headerSize + (if b.hasChecksum then 4 else 0))
    · exact .inl ⟨_, by rw [hsize]; rfl⟩
    · exact .inr ⟨_, hlarge, by rw [hsize]; rfl⟩
  | cons c cs ih =>
    have hwrap : Body.wrap (c :: cs) b = .compressed c (Body.wrap cs b) := rfl
    rw [hwrap, Body.encode]
    obtain ⟨framed, hframed⟩ | ⟨n, hlarge, htoo⟩ := ih
    · rw [hframed]
      obtain hsize | ⟨hlarge, hsize⟩ :=
        hcheck ((envelopeBytes c (Body.wrap cs b).opcode (framed.drop headerSize)).length +
          headerSize)
      · exact .inl ⟨_, by simp only [bind, Except.bind, hsize]; rfl⟩
      · exact .inr ⟨_, hlarge, by simp only [bind, Except.bind, hsize]⟩
    · rw [htoo]
      exact .inr ⟨n, hlarge, rfl⟩

/-- `encode` succeeds if there is room for the body and for what the envelopes can add. -/
theorem encode_wrap_of_size {k : Nat} {cs : List Compressor} (hcs : ∀ c ∈ cs, c.AddsAtMost k)
    (hsize : b.plainSize + headerSize + (if b.hasChecksum then 4 else 0) + cs.length * (k + 9) ≤
      maxMessageSize) :
    ∃ bytes, (Body.wrap cs b).encode requestId responseTo = .ok bytes ∧
      bytes.length ≤ b.plainSize + headerSize + (if b.hasChecksum then 4 else 0) +
        cs.length * (k + 9) := by
  induction cs with
  | nil =>
    have hbare : Body.wrap [] b = b := rfl
    rw [List.length_nil, Nat.zero_mul, Nat.add_zero] at hsize ⊢
    have hcheck : checkSize (b.plainSize + headerSize + (if b.hasChecksum then 4 else 0)) =
        .ok () := checkSize_eq_ok_iff.mpr hsize
    refine ⟨_, by rw [hbare, encode_of_writable hplain hwritable, hcheck]; rfl, ?_⟩
    rw [length_close, Body.length_plainBytes]
  | cons c cs ih =>
    rw [List.length_cons, Nat.succ_mul] at hsize ⊢
    obtain ⟨framed, hframed, hlength⟩ :=
      ih (fun c hc => hcs c (List.mem_cons_of_mem _ hc)) (by omega)
    have hadds :=
      hcs c List.mem_cons_self (framed.drop headerSize) (by rw [List.length_drop]; omega)
    rw [List.length_drop] at hadds
    -- an envelope takes the header of what is in it off, and has nine bytes besides the payload
    have henvelope := length_envelopeBytes c (Body.wrap cs b).opcode (framed.drop headerSize)
    have hcheck : checkSize
        ((envelopeBytes c (Body.wrap cs b).opcode (framed.drop headerSize)).length + headerSize) =
        .ok () :=
      checkSize_eq_ok_iff.mpr (by omega)
    have hwrap : Body.wrap (c :: cs) b = .compressed c (Body.wrap cs b) := rfl
    refine ⟨_, by rw [hwrap, Body.encode, hframed]; simp only [bind, Except.bind, hcheck]; rfl, ?_⟩
    rw [length_close]
    simp only [Bool.false_eq_true, ↓reduceIte]
    omega

end

end Wire

/-- `CommandRegistry.parse` keeps the document, and takes the name and the kind from its first
key. -/
theorem CommandRegistry.name_of_parse {registry : CommandRegistry} {d : Document}
    {command : Command} (h : registry.parse d = .ok command) :
    command.document = d ∧ command.document.firstKey? = some command.name ∧
      Command.kindOf command.name command.document = .ok command.kind := by
  obtain ⟨rfl, name, hkey, hkind⟩ := registry.kindOf_of_parse h
  have hname : command.name = name := by
    rw [Command.name, hkey]
    rfl
  rw [hname]
  exact ⟨rfl, hkey, hkind⟩

namespace Gateway

open Wire (Body Message Msg MsgFlags)

/-- The answer of a gateway of built-in stages `IsOwn`. -/
theorem isOwn_of_isOwnAnswer {σ : Type} {i : ServerInfo} {registry : CommandRegistry} {d : Document}
    {command : Command} {client : Client} {n : Nat} (hd : RepeatsAtMost n d)
    (hp : registry.parse d = .ok command) {outcome : Outcome}
    (h : IsOwnAnswer σ i command client outcome) {a : Document} (ha : endingOf outcome = .done a) :
    IsOwn (n + 320 + i.ownSize client) a := by
  obtain ⟨rfl, hkey, hkind⟩ := registry.name_of_parse hp
  have hsize : command.name.utf8ByteSize ≤ n := hd.name hkey
  have hbrief {e : ServerError} (he : e.IsBrief (n + 8)) :
      IsOwn (n + 320 + i.ownSize client) e.document :=
    he.isOwn_document.mono (by omega)
  cases h with
  | cancelled => cases ha
  | hidden =>
    cases ha
    -- a hidden command is answered as if it did not exist
    have hdenial : CommandFilter.denial command.name =
        (CommandRegistry.notFound command.name).document := rfl
    rw [hdenial]
    exact hbrief (ServerError.isBrief_quote _ (by omega) (by decide))
  | refused hlimit hcheck =>
    cases ha
    exact hbrief ((hd.refusal hkey hcheck).isBrief hlimit)
  | answered hs =>
    obtain ⟨e, hterminal, he⟩ | ⟨response, hterminal, hown⟩ :=
      i.isOwn_terminal hs hsize fun names hcompressors => hd.compressors hkey (hcompressors ▸ hkind)
    · rw [hterminal] at ha
      -- the error is not the one of cancellation, which is not answered
      obtain ⟨code, text, rfl, -⟩ := id he
      cases ha
      exact hbrief (he.mono (by omega))
    · rw [hterminal] at ha
      cases ha
      exact hown

namespace Session

variable {σ : Type} {stages : List (Stage σ)} (hstages : ∀ stage ∈ stages, BuiltIn stage)
  (registry : CommandRegistry) (i : ServerInfo)
  (s : Session σ)

include hstages

/-- `dispatch` through built-in stages ends with a document that `IsOwn`. -/
theorem isOwn_dispatch {d a : Document} {n : Nat} (hd : RepeatsAtMost n d)
    (h : (s.dispatch ⟨registry, ⟨stages, i.terminal⟩⟩ d).1 = .done a) :
    IsOwn (n + 320 + i.ownSize s.client) a := by
  -- a command that is not registered comes to no stage
  cases hp : registry.parse d with
  | error e =>
    rw [s.dispatch_of_refused ⟨registry, _⟩ hp] at h
    cases h
    exact (isBrief_parse (fun name hkey => hd.name hkey) hp).isOwn_document.mono (by omega)
  | ok command =>
    have hparsed := s.outcome?_of_parsed ⟨registry, ⟨stages, i.terminal⟩⟩ hp
    rw [s.ending_dispatch _ hparsed] at h
    have hs : (s.scene command).Carries command s.client := by
      obtain ⟨-, hkey, -⟩ := registry.name_of_parse hp
      exact ⟨rfl, rfl, hkey, fun _ => rfl, rfl⟩
    exact isOwn_of_isOwnAnswer hd hp (isOwnAnswer_run _ hstages 0 hs) h

end Session

/-! ### Bodies of replies -/

/-- `Ending.map` ends with a result if what it maps does. -/
theorem Ending.of_map_eq_done {α β : Type} {f : α → β} {ending : Ending α} {y : β}
    (h : ending.map f = .done y) :
    ∃ x, ending = .done x ∧ f x = y := by
  cases ending with
  | done x => exact ⟨x, rfl, Ending.done.inj h⟩
  | _ => cases h

/-- The body of a reply that can be written in no more bytes than this. -/
structure IsOwnBody (n : Nat) (b : Body) : Prop where
  plain : b.opcode ≠ .compressed
  writable : ∀ d ∈ b.documents, d.isWritable = true
  size : b.plainSize + Wire.headerSize + (if b.hasChecksum then 4 else 0) ≤ n

/-- `IsOwnBody` is kept if more bytes are allowed. -/
theorem IsOwnBody.mono {n n' : Nat} {b : Body} (h : IsOwnBody n b) (hn : n ≤ n') : IsOwnBody n' b :=
  ⟨h.plain, h.writable, Nat.le_trans h.size hn⟩

/-- `msgReply` has forty bytes at most besides its document. -/
theorem isOwnBody_msgReply (m : Msg) {n : Nat} {d : Document} (h : IsOwn n d) :
    IsOwnBody (n + 40) (Session.msgReply m d) where
  plain := nofun
  writable e he := by
    obtain rfl : e = d := List.mem_singleton.mp he
    exact h.writable
  size := by
    have hsize : (Session.msgReply m d).plainSize = d.size + 5 := rfl
    have := h.size
    rw [hsize, Wire.headerSize]
    split <;> omega

/-- A legacy reply has forty bytes at most besides its document. -/
theorem isOwnBody_reply {r : Wire.Reply} {n : Nat} {d : Document} (h : IsOwn n d)
    (hr : r.documents = [] ∨ r.documents = [d]) :
    IsOwnBody (n + 40) (.reply r) where
  plain := nofun
  writable e he := by
    have he : e ∈ r.documents := he
    obtain hnone | hone := hr
    · rw [hnone] at he
      cases he
    · rw [hone, List.mem_singleton] at he
      exact he ▸ h.writable
  size := by
    -- there is one document in the reply, or none
    have hsize : Wire.documentsSize r.documents ≤ d.size := by
      obtain hnone | hone := hr
      · rw [hnone]
        exact Nat.zero_le _
      · rw [hone]
        exact Nat.le_refl _
    have hchecksum : (Body.reply r).hasChecksum = false := rfl
    have := h.size
    rw [Body.plainSize, hchecksum, Wire.headerSize]
    simp only [Bool.false_eq_true, ↓reduceIte]
    omega

section

variable {response : Document} (hcursor : response.get? "cursor" = none)

include hcursor

/-- `batchOf` of a response without a cursor is no batch. -/
theorem batchOf_of_noCursor (key : String) :
    Legacy.batchOf response key = .ok (exhaustedCursor, none) := by
  simp [Legacy.batchOf, Legacy.cursorOf, hcursor, bind, Except.bind, pure, Except.pure]

/-- `firstReply` holds a response that names no cursor, or nothing. -/
theorem documents_firstReply (shape : Legacy.ReplyShape) :
    let r := Session.orSingle ((Legacy.firstReply shape response).map (·.reply))
    r.documents = [] ∨ r.documents = [response] := by
  cases hok : isOk response with
  | false =>
    rw [Legacy.firstReply_of_failed shape hok]
    exact .inr rfl
  | true =>
    -- a response without a cursor has no batch, so only a `find` reply leaves it out
    cases shape with
    | explain => simp [Legacy.firstReply, hok, Except.map, Session.orSingle, Legacy.singleReply]
    | command unwrap =>
      simp [Legacy.firstReply, hok, Legacy.commandReply, Legacy.cursorOf, hcursor, bind,
        Except.bind, pure, Except.pure, Except.map, Session.orSingle, Legacy.singleReply]
    | find =>
      rw [Legacy.firstReply_find hok (batchOf_of_noCursor hcursor _)]
      exact .inl rfl

/-- `getMoreReply` holds a response that names no cursor, or nothing. -/
theorem documents_getMoreReply (cursors : CursorCache) (h : CursorHandle) :
    let r := Session.orSingle (Legacy.getMoreReply cursors h response).1
    r.documents = [] ∨ r.documents = [response] := by
  cases hok : isOk response with
  | false =>
    rw [Legacy.getMoreReply_of_failed cursors h hok]
    exact .inr rfl
  | true =>
    rw [Legacy.getMoreReply_of_batch cursors h hok (batchOf_of_noCursor hcursor _)]
    exact .inl rfl

end

/-- A service answers the commands of a client, and errors, with documents of its own. -/
structure AnswersWithin {σ : Type} (v : Service σ) (client : Client) (k n : Nat) : Prop where
  dispatched {s : Session σ} {d a : Document} (hclient : s.client = client)
    (hd : RepeatsAtMost (k + 64) d) (ha : (s.dispatch v d).1 = .done a) : IsOwn n a
  failed {e : ServerError} (he : e.IsBrief k) : IsOwn n e.document

namespace Session

variable {σ : Type} {v : Service σ} {s : Session σ} {n : Nat} {reply : Body}

/-- `handleMsg` replies with a body of the gateway's own. -/
theorem isOwnBody_handleMsg {m : Msg} (hv : AnswersWithin v s.client (Body.msg m).plainSize n)
    (h : (s.handleMsg v m).1 = .done (some reply)) : IsOwnBody (n + 40) reply := by
  cases hm : m.flags.moreToCome with
  -- no reply is sent to such a message
  | true => cases hd : Legacy.mergeSections m <;> simp [handleMsg, hm, hd] at h
  | false =>
    cases hd : Legacy.mergeSections m with
    | error e =>
      simp only [handleMsg, hm, hd, errorReply, Ending.done.injEq, Option.some.injEq] at h
      exact h ▸ isOwnBody_msgReply m (hv.failed (Legacy.isBrief_mergeSections hd))
    | ok d =>
      rw [s.handleMsg_of_command v hm hd] at h
      obtain ⟨a, ha, hreply⟩ := Ending.of_map_eq_done h
      exact Option.some.inj hreply ▸ isOwnBody_msgReply m
        (hv.dispatched rfl (Legacy.repeatsAtMost_mergeSections hd) ha)

/-- `handleQuery` replies with a body of the gateway's own. -/
theorem isOwnBody_handleQuery {q : Wire.Query}
    (hv : AnswersWithin v s.client (Body.query q).plainSize n)
    (h : (s.handleQuery v q).1 = .done (some reply)) : IsOwnBody (n + 40) reply := by
  cases ht : Legacy.queryCommand q with
  | error e =>
    simp only [handleQuery, ht, legacyError, errorReply, Ending.done.injEq, Option.some.injEq] at h
    exact h ▸ isOwnBody_reply (hv.failed (Legacy.isBrief_queryCommand ht)) (.inr rfl)
  | ok t =>
    rcases hend : s.dispatch v t.command with ⟨ending, s'⟩
    cases ending with
    | done response =>
      have hdone : (s.dispatch v t.command).1 = .done response := by rw [hend]
      have hown := hv.dispatched rfl (Legacy.repeatsAtMost_queryCommand ht) hdone
      rw [s.handleQuery_of_done v ht hdone] at h
      cases h
      exact isOwnBody_reply hown (documents_firstReply hown.noCursor t.shape)
    -- without a response there is no reply
    | failed | crashed | stalled => simp [handleQuery, ht, hend, Ending.map] at h

/-- `handleGetMore` replies with a body of the gateway's own. -/
theorem isOwnBody_handleGetMore {g : Wire.GetMore}
    (hv : AnswersWithin v s.client (Body.getMore g).plainSize n)
    (h : (s.handleGetMore v g).1 = .done (some reply)) : IsOwnBody (n + 40) reply := by
  cases hd : Legacy.getMoreCommand g with
  | error e =>
    simp only [handleGetMore, hd, legacyError, errorReply, Ending.done.injEq,
      Option.some.injEq] at h
    exact h ▸ isOwnBody_reply (hv.failed (Legacy.isBrief_getMoreCommand hd)) (.inr rfl)
  | ok d =>
    rcases hend : (s.ready (.getMore g)).dispatch v d with ⟨ending, s'⟩
    cases ending with
    | done response =>
      have hdone : ((s.ready (.getMore g)).dispatch v d).1 = .done response := by rw [hend]
      -- looking the cursor up does not change who asks
      have hclient : (s.ready (.getMore g)).client = s.client := rfl
      have hown := hv.dispatched hclient (Legacy.repeatsAtMost_getMoreCommand hd) hdone
      obtain ⟨cursors, handle, hreply⟩ := s.handleGetMore_of_done v hd hdone
      rw [hreply] at h
      cases h
      exact isOwnBody_reply hown (documents_getMoreReply hown.noCursor cursors handle)
    | failed | crashed | stalled =>
      rw [ready] at hend
      simp [handleGetMore, hd, hend, Ending.map] at h

/-- `handleBody` replies with a body that is hardly longer than the one it handles. -/
theorem isOwnBody_handleBody {b : Body} (hv : AnswersWithin v s.client b.plainSize n)
    (h : (s.handleBody v b).1 = .done (some reply)) : IsOwnBody (n + 40) reply := by
  cases b with
  | msg m => exact isOwnBody_handleMsg hv h
  | query q => exact isOwnBody_handleQuery hv h
  | getMore g => exact isOwnBody_handleGetMore hv h
  | killCursors k =>
    -- the command is carried out, and not answered
    obtain ⟨a, -, hreply⟩ := Ending.of_map_eq_done h
    cases hreply
  | reply r => cases h
  | compressed c inner => cases h

end Session

/-- A gateway of built-in stages `AnswersWithin` 384 bytes more than its request and what it tells
of itself. -/
theorem answersWithin {σ : Type} {stages : List (Stage σ)}
    (hstages : ∀ stage ∈ stages, BuiltIn stage) (registry : CommandRegistry) (i : ServerInfo)
    (client : Client) (k : Nat) :
    AnswersWithin ⟨registry, ⟨stages, i.terminal⟩⟩ client k (k + 384 + i.ownSize client) where
  dispatched {s d a} hclient hd ha := by
    subst hclient
    exact Session.isOwn_dispatch hstages registry i s hd ha
  failed he := he.isOwn_document.mono (by omega)

/-! ### Messages -/

/-- `handle` replies with what `handleBody` does, in the envelopes of the message. -/
theorem Session.exists_body_of_handle {σ : Type} {v : Service σ} {s s' : Session σ}
    {m reply : Message} {cs : List Compressor} {b : Body} (hunwrap : m.body.unwrap = (cs, b))
    (h : s.handle v m = (.done (some reply), s')) :
    ∃ body, (s.handleBody v b).1 = .done (some body) ∧ reply.body = .wrap cs body := by
  rw [s.handle_eq_conclude v hunwrap] at h
  match hr : s.handleBody v b with
  | (.done (some body), t) =>
    rw [hr] at h
    cases h
    exact ⟨body, rfl, rfl⟩
  | (.done none, t) | (.failed e, t) | (.crashed, t) | (.stalled, t) =>
    rw [hr] at h
    cases h

/-- `Message.encode` writes each reply of `handle` with built-in stages, unless there are too many
bytes: nothing else is wrong with it. There are not too many if there is room for the `plainSize` of
what is in the envelopes, for the `ownSize` of what the gateway has to tell of itself and of the
client, and for what each envelope `AddsAtMost`. -/
theorem encode_reply {σ : Type} {specs : List (String × Document)} {stages : List (Stage σ)}
    (hstages : StageRegistry.standard.build specs = .ok stages) (registry : CommandRegistry)
    (i : ServerInfo) (s : Session σ) {s' : Session σ} {m reply : Message}
    (h : s.handle ⟨registry, ⟨stages, i.terminal⟩⟩ m = (.done (some reply), s')) :
    ((∃ bytes, reply.encode = .ok bytes) ∨
        ∃ n, Wire.maxMessageSize < n ∧
        reply.encode = .error (.messageTooLarge n Wire.maxMessageSize)) ∧
      ∀ k, (∀ c ∈ m.body.unwrap.1, c.AddsAtMost k) →
        m.body.unwrap.2.plainSize + 512 + i.ownSize s.client + m.body.unwrap.1.length * (k + 9) ≤
          Wire.maxMessageSize →
        ∃ bytes, reply.encode = .ok bytes := by
  cases hunwrap : m.body.unwrap with
  | mk cs b =>
    obtain ⟨body, hbody, hreply⟩ := Session.exists_body_of_handle hunwrap h
    -- what is in the envelopes is the gateway's own, whatever the request
    have hown : IsOwnBody (b.plainSize + 512 + i.ownSize s.client) body :=
      (Session.isOwnBody_handleBody
        (answersWithin (builtIn_of_build hstages) registry i s.client b.plainSize) hbody).mono
        (by omega)
    rw [Message.encode, hreply]
    refine ⟨Wire.encode_wrap_cases hown.plain hown.writable _ _ cs, fun k hcs hsize => ?_⟩
    -- the envelopes have room for it, and for what they add
    have hfits := Nat.le_trans (Nat.add_le_add_right hown.size _) hsize
    obtain ⟨bytes, hbytes, -⟩ :=
      Wire.encode_wrap_of_size hown.plain hown.writable reply.requestId reply.responseTo hcs hfits
    exact ⟨bytes, hbytes⟩

/-- A message in an envelope asks for a command that is hidden, and `Message.encode` writes the
denial. -/
theorem encode_reply_hidden :
    let specs : List (String × Document) :=
      [("nohint", []), ("filtercommand", [("filter_commands", .array [.string "listDatabases"])])]
    let stages : List (Stage Unit) :=
      [HintRemoval.stage "nohint", CommandFilter.stage "filtercommand" ⟨["listDatabases"]⟩]
    let i : ServerInfo := ⟨"1.0", "gateway", 30, [.snappy]⟩
    let v : Service Unit := ⟨.standard, ⟨stages, i.terminal⟩⟩
    let s : Session Unit := ⟨.connected none, .start 0 ⟨"internal", "root", []⟩ ()⟩
    let m : Message := ⟨7, 0, .compressed .noop (.msg ⟨⟨0⟩, [.body [("listDatabases", .int32 1)]]⟩)⟩
    let reply : Message :=
      ⟨1, 7, .compressed .noop (.msg (.reply (CommandFilter.denial "listDatabases")))⟩
    (StageRegistry.standard.build specs = .ok stages ∧
      s.handle v m = (.done (some reply), (s.handle v m).2)) ∧
      ((∃ bytes, reply.encode = .ok bytes) ∨
        ∃ n, Wire.maxMessageSize < n ∧
        reply.encode = .error (.messageTooLarge n Wire.maxMessageSize)) ∧
      ∃ bytes, reply.encode = .ok bytes := by
  intro specs stages i v s m reply
  -- the settings are read by parts, as the registry is searched by name
  have hconfig : CommandFilter.Config.ofDocument [("filter_commands",
      .array [.string "listDatabases"])] = .ok ⟨["listDatabases"]⟩ := by
    rfl
  have hfind : (StageRegistry.standard (σ := Unit)).find? "filtercommand" =
      some (StageRegistry.kindOf "filtercommand" CommandFilter.Config.ofDocument
        CommandFilter.stage) := rfl
  have hstages : StageRegistry.standard.build specs = .ok stages := by
    simp only [specs, StageRegistry.build, List.mapM_cons, List.mapM_nil, StageRegistry.buildOne,
      hfind, StageRegistry.kindOf, hconfig]
    rfl
  have hhandle : s.handle v m = (.done (some reply), (s.handle v m).2) := Prod.ext rfl rfl
  obtain ⟨hcases, hfits⟩ := encode_reply hstages .standard i s hhandle
  refine ⟨⟨hstages, hhandle⟩, hcases, hfits 0 (fun c hc => ?_) (by decide)⟩
  obtain rfl : c = .noop := List.mem_singleton.mp hc
  exact Compressor.addsAtMost_noop

/-! ### Where there is no room -/

/-- A command message of a name and as little else as there can be. -/
def bareCommand (name : String) : Message := ⟨1, 0, .msg (.reply [(name, .null)])⟩

/-- `decode` reads a `bareCommand` whose name leaves room for the 28 other bytes. -/
theorem decode_bareCommand {name : String} (hterminable : Bson.isTerminable name = true)
    (hkey : Bson.TypedKey.ofName? name = none)
    (hsize : name.utf8ByteSize + 28 ≤ Wire.maxMessageSize) :
    ∃ bytes, (bareCommand name).encode = .ok bytes ∧ bytes.length ≤ Wire.maxMessageSize ∧
      Message.decode bytes = .ok (bareCommand name) := by
  -- a name that is no key of another type is read back as it is
  have hsettled : (bareCommand name).body.isSettled = true := by
    have hfields : Document.isSettled [(name, .null)] = true :=
      Bson.fieldsSettled_cons.mpr ⟨hkey, rfl, rfl, rfl⟩
    simp [bareCommand, Body.isSettled, Body.texts, Msg.reply, Wire.MsgSection.texts, Body.documents,
      Wire.MsgSection.documents, hfields]
  have hwritable : Document.isWritable [(name, .null)] = true := by
    simp [Document.isWritable, Bson.fieldsWritable, Value.isWritable, hterminable]
  have hdocument : Document.size [(name, .null)] = name.utf8ByteSize + 7 := rfl
  have hcheck : Wire.checkSize (Document.size [(name, .null)] + 21) = .ok () :=
    Wire.checkSize_eq_ok_iff.mpr (by omega)
  have hencode : (bareCommand name).encode =
      .ok (Wire.close 1 0 .msg false (bareCommand name).body.plainBytes) := by
    rw [Message.encode, bareCommand, Wire.encode_reply_of_writable hwritable, hcheck]
    rfl
  refine ⟨_, hencode, ?_, Wire.decode_of_encode hsettled hencode⟩
  have hplain : (bareCommand name).body.plainSize = name.utf8ByteSize + 12 := rfl
  rw [Wire.length_close, Body.length_plainBytes, hplain]
  exact hsize

/-- `notFound` has 85 bytes besides the name. -/
theorem size_notFound (name : String) :
    (CommandRegistry.notFound name).document.size = name.utf8ByteSize + 85 := by
  have htext : s!"no such command: '{name}'".utf8ByteSize =
      "no such command: '".utf8ByteSize + name.utf8ByteSize + "'".utf8ByteSize := by
    simp only [String.utf8ByteSize_append]
    rfl
  have hdocument : (CommandRegistry.notFound name).document =
      [("ok", .int32 0), ("errmsg", .string s!"no such command: '{name}'"), ("code", .int32 59),
        ("codeName", .string "CommandNotFound")] := rfl
  -- the keys and the fixed parts of the texts
  have hfixed : "ok".utf8ByteSize = 2 ∧ "errmsg".utf8ByteSize = 6 ∧ "code".utf8ByteSize = 4 ∧
      "codeName".utf8ByteSize = 8 ∧ "CommandNotFound".utf8ByteSize = 15 ∧
      "no such command: '".utf8ByteSize = 18 ∧ "'".utf8ByteSize = 1 := by decide
  simp only [hdocument, Document.size, Bson.fieldsSize, Value.size, htext]
  omega

/-- A `bareCommand` that does not exist is answered with 78 bytes more than it has. So names that
can be sent are too long to be answered. -/
theorem encode_unknown {σ : Type} (v : Service σ) (s : Session σ) {name : String}
    (hname : v.registry.contains name = false)
    (hlarge : Wire.maxMessageSize < name.utf8ByteSize + 106) :
    ∃ reply s', s.handle v (bareCommand name) = (.done (some reply), s') ∧
      reply.encode = .error (.messageTooLarge (name.utf8ByteSize + 106) Wire.maxMessageSize) := by
  have hmerge : Legacy.mergeSections (.reply [(name, .null)]) = .ok [(name, .null)] := rfl
  -- the registry refuses the name, and its error repeats it
  have hparse : v.registry.parse [(name, .null)] = .error (CommandRegistry.notFound name) := by
    simp [CommandRegistry.parse, Document.firstKey?, hname]
  have hbody : (s.handleBody v (bareCommand name).body).1 =
      .done (some (.msg (.reply (CommandRegistry.notFound name).document))) := by
    have hflags : MsgFlags.empty.moreToCome = false := by decide
    -- the reply is too long by that
    have hchecksum : MsgFlags.empty.checksumPresent = false := by decide
    rw [bareCommand, Session.handleBody, s.handleMsg_of_command v hflags hmerge,
      s.dispatch_of_refused v hparse]
    simp [Ending.map, Session.msgReply, Msg.reply, hchecksum]
  have hwritable : (CommandRegistry.notFound name).document.isWritable = true :=
    (ErrorCode.isOwn_document .commandNotFound (Nat.le_refl _)).writable
  cases hr : s.handleBody v (bareCommand name).body with
  | mk ending t =>
    rw [hr] at hbody
    obtain rfl := hbody
    have hunwrap : (bareCommand name).body.unwrap = ([], (bareCommand name).body) := rfl
    refine ⟨_, _, by rw [s.handle_eq_conclude v hunwrap, hr]; rfl, ?_⟩
    have hcheck : Wire.checkSize (name.utf8ByteSize + 106) =
        .error (.messageTooLarge (name.utf8ByteSize + 106) Wire.maxMessageSize) :=
      if_pos hlarge
    have hwritten := Wire.encode_reply_of_writable hwritable t.shared.nextReply 1
    rw [size_notFound, hcheck] at hwritten
    exact hwritten

/-- A name of `n` letters. -/
def longName (n : Nat) : String := String.ofList (List.replicate n 'a')

/-- Each letter takes one byte. -/
theorem utf8ByteSize_longName (n : Nat) : (longName n).utf8ByteSize = n := by
  rw [longName, Utf8.utf8ByteSize_ofList, List.map_replicate, List.sum_replicate_nat]
  exact Nat.mul_one n

/-- No letter is a zero byte. -/
theorem isTerminable_longName (n : Nat) : Bson.isTerminable (longName n) = true := by
  simp [Bson.isTerminable, longName, String.contains_char_eq]

/-- A name of 32 letters or more is no `TypedKey`. -/
theorem ofName?_longName {n : Nat} (h : 32 ≤ n) : Bson.TypedKey.ofName? (longName n) = none := by
  rw [Bson.TypedKey.ofName?, List.find?_eq_none]
  intro key _ hkey
  have hshort : key.name.utf8ByteSize < 32 := by cases key <;> decide
  rw [eq_of_beq hkey, utf8ByteSize_longName] at hshort
  omega

/-- A name of 32 letters or more is that of no command. -/
theorem contains_longName {n : Nat} (h : 32 ≤ n) :
    CommandRegistry.standard.contains (longName n) = false := by
  have hshort : ∀ name ∈ CommandRegistry.standard.names, name.utf8ByteSize < 32 := by decide
  rw [CommandRegistry.contains, Bool.eq_false_iff, ne_eq, List.contains_iff_mem]
  intro hmem
  have := hshort _ hmem
  rw [utf8ByteSize_longName] at this
  omega

/-- A command is sent whose name, of 47,999,901 letters, leaves room for all that is in its message.
`Message.encode` refuses its reply with `.messageTooLarge`, as that repeats the name. -/
theorem sent_and_unanswerable :
    let v : Service Unit := ⟨.standard, ⟨[], ServerInfo.terminal ⟨"1.0", "gateway", 30, []⟩⟩⟩
    let s : Session Unit := ⟨.connected none, .start 0 ⟨"internal", "root", []⟩ ()⟩
    let m := bareCommand (longName 47999901)
    StageRegistry.standard.build (σ := Unit) [] = .ok [] ∧
      (∃ bytes, m.encode = .ok bytes ∧ bytes.length ≤ Wire.maxMessageSize ∧
        Message.decode bytes = .ok m) ∧
      ∃ reply s', s.handle v m = (.done (some reply), s') ∧
        reply.encode = .error (.messageTooLarge 48000007 Wire.maxMessageSize) := by
  intro v s m
  have hsize := utf8ByteSize_longName 47999901
  refine ⟨rfl, decode_bareCommand (isTerminable_longName _) (ofName?_longName (by decide))
    (by rw [hsize]; decide), ?_⟩
  -- the reply quotes the name, in a document that is longer than that of the command
  have hunknown :=
    encode_unknown v s (contains_longName (n := 47999901) (by decide)) (by rw [hsize]; decide)
  rw [hsize] at hunknown
  exact hunknown

end Gateway

end DocGateway
