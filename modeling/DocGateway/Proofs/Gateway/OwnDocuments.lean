import DocGateway.Proofs.Command.Quotes
/-!
# Documents that the gateway makes by itself

Errors, answers to questions about the gateway and handshakes can all be written, and they take
hardly more bytes than what they tell: one text of a request, a list of one, or what the gateway
knows of itself and of its client.

## Key results

- `isOwn_document`: errors that repeat one name at most
- `isOwn_handshake`, `isOwn_connectionStatus`: answers that are as long as what they list
- `isOwn_terminal`: whatever the innermost layer answers with
-/

namespace DocGateway

open Bson (Document Value)

/-! ### Arrays and errors -/

/-- A sublist of the items of an array takes no more bytes than all of them. -/
theorem Bson.size_le_of_sublist {items items' : List Value} (h : items'.Sublist items) :
    (Value.array items').size ≤ (Value.array items).size := by
  -- items move to the front when others are left out, and smaller places have no more digits
  suffices hitems : ∀ i j, i ≤ j → itemsSize i items' ≤ itemsSize j items by
    rw [Value.size, Value.size]
    exact Nat.add_le_add_right (hitems 0 0 (Nat.le_refl _)) 5
  induction h with
  | slnil => exact fun _ _ _ => Nat.le_refl _
  | cons v _ ih =>
    intro i j hij
    rw [itemsSize.eq_2 j]
    have := ih i (j + 1) (by omega)
    omega
  | cons_cons v _ ih =>
    intro i j hij
    have hindex : (indexKey i).utf8ByteSize ≤ (indexKey j).utf8ByteSize :=
      utf8ByteSize_toString_mono hij
    have := ih (i + 1) (j + 1) (by omega)
    rw [itemsSize, itemsSize]
    omega

/-- A document that the gateway makes by itself: it can be written, has no more bytes than this, and
names no cursor. -/
structure IsOwn (n : Nat) (d : Document) : Prop where
  writable : d.isWritable = true
  size : d.size ≤ n
  noCursor : d.get? "cursor" = none

/-- `IsOwn` is kept if more bytes are allowed. -/
theorem IsOwn.mono {n n' : Nat} {d : Document} (h : IsOwn n d) (hn : n ≤ n') : IsOwn n' d :=
  ⟨h.writable, Nat.le_trans h.size hn, h.noCursor⟩

/-- `IsOwn` is kept by a field behind all others, within the bytes of that field. -/
theorem IsOwn.concat {n k : Nat} {d : Document} {key : String} {v : Value} (h : IsOwn n d)
    (hkey : Bson.isTerminable key = true) (hne : key ≠ "cursor") (hv : v.isWritable = true)
    (hsize : key.utf8ByteSize + v.size + 2 ≤ k) :
    IsOwn (n + k) (d ++ [(key, v)]) where
  writable := by
    have hd : Bson.fieldsWritable d = true := h.writable
    simp [Document.isWritable, Bson.fieldsWritable_append, Bson.fieldsWritable, hd, hkey, hv]
  size := by
    have hd := h.size
    rw [Document.size] at hd ⊢
    rw [Bson.fieldsSize_append, Bson.fieldsSize, Bson.fieldsSize]
    omega
  noCursor := by
    have hd : List.lookup "cursor" d = none := h.noCursor
    simp [Document.get?, List.lookup_append, hd, List.lookup_cons,
      beq_eq_false_iff_ne.mpr (Ne.symm hne)]

/-- `IsOwn` is kept by a field in front, within the bytes of that field. -/
theorem IsOwn.cons {n k : Nat} {d : Document} {key : String} {v : Value} (h : IsOwn n d)
    (hkey : Bson.isTerminable key = true) (hne : key ≠ "cursor") (hv : v.isWritable = true)
    (hsize : key.utf8ByteSize + v.size + 2 ≤ k) :
    IsOwn (n + k) ((key, v) :: d) where
  writable := by
    have hd : Bson.fieldsWritable d = true := h.writable
    simp [Document.isWritable, Bson.fieldsWritable, hd, hkey, hv]
  size := by
    have hd := h.size
    rw [Document.size] at hd ⊢
    rw [Bson.fieldsSize]
    omega
  noCursor := by rw [Document.get?_cons, if_neg (Ne.symm hne), h.noCursor]

/-- The document of a code `IsOwn`, with 96 bytes besides the text. -/
theorem ErrorCode.isOwn_document (c : ErrorCode) {n : Nat} {text : String}
    (h : text.utf8ByteSize ≤ n) : IsOwn (n + 96) (c.document text) where
  writable := by
    simp [ErrorCode.document, Document.isWritable, Bson.fieldsWritable, Value.isWritable,
      Bson.isTerminable]
  size := by
    have hname : c.name.utf8ByteSize ≤ 32 := by cases c <;> decide
    simp only [ErrorCode.document, Document.size, Bson.fieldsSize, Value.size]
    have : "ok".utf8ByteSize + "errmsg".utf8ByteSize + "code".utf8ByteSize +
        "codeName".utf8ByteSize ≤ 20 := by decide
    omega
  noCursor := rfl

/-- The document of an error that `IsBrief` is the gateway's own. -/
theorem ServerError.IsBrief.isOwn_document {n : Nat} {e : ServerError} (h : e.IsBrief n) :
    IsOwn (n + 160) e.document := by
  obtain ⟨code, text, rfl, htext⟩ := h
  exact code.isOwn_document htext

/-! ### The innermost layer -/

namespace ServerInfo

/-- The bytes that a gateway has to tell about itself and a client. -/
def ownSize (i : ServerInfo) (c : Client) : Nat :=
  i.version.utf8ByteSize + i.hostname.utf8ByteSize + c.addrText.utf8ByteSize +
    (connectionStatus c).size

variable (i : ServerInfo)

/-- `handshake` repeats compressors of the request at most. -/
theorem isOwn_handshake (now : Nat) {requested : List String} {n : Nat}
    (h : (Value.array (requested.map Value.string)).size ≤ n) :
    IsOwn (n + 320) (i.handshake now requested) := by
  rw [handshake]
  -- all fields but the last are the same for all clients
  generalize hfixed : [("ismaster", Value.boolean true), _, _, _, _, _, _, _, _, _] = fixed
  have hown : IsOwn 300 fixed := by
    subst hfixed
    refine ⟨by simp [Document.isWritable, Bson.fieldsWritable, Value.isWritable, Bson.isTerminable],
      ?_, rfl⟩
    exact Nat.le_of_ble_eq_true rfl
  split
  · rw [List.append_nil]
    exact hown.mono (by omega)
  · have hsize : (Value.array ((i.negotiate requested).map Value.string)).size ≤
        (Value.array (requested.map Value.string)).size :=
      Bson.size_le_of_sublist (List.filter_sublist.map Value.string)
    have hkey : "compression".utf8ByteSize ≤ 11 := by decide
    refine (hown.concat (k := n + 20) (by simp [Bson.isTerminable]) (by decide) ?_ (by omega)).mono
      (by omega)
    rw [Bson.isWritable_array_iff]
    simp [Value.isWritable]

/-- `connectionStatus` is the gateway's own, at its own size. -/
theorem isOwn_connectionStatus (c : Client) :
    IsOwn (connectionStatus c).size (connectionStatus c) := by
  -- each name stands in a document of its own
  have hnamed (key : String) (hkey : Bson.isTerminable key = true) (names : List String) :
      (named key names).isWritable = true := by
    rw [named, Bson.isWritable_array_iff]
    simp only [List.mem_map]
    rintro _ ⟨name, -, rfl⟩
    have hdb : Bson.isTerminable "db" = true := by simp [Bson.isTerminable]
    simp [Value.isWritable, Bson.fieldsWritable, hkey, hdb]
  refine ⟨?_, Nat.le_refl _, rfl⟩
  simp only [connectionStatus, Document.isWritable, Bson.fieldsWritable,
    hnamed "user" (by simp [Bson.isTerminable]), hnamed "role" (by simp [Bson.isTerminable])]
  simp [Bson.isTerminable, Value.isWritable]

/-- `plainOk` is the gateway's own. -/
theorem isOwn_plainOk : IsOwn 32 plainOk where
  writable := by
    simp [plainOk, Document.isWritable, Bson.fieldsWritable, Value.isWritable, Bson.isTerminable]
  size := by decide
  noCursor := rfl

/-- A success that tells one text is the gateway's own. -/
theorem isOwn_told {key : String} (hkey : Bson.isTerminable key = true) (hne : key ≠ "cursor")
    (hsize : key.utf8ByteSize ≤ 16) (text : String) :
    IsOwn (text.utf8ByteSize + 64) [(key, .string text), ("ok", .int32 1)] :=
  (isOwn_plainOk.cons (k := text.utf8ByteSize + 32) hkey hne rfl (by rw [Value.size]; omega)).mono
    (by omega)

/-- `buildInfo` tells the version. -/
theorem isOwn_buildInfo : IsOwn (i.version.utf8ByteSize + 320) i.buildInfo where
  writable := by
    simp [buildInfo, Document.isWritable, Bson.fieldsWritable, Value.isWritable, Bson.isTerminable]
  size := by
    have hkeys : "bits".utf8ByteSize + "debug".utf8ByteSize + "version".utf8ByteSize +
        "maxBsonObjectSize".utf8ByteSize +
      "ok".utf8ByteSize ≤ 64 := by decide
    simp only [buildInfo, Document.size, Bson.fieldsSize, Value.size]
    omega
  noCursor := rfl

/-- `hostInfo` tells the name of the host. -/
theorem isOwn_hostInfo : IsOwn (i.hostname.utf8ByteSize + 320) i.hostInfo where
  writable := by
    simp [hostInfo, Document.isWritable, Bson.fieldsWritable, Value.isWritable, Bson.isTerminable]
  size := by
    have hkeys : "system".utf8ByteSize + "hostname".utf8ByteSize + "cpuAddrSize".utf8ByteSize +
        "os".utf8ByteSize +
      "extra".utf8ByteSize + "ok".utf8ByteSize ≤ 64 := by decide
    simp only [hostInfo, Document.size, Bson.fieldsSize, Value.size]
    omega
  noCursor := rfl

/-- `terminal` answers with a document of the gateway's own, or with an error that repeats the name
of the command. -/
theorem isOwn_terminal {σ : Type} {s : Scene σ} {command : Command} {client : Client} {n : Nat}
    (hs : s.Carries command client) (hname : command.name.utf8ByteSize ≤ n)
    (hcompressors : ∀ names, command.kind = .isMaster names →
      (Value.array (names.map Value.string)).size ≤ n) :
    (∃ e, (i.terminal s).1 = .failure e ∧ e.IsBrief n) ∨
      ∃ d, (i.terminal s).1 = .response d ∧ IsOwn (n + 320 + i.ownSize client) d := by
  obtain rfl := hs.client
  rw [ownSize]
  unfold terminal
  split
  case h_1 | h_8 => exact .inr ⟨_, rfl, isOwn_plainOk.mono (by omega)⟩
  case h_2 requested hkind =>
    exact .inr ⟨_, rfl,
      (i.isOwn_handshake _ (hcompressors requested (hs.kind ▸ hkind))).mono (by omega)⟩
  case h_3 => exact .inr ⟨_, rfl, i.isOwn_buildInfo.mono (by omega)⟩
  case h_4 => exact .inr ⟨_, rfl, i.isOwn_hostInfo.mono (by omega)⟩
  case h_5 =>
    exact .inr ⟨_, rfl,
      (isOwn_told (by simp [Bson.isTerminable]) (by decide) (by decide) _).mono (by omega)⟩
  case h_6 =>
    have htold : IsOwn (i.hostname.utf8ByteSize + 64) [("hostname", .string i.hostname),
        ("ok", .int32 1)] :=
      isOwn_told (by simp [Bson.isTerminable]) (by decide) (by decide) _
    exact .inr ⟨_, rfl,
      (htold.cons (k := 32) (by simp [Bson.isTerminable]) (by decide) rfl (by decide)).mono
        (by omega)⟩
  case h_7 => exact .inr ⟨_, rfl, (isOwn_connectionStatus _).mono (by omega)⟩
  case h_9 =>
    exact .inr ⟨_, rfl,
      (isOwn_told (by simp [Bson.isTerminable]) (by decide) (by decide) _).mono (by omega)⟩
  -- a command that is not for the gateway itself is refused, and quoted
  case h_10 =>
    refine .inl ⟨_, rfl, ?_⟩
    rw [hs.name]
    exact ServerError.isBrief_quote _ hname (by decide)

end ServerInfo

end DocGateway
