import DocGateway.Proofs.Wire.Grammar
import DocGateway.Wire.Decode
/-!
# What readers accept

A reader that succeeds has taken a piece off the front. For each reader there is one statement of
what that piece is, in both directions: `r bs = .ok (a, rest)` holds exactly if `bs` is a piece for
`a` and then `rest`.

## Key results

- `bind_eq_ok_iff`: what two readers in a row accept
- `int32_eq_ok_iff`, `cstring_eq_ok_iff`, `document_eq_ok_iff`: the parts of bodies
- `many_eq_ok_iff`: items to the last byte
- `readSection_eq_ok_iff`, `readQuery_eq_ok_iff` and the others: sections and bodies
-/

namespace DocGateway.Wire

open Bson (Document)

namespace Reader

variable {α β : Type} {what : String} {bs rest : List UInt8}

/-! ### Readers in a row -/

/-- `r >>= f` succeeds if `r` does and `f` does on what `r` leaves. -/
theorem bind_eq_ok_iff {r : Reader α} {f : α → Reader β} {b : β} :
    (r >>= f) bs = .ok (b, rest) ↔ ∃ a mid, r bs = .ok (a, mid) ∧ f a mid = .ok (b, rest) := by
  simp only [bind, StateT.bind, Except.bind]
  cases r bs with
  | error e => simp
  | ok p =>
    obtain ⟨a, mid⟩ := p
    -- the first reader has one result, so the two are tied by it
    refine ⟨fun h => ⟨a, mid, rfl, h⟩, ?_⟩
    rintro ⟨a', mid', hp, h⟩
    cases hp
    exact h

/-- `pure` gives its value, and leaves all bytes. -/
theorem pure_eq_ok_iff {a b : α} :
    (pure a : Reader α) bs = .ok (b, rest) ↔ a = b ∧ bs = rest := by
  show Except.ok (a, bs) = Except.ok (b, rest) ↔ a = b ∧ bs = rest
  simp

/-- `g <$> r` succeeds where `r` does, and leaves what `r` leaves. -/
theorem map_eq_ok_iff {r : Reader α} {g : α → β} {b : β} :
    (g <$> r) bs = .ok (b, rest) ↔ ∃ a, r bs = .ok (a, rest) ∧ g a = b := by
  simp only [Functor.map, StateT.map, bind, Except.bind, pure, Except.pure]
  cases r bs with
  | error e => simp
  | ok p =>
    obtain ⟨a, mid⟩ := p
    constructor
    · intro h
      obtain ⟨rfl, rfl⟩ := Prod.mk.inj (Except.ok.inj h)
      exact ⟨a, rfl, rfl⟩
    -- the result of the reader is the one that it is known to give
    · rintro ⟨a', hp, rfl⟩
      cases hp
      rfl

/-- `fail` never succeeds. -/
theorem fail_ne_ok {e : WireError} {b : α} : fail e bs ≠ .ok (b, rest) := by simp [fail]

/-- `get` gives the bytes that are left, and leaves them. -/
theorem get_eq_ok_iff {x : List UInt8} :
    (get : Reader (List UInt8)) bs = .ok (x, rest) ↔ x = bs ∧ rest = bs := by
  show Except.ok (bs, bs) = Except.ok (x, rest) ↔ x = bs ∧ rest = bs
  simp [eq_comm]

/-- `r.runOn bs` succeeds where `r` does on `bs`, whatever is left. -/
theorem runOn_eq_ok_iff {r : Reader α} {a : α} :
    r.runOn bs = .ok a ↔ ∃ rest, r bs = .ok (a, rest) := by
  simp only [runOn, Functor.map, Except.map]
  cases r bs with
  | error e => simp
  | ok p => obtain ⟨a, mid⟩ := p; simp

/-- `r.within content` succeeds where `r` does on `content`, and takes nothing off. -/
theorem within_eq_ok_iff {r : Reader α} {content : List UInt8} {a : α} :
    r.within content bs = .ok (a, rest) ↔ r.runOn content = .ok a ∧ bs = rest := by
  simp only [within, Functor.map, Except.map]
  cases r.runOn content <;> simp

/-! ### Words, texts and documents -/

/-- `bytes n` takes off any `n` bytes. -/
theorem bytes_eq_ok_iff {n : Nat} {p : List UInt8} :
    bytes n what bs = .ok (p, rest) ↔ p.length = n ∧ bs = p ++ rest := by
  simp only [bytes]
  constructor
  · cases hs : Slice.split? n bs with
    | none => simp
    | some cut =>
      intro h
      obtain rfl := Except.ok.inj h
      exact Slice.split?_eq_some hs
  · rintro ⟨rfl, rfl⟩
    rw [Slice.split?_append]

/-- `byte` takes off the first byte. -/
theorem byte_eq_ok_iff {b : UInt8} : byte what bs = .ok (b, rest) ↔ bs = b :: rest := by
  cases bs with
  | nil => simp [byte]
  | cons c bs => simp [byte]

/-- `int32` takes off the word that `LittleEndian.int32` writes. -/
theorem int32_eq_ok_iff {n : Int32} :
    int32 what bs = .ok (n, rest) ↔ bs = LittleEndian.int32 n ++ rest := by
  simp only [int32, map_eq_ok_iff, bytes_eq_ok_iff]
  constructor
  · rintro ⟨p, ⟨hp, rfl⟩, rfl⟩
    rw [LittleEndian.int32_toInt32 hp]
  · rintro rfl
    exact ⟨_, ⟨LittleEndian.length_int32 n, rfl⟩, LittleEndian.toInt32_int32 n⟩

/-- `uint32` takes off the word that `LittleEndian.uint32` writes. -/
theorem uint32_eq_ok_iff {n : UInt32} :
    uint32 what bs = .ok (n, rest) ↔ bs = LittleEndian.uint32 n ++ rest := by
  simp only [uint32, map_eq_ok_iff, bytes_eq_ok_iff]
  constructor
  · rintro ⟨p, ⟨hp, rfl⟩, rfl⟩
    rw [LittleEndian.uint32_toUInt32 hp]
  · rintro rfl
    exact ⟨_, ⟨LittleEndian.length_uint32 n, rfl⟩, LittleEndian.toUInt32_uint32 n⟩

/-- `int64` takes off the word that `LittleEndian.int64` writes. -/
theorem int64_eq_ok_iff {n : Int64} :
    int64 what bs = .ok (n, rest) ↔ bs = LittleEndian.int64 n ++ rest := by
  simp only [int64, map_eq_ok_iff, bytes_eq_ok_iff]
  constructor
  · rintro ⟨p, ⟨hp, rfl⟩, rfl⟩
    rw [LittleEndian.int64_toInt64 hp]
  · rintro rfl
    exact ⟨_, ⟨LittleEndian.length_int64 n, rfl⟩, LittleEndian.toInt64_int64 n⟩

/-- `cstring` takes off what `Bson.cstring` writes of a text without zero bytes. -/
theorem cstring_eq_ok_iff {s : String} :
    cstring bs = .ok (s, rest) ↔ IsTerminated s ∧ bs = Bson.cstring s ++ rest := by
  simp only [cstring, IsTerminated, Bson.cstring]
  constructor
  · intro h
    split at h
    · cases h
    · rename_i text rest' hs
      split at h
      · rename_i s' hd
        obtain ⟨rfl, rfl⟩ := Prod.mk.inj (Except.ok.inj h)
        obtain rfl := Utf8.decode?_eq_some_iff.mp hd
        -- the text ends before the first zero byte, so it has none itself
        obtain ⟨hz, rfl⟩ := Slice.cstring?_eq_some hs
        exact ⟨fun h0 => hz 0 h0 rfl, by simp⟩
      · cases h
  · rintro ⟨hs, rfl⟩
    -- no byte of the text is mistaken for its end
    have hz : ∀ b ∈ Utf8.encode s, b ≠ 0 := fun b hb h0 => hs (h0 ▸ hb)
    rw [List.append_assoc, List.singleton_append, Slice.cstring?_append hz]
    simp [Utf8.decode?_encode]

/-- The bytes of a document are five at least, and say at their start how many they are. -/
theorem length_of_isDocument {doc : List UInt8} {d : Document} (h : IsDocument doc d) :
    5 ≤ doc.length ∧ (LittleEndian.toInt32 (doc.take 4)).toInt = doc.length := by
  rw [IsDocument, Document.decode?_eq_some_iff, Bson.readValue_document,
    Option.bind_eq_some_iff] at h
  obtain ⟨elements, hdoc, -⟩ := h
  obtain ⟨head, rfl, hhead, hlen, hlast⟩ := Bson.document?_eq_some_iff.mp hdoc
  have hne : elements ≠ [] := by rintro rfl; simp at hlast
  have := List.length_pos_iff.mpr hne
  refine ⟨by simp; omega, ?_⟩
  rw [← hhead, List.take_left]
  exact hlen

/-- `document` takes off the bytes of a document. -/
theorem document_eq_ok_iff {d : Document} :
    document bs = .ok (d, rest) ↔ ∃ doc, IsDocument doc d ∧ bs = doc ++ rest := by
  constructor
  · intro h
    simp only [document, bind, Except.bind] at h
    split at h
    · cases h
    · split at h
      · cases h
      · split at h
        · cases h
        -- as many bytes are cut off as the length says
        · rename_i cut hcut
          obtain ⟨-, rfl⟩ := bytes_eq_ok_iff.mp hcut
          split at h
          · rename_i d' hd
            obtain ⟨rfl, rfl⟩ := Prod.mk.inj (Except.ok.inj h)
            exact ⟨_, hd, rfl⟩
          · cases h
  · rintro ⟨doc, hd, rfl⟩
    obtain ⟨hlen, hann⟩ := length_of_isDocument hd
    -- the length is read, but not taken off
    have hhead : bytes 4 "document length" (doc ++ rest) =
        .ok (doc.take 4, doc.drop 4 ++ rest) :=
      bytes_eq_ok_iff.mpr ⟨by simp; omega, by rw [← List.append_assoc, List.take_append_drop]⟩
    have hdoc : bytes (doc.length : Int).toNat "document" (doc ++ rest) = .ok (doc, rest) :=
      bytes_eq_ok_iff.mpr ⟨by simp, rfl⟩
    simp only [document, bind, Except.bind, hhead, hann]
    rw [if_neg (by omega), hdoc]
    simp only [IsDocument] at hd
    simp [hd]

/-- `isEmpty` says whether no byte is left, and takes nothing off. -/
theorem isEmpty_eq_ok_iff {e : Bool} :
    isEmpty bs = .ok (e, rest) ↔ bs.isEmpty = e ∧ bs = rest := by
  simp [isEmpty]

/-- `finish` succeeds exactly if no byte is left. -/
theorem finish_eq_ok_iff {u : Unit} : finish what bs = .ok (u, rest) ↔ bs = [] ∧ rest = [] := by
  cases bs with
  | nil => simp [finish, eq_comm]
  | cons b bs => simp [finish]

/-! ### Items to the last byte -/

/-- `item` accepts exactly the pieces of `piece`, none of which is empty. -/
structure Accepts (item : Reader α) (piece : List UInt8 → α → Prop) : Prop where
  eq_ok_iff : ∀ bs a rest, item bs = .ok (a, rest) ↔ ∃ p, piece p a ∧ bs = p ++ rest
  ne_nil : ∀ p a, piece p a → p ≠ []

/-- `document` accepts the bytes of documents. -/
theorem accepts_document : Accepts document IsDocument where
  eq_ok_iff _ _ _ := document_eq_ok_iff
  ne_nil p d h hp := by
    have := (length_of_isDocument h).1
    simp [hp] at this

/-- `Tiles` holds of no bytes for no items only, as no piece is empty. -/
theorem tiles_nil_iff {piece : List UInt8 → α → Prop} (hne : ∀ p a, piece p a → p ≠ [])
    {as : List α} : Tiles piece [] as ↔ as = [] := by
  constructor
  · intro h
    generalize hbs : ([] : List UInt8) = bs at h
    cases h with
    | nil => rfl
    | cons hp _ => exact absurd (List.append_eq_nil_iff.mp hbs.symm).1 (hne _ _ hp)
  · rintro rfl
    exact .nil

/-- The loop of `many` reads items to the last byte, if it may go round as often as there are
bytes. -/
private theorem loop_eq_ok_iff {item : Reader α} {piece : List UInt8 → α → Prop}
    (hitem : Accepts item piece) {n : Nat} {soFar as : List α} (hn : bs.length ≤ n) :
    many.loop item n soFar bs = .ok (as, rest) ↔
      rest = [] ∧ ∃ more, Tiles piece bs more ∧ as = soFar.reverse ++ more := by
  -- by induction on the steps that are left: an item takes a byte at least, so there are enough
  induction n generalizing soFar bs with
  | zero =>
    obtain rfl : bs = [] := List.length_eq_zero_iff.mp (by omega)
    simp [many.loop, tiles_nil_iff hitem.ne_nil, eq_comm, and_comm]
  | succ n ih =>
    rw [many.loop]
    -- at the end the items so far are given
    by_cases hbs : bs = []
    · subst hbs
      simp [tiles_nil_iff hitem.ne_nil, eq_comm, and_comm]
    rw [if_neg (by simpa using hbs)]
    constructor
    · intro h
      cases hi : item bs with
      | error e => simp [hi] at h
      | ok got =>
        obtain ⟨a, others⟩ := got
        -- one item is taken off, and the rest is read with one step less
        obtain ⟨p, hp, rfl⟩ := (hitem.eq_ok_iff _ _ _).mp hi
        have hlen := List.length_pos_iff.mpr (hitem.ne_nil _ _ hp)
        rw [List.length_append] at hn
        rw [hi] at h
        obtain ⟨rfl, more, ht, rfl⟩ := (ih (by omega)).mp h
        exact ⟨rfl, a :: more, .cons hp ht, by simp⟩
    · rintro ⟨rfl, more, ht, rfl⟩
      cases ht with
      | nil => exact absurd rfl hbs
      | @cons p others a more hp ht =>
        have hlen := List.length_pos_iff.mpr (hitem.ne_nil _ _ hp)
        rw [List.length_append] at hn
        rw [(hitem.eq_ok_iff _ _ _).mpr ⟨p, hp, rfl⟩]
        exact (ih (by omega)).mpr ⟨rfl, more, ht, by simp⟩

/-- `many item` reads items to the last byte, or fails. -/
theorem many_eq_ok_iff {item : Reader α} {piece : List UInt8 → α → Prop}
    (hitem : Accepts item piece) {as : List α} :
    many item bs = .ok (as, rest) ↔ rest = [] ∧ Tiles piece bs as := by
  rw [many, loop_eq_ok_iff hitem (Nat.le_refl _)]
  simp

end Reader

/-! ### Sections -/

open Reader

/-- `readSequence` accepts an identifier and then documents to the last byte. -/
theorem readSequence_eq_ok_iff {content : List UInt8} {s : MsgSection} :
    readSequence.runOn content = .ok s ↔
      ∃ identifier docs ds, IsTerminated identifier ∧ Tiles IsDocument docs ds ∧
        content = Bson.cstring identifier ++ docs ∧ s = .sequence identifier ds := by
  simp only [runOn_eq_ok_iff, readSequence, bind_eq_ok_iff, cstring_eq_ok_iff, map_eq_ok_iff,
    many_eq_ok_iff accepts_document]
  constructor
  · rintro ⟨_, identifier, docs, ⟨hid, rfl⟩, ds, ⟨rfl, hdocs⟩, rfl⟩
    exact ⟨identifier, docs, ds, hid, hdocs, rfl, rfl⟩
  · rintro ⟨identifier, docs, ds, hid, hdocs, rfl, rfl⟩
    exact ⟨[], identifier, docs, ⟨hid, rfl⟩, ds, ⟨rfl, hdocs⟩, rfl⟩

/-- `readSection` takes off a piece that `IsSection` describes. -/
theorem readSection_eq_ok_iff {bs rest : List UInt8} {s : MsgSection} :
    readSection bs = .ok (s, rest) ↔ ∃ p, IsSection p s ∧ bs = p ++ rest := by
  simp only [readSection, bind_eq_ok_iff, byte_eq_ok_iff]
  constructor
  · rintro ⟨kind, bs, rfl, h⟩
    -- the kind of the section: a document, several, or none that is known
    by_cases h0 : kind = 0
    · rw [if_pos h0, map_eq_ok_iff] at h
      obtain ⟨d, hd, rfl⟩ := h
      obtain ⟨doc, hdoc, rfl⟩ := document_eq_ok_iff.mp hd
      exact ⟨_, .body hdoc, by simp [h0]⟩
    by_cases h1 : kind = 1
    · rw [if_neg h0, if_pos h1] at h
      simp only [bind_eq_ok_iff, int32_eq_ok_iff, get_eq_ok_iff] at h
      obtain ⟨size, _, rfl, _, bs, ⟨rfl, rfl⟩, h⟩ := h
      split at h
      · simp only [bind_eq_ok_iff] at h
        obtain ⟨_, _, h, -⟩ := h
        exact absurd h fail_ne_ok
      -- the size is that of the content and of itself
      · rename_i hsize
        simp only [bind_eq_ok_iff, bytes_eq_ok_iff] at h
        obtain ⟨content, others, ⟨hlen, rfl⟩, h⟩ := h
        obtain ⟨hseq, rfl⟩ := within_eq_ok_iff.mp h
        obtain ⟨identifier, docs, ds, hid, hdocs, rfl, rfl⟩ := readSequence_eq_ok_iff.mp hseq
        rw [List.length_append] at hlen
        exact ⟨_, .sequence hid hdocs (by omega : size.toInt = _), by simp [h1]⟩
    · rw [if_neg h0, if_neg h1] at h
      exact absurd h fail_ne_ok
  · rintro ⟨p, hp, rfl⟩
    cases hp with
    | body hdoc =>
      -- a body is under the kind 0
      refine ⟨0, _, rfl, ?_⟩
      rw [if_pos rfl, map_eq_ok_iff]
      exact ⟨_, document_eq_ok_iff.mpr ⟨_, hdoc, rfl⟩, rfl⟩
    | @sequence size identifier docs ds hid hdocs hsize =>
      -- a sequence is under the kind 1, with its size and itself
      refine ⟨1, _, rfl, ?_⟩
      rw [if_neg (by decide), if_pos rfl]
      simp only [bind_eq_ok_iff, int32_eq_ok_iff, get_eq_ok_iff]
      refine ⟨size, _, List.append_assoc .., _, _, ⟨rfl, rfl⟩, ?_⟩
      rw [if_neg (by simp only [List.length_append] at *; omega)]
      simp only [bind_eq_ok_iff, bytes_eq_ok_iff, within_eq_ok_iff, readSequence_eq_ok_iff]
      refine ⟨_, rest, ⟨?_, rfl⟩, ⟨identifier, docs, ds, hid, hdocs, rfl, rfl⟩, rfl⟩
      rw [List.length_append]
      omega

/-- `readSection` accepts the pieces that `IsSection` describes. -/
theorem accepts_section : Accepts readSection IsSection where
  eq_ok_iff _ _ _ := readSection_eq_ok_iff
  ne_nil p s h hp := by cases h <;> simp at hp

/-! ### Bodies -/

section

variable (header : List UInt8) {body : List UInt8}

/-- `readQuery` accepts what `IsPlainBody.query` describes. -/
theorem readQuery_eq_ok_iff {q : Query} :
    readQuery.runOn body = .ok q ↔ IsPlainBody header body (.query q) := by
  simp only [runOn_eq_ok_iff, readQuery, bind_eq_ok_iff, int32_eq_ok_iff, cstring_eq_ok_iff,
    document_eq_ok_iff, isEmpty_eq_ok_iff]
  constructor
  · rintro ⟨rest, flags, _, rfl, collection, _, ⟨hname, rfl⟩, skip, _, rfl, limit, _, rfl, query, _,
      ⟨doc, hdoc, rfl⟩, e, sel, ⟨rfl, rfl⟩, h⟩
    -- there is a selector exactly if a byte is left
    split at h
    · rename_i hsel
      simp only [bind_eq_ok_iff, pure_eq_ok_iff, finish_eq_ok_iff] at h
      obtain ⟨selector, _, ⟨rfl, rfl⟩, _, _, -, rfl, -⟩ := h
      obtain rfl := List.isEmpty_iff.mp hsel
      exact .query (q := ⟨⟨flags⟩, collection, skip, limit, query, none⟩) hname hdoc .nil
    · simp only [bind_eq_ok_iff, pure_eq_ok_iff, finish_eq_ok_iff, map_eq_ok_iff,
        document_eq_ok_iff] at h
      obtain ⟨selector, _, ⟨d, ⟨doc', hd, rfl⟩, rfl⟩, _, _, ⟨rfl, -⟩, rfl, -⟩ := h
      exact .query (q := ⟨⟨flags⟩, collection, skip, limit, query, some d⟩) hname hdoc
        (.cons hd .nil)
  · intro h
    cases h with
    | @query q query selector hname hdoc hsel =>
    refine ⟨[], _, _, rfl, _, _, ⟨hname, rfl⟩, _, _, rfl, _, _, rfl, _, _, ⟨_, hdoc, rfl⟩,
      _, _, ⟨rfl, rfl⟩, ?_⟩
    obtain ⟨flags, collection, skip, limit, d, sel⟩ := q
    cases sel with
    | none =>
      obtain rfl : selector = [] := by cases hsel; rfl
      rw [List.isEmpty_nil, if_pos rfl]
      simp only [bind_eq_ok_iff, pure_eq_ok_iff, finish_eq_ok_iff]
      exact ⟨_, _, ⟨rfl, rfl⟩, (), _, ⟨rfl, rfl⟩, rfl, rfl⟩
    -- a document is never empty, so the reader looks for it
    | some d' =>
      obtain ⟨doc, hd, rfl⟩ : ∃ doc, IsDocument doc d' ∧ selector = doc ++ [] := by
        cases hsel with
        | cons hd hnil => cases hnil; exact ⟨_, hd, rfl⟩
      rw [if_neg (by simpa using accepts_document.ne_nil _ _ hd)]
      simp only [bind_eq_ok_iff, pure_eq_ok_iff, finish_eq_ok_iff, map_eq_ok_iff,
        document_eq_ok_iff]
      exact ⟨_, _, ⟨d', ⟨doc, hd, rfl⟩, rfl⟩, (), _, ⟨rfl, rfl⟩, rfl, rfl⟩

/-- `readGetMore` accepts what `IsPlainBody.getMore` describes. -/
theorem readGetMore_eq_ok_iff {g : GetMore} :
    readGetMore.runOn body = .ok g ↔ IsPlainBody header body (.getMore g) := by
  simp only [runOn_eq_ok_iff, readGetMore, bind_eq_ok_iff, int32_eq_ok_iff, int64_eq_ok_iff,
    cstring_eq_ok_iff, finish_eq_ok_iff, pure_eq_ok_iff]
  -- the reader's steps are the parts of the body, in both directions
  constructor
  · rintro ⟨rest, flags, _, rfl, collection, _, ⟨hname, rfl⟩, limit, _, rfl, id, _, rfl, _, _,
      ⟨rfl, rfl⟩, rfl, rfl⟩
    rw [List.append_nil]
    exact .getMore (g := ⟨flags, collection, limit, id⟩) hname
  · intro h
    cases h with
    | getMore hname =>
    exact ⟨[], _, _, rfl, _, _, ⟨hname, rfl⟩, _, _, rfl, _, [], (List.append_nil _).symm, (), _,
      ⟨rfl, rfl⟩, rfl, rfl⟩

/-- `cursorIds n` takes off what `cursorIdsBytes` writes of `n` ids. -/
theorem cursorIds_eq_ok_iff {n : Nat} {bs rest : List UInt8} {ids : List Int64} :
    cursorIds n bs = .ok (ids, rest) ↔ ids.length = n ∧ bs = cursorIdsBytes ids ++ rest := by
  -- by induction on the count, as the numbers are read
  induction n generalizing bs rest ids with
  | zero =>
    simp only [cursorIds, pure_eq_ok_iff, List.length_eq_zero_iff]
    constructor
    · rintro ⟨rfl, rfl⟩
      exact ⟨rfl, rfl⟩
    · rintro ⟨rfl, rfl⟩
      exact ⟨rfl, rfl⟩
  | succ n ih =>
    simp only [cursorIds, bind_eq_ok_iff, int64_eq_ok_iff, pure_eq_ok_iff, ih]
    constructor
    · rintro ⟨id, _, rfl, ids, _, ⟨rfl, rfl⟩, rfl, rfl⟩
      exact ⟨rfl, by simp [cursorIdsBytes]⟩
    · rintro ⟨hlen, rfl⟩
      cases ids with
      | nil => simp at hlen
      | cons id ids =>
        refine ⟨id, _, ?_, ids, _, ⟨by simpa using hlen, rfl⟩, rfl, rfl⟩
        simp [cursorIdsBytes]

/-- `readKillCursors` accepts what `IsPlainBody.killCursors` describes. -/
theorem readKillCursors_eq_ok_iff {k : KillCursors} :
    readKillCursors.runOn body = .ok k ↔ IsPlainBody header body (.killCursors k) := by
  simp only [runOn_eq_ok_iff, readKillCursors, bind_eq_ok_iff, int32_eq_ok_iff, get_eq_ok_iff]
  constructor
  · rintro ⟨rest, reserved, _, rfl, count, _, rfl, bs, _, ⟨rfl, rfl⟩, h⟩
    split at h
    · simp only [bind_eq_ok_iff] at h
      obtain ⟨_, _, h, -⟩ := h
      exact absurd h fail_ne_ok
    · rename_i hcount
      simp only [bind_eq_ok_iff, cursorIds_eq_ok_iff, finish_eq_ok_iff, pure_eq_ok_iff] at h
      obtain ⟨ids, _, ⟨hlen, rfl⟩, _, _, ⟨rfl, rfl⟩, rfl, rfl⟩ := h
      rw [List.append_nil]
      -- the count is that of the ids that were read
      exact .killCursors (k := ⟨ids⟩) (by simp only [hlen]; omega)
  · intro h
    cases h with
    | @killCursors k reserved count hcount =>
    refine ⟨[], reserved, _, rfl, count, _, rfl, _, _, ⟨rfl, rfl⟩, ?_⟩
    rw [if_neg (by simp only [length_cursorIdsBytes]; omega)]
    simp only [bind_eq_ok_iff, cursorIds_eq_ok_iff, finish_eq_ok_iff, pure_eq_ok_iff]
    exact ⟨k.cursorIds, [], ⟨by omega, (List.append_nil _).symm⟩, (), _, ⟨rfl, rfl⟩, rfl, rfl⟩

/-- `readReply` accepts what `IsPlainBody.reply` describes. -/
theorem readReply_eq_ok_iff {r : Reply} :
    readReply.runOn body = .ok r ↔ IsPlainBody header body (.reply r) := by
  simp only [runOn_eq_ok_iff, readReply, bind_eq_ok_iff, int32_eq_ok_iff, int64_eq_ok_iff,
    many_eq_ok_iff accepts_document, pure_eq_ok_iff]
  constructor
  · rintro ⟨rest, flags, _, rfl, id, _, rfl, startingFrom, _, rfl, count, _, rfl, ds, _,
      ⟨rfl, hdocs⟩, rfl, rfl⟩
    exact .reply (r := ⟨flags, id, startingFrom, ds⟩) hdocs
  · intro h
    cases h with
    | @reply r count docs hdocs =>
    exact ⟨[], _, _, rfl, _, _, rfl, _, _, rfl, count, _, rfl, _, _, ⟨rfl, hdocs⟩, rfl, rfl⟩

/-- Bytes are cut four before their end, so that the last four are apart. -/
private theorem take_drop_four (covered : List UInt8) {tail : List UInt8} (h : tail.length = 4) :
    (covered ++ tail).take ((covered ++ tail).length - 4) = covered ∧
      (covered ++ tail).drop ((covered ++ tail).length - 4) = tail := by
  have hlen : (covered ++ tail).length - 4 = covered.length := by simp [h]
  rw [hlen, List.take_left, List.drop_left]
  exact ⟨rfl, rfl⟩

/-- `sectionBytes` gives what is left without the flags and without a checksum that is right. -/
theorem sectionBytes_eq_ok_iff {header : List UInt8} {flags : MsgFlags}
    {content sections : List UInt8} :
    sectionBytes header (LittleEndian.uint32 flags.bits ++ content) flags = .ok sections ↔
      content = sections ++
        checksumBytes flags (header ++ (LittleEndian.uint32 flags.bits ++ sections)) := by
  have hdrop (cs : List UInt8) : (LittleEndian.uint32 flags.bits ++ cs).drop 4 = cs := by
    rw [← LittleEndian.length_uint32 flags.bits, List.drop_left]
  by_cases hflag : flags.checksumPresent
  · simp only [sectionBytes, checksumBytes, hflag, ↓reduceIte]
    by_cases hlen : content.length < 4
    · rw [if_pos (by rw [List.length_append, LittleEndian.length_uint32]; omega)]
      simp only [reduceCtorEq, false_iff]
      rintro rfl
      rw [List.length_append, LittleEndian.length_uint32] at hlen
      omega
    · rw [if_neg (by rw [List.length_append, LittleEndian.length_uint32]; omega)]
      -- the last four bytes are the checksum, whatever they are
      obtain ⟨ss, tail, rfl, htail⟩ : ∃ ss tail, content = ss ++ tail ∧ tail.length = 4 :=
        ⟨content.take (content.length - 4), content.drop (content.length - 4),
          (List.take_append_drop _ _).symm, by rw [List.length_drop]; omega⟩
      obtain ⟨htake, hrest⟩ := take_drop_four (LittleEndian.uint32 flags.bits ++ ss) htail
      rw [← List.append_assoc, htake, hrest, hdrop]
      constructor
      · intro h
        split at h
        · cases h
        · rename_i hsum
          obtain rfl := Except.ok.inj h
          -- the checksum is that of all before it, and is spelled by its four bytes
          rw [← Decidable.not_not.mp hsum, LittleEndian.uint32_toUInt32 htail]
      · intro h
        obtain ⟨rfl, rfl⟩ := List.append_inj' h (by simp [htail])
        rw [LittleEndian.toUInt32_uint32, if_neg (not_not_intro rfl)]
  · simp only [sectionBytes, checksumBytes, hflag, Bool.false_eq_true, ↓reduceIte, hdrop,
      List.append_nil, Except.ok.injEq]

/-- `readMsg` accepts what `IsPlainBody.msg` describes. -/
theorem readMsg_eq_ok_iff {header : List UInt8} {m : Msg} :
    readMsg header body = .ok m ↔ IsPlainBody header body (.msg m) := by
  constructor
  · intro h
    simp only [readMsg, bind, Except.bind] at h
    split at h
    · cases h
    · rename_i flags hflags
      simp only [runOn_eq_ok_iff, uint32_eq_ok_iff] at hflags
      -- the flags are the first four bytes
      obtain ⟨content, rfl⟩ := hflags
      split at h
      · cases h
      · rename_i sections hsections
        split at h
        · cases h
        · rename_i ss hss
          obtain rfl := Except.ok.inj h
          simp only [runOn_eq_ok_iff, many_eq_ok_iff accepts_section] at hss
          obtain ⟨_, rfl, htiles⟩ := hss
          rw [sectionBytes_eq_ok_iff.mp hsections]
          exact .msg (m := ⟨⟨flags⟩, ss⟩) htiles
  · intro h
    cases h with
    | @msg m sections htiles =>
    -- both ways: the flags, the checksum, and sections to the last byte before it
    have hflags : (uint32 "message flags").runOn (LittleEndian.uint32 m.flags.bits ++ (sections ++
        checksumBytes m.flags (header ++ (LittleEndian.uint32 m.flags.bits ++ sections)))) =
          .ok m.flags.bits :=
      runOn_eq_ok_iff.mpr ⟨_, uint32_eq_ok_iff.mpr rfl⟩
    have hss : (many readSection).runOn sections = .ok m.sections :=
      runOn_eq_ok_iff.mpr ⟨[], (many_eq_ok_iff accepts_section).mpr ⟨rfl, htiles⟩⟩
    simp only [readMsg, bind, Except.bind, hflags, sectionBytes_eq_ok_iff.mpr rfl, hss]
    rfl

/-- `readEnvelopeHead` takes off an opcode, a size and a byte for the compressor. -/
theorem readEnvelopeHead_eq_ok_iff {bs payload : List UInt8} {opcode size : Int32} {id : UInt8} :
    readEnvelopeHead bs = .ok ((opcode, size, id), payload) ↔
      bs = LittleEndian.int32 opcode ++ (LittleEndian.int32 size ++ (id :: payload)) := by
  simp only [readEnvelopeHead, bind_eq_ok_iff, int32_eq_ok_iff, byte_eq_ok_iff, pure_eq_ok_iff]
  constructor
  · rintro ⟨_, _, rfl, _, _, rfl, _, _, rfl, h, rfl⟩
    simp only [Prod.mk.injEq] at h
    obtain ⟨rfl, rfl, rfl⟩ := h
    rfl
  · rintro rfl
    exact ⟨_, _, rfl, _, _, rfl, _, _, rfl, rfl, rfl⟩

end

end DocGateway.Wire
