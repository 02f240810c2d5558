import DocGateway.Proofs.Bson.NormalForm
import DocGateway.Proofs.Wire.RoundTrip
/-!
# What is decoded stays as it is

Bytes may spell a message in more than one way, with typed keys, repeated keys, options out of
order, or numbers that count for nothing. A decoded message has nothing of the kind left in it. Once
it is written again, it is read and written as it is from then on.

## Key results

- `isSettled_of_spells`: messages that are spelled are settled
- `decode_of_encode_of_decode`: decoded messages are a fixed point
-/

namespace DocGateway.Wire

open Bson (Document)

/-- Each item has a piece of the bytes. -/
theorem exists_of_tiles {α : Type} {item : List UInt8 → α → Prop} {bs : List UInt8} {as : List α}
    (h : Tiles item bs as) {a : α} (ha : a ∈ as) : ∃ piece, item piece a := by
  induction h with
  | nil => cases ha
  | cons hitem _ ih =>
    cases ha with
    | head => exact ⟨_, hitem⟩
    | tail _ ha => exact ih ha

/-- Documents that were read one after another are settled. -/
theorem all_isSettled_of_tiles {bs : List UInt8} {ds : List Document} (h : Tiles IsDocument bs ds) :
    ds.all Document.isSettled = true := by
  rw [List.all_eq_true]
  intro d hd
  obtain ⟨doc, hdoc⟩ := exists_of_tiles h hd
  exact Document.isSettled_of_decode? hdoc

/-- A text with no zero byte in it can end in one. -/
theorem isTerminable_of_isTerminated {s : String} (h : IsTerminated s) :
    Bson.isTerminable s = true :=
  (Bson.isTerminable_iff s).mpr h

/-- What `IsPlainBody` describes is a settled body, as the texts and documents were read from
bytes. -/
theorem isSettled_of_isPlainBody {header body : List UInt8} {b : Body}
    (h : IsPlainBody header body b) :
    b.isSettled = true := by
  cases h with
  | query hname hquery hselector =>
    simp only [Body.isSettled, Body.texts, Body.documents, List.all_cons, List.all_nil,
      Bool.and_true, isTerminable_of_isTerminated hname, Document.isSettled_of_decode? hquery,
      all_isSettled_of_tiles hselector]
  | getMore hname =>
    simp only [Body.isSettled, Body.texts, Body.documents, List.all_cons, List.all_nil,
      Bool.and_true, isTerminable_of_isTerminated hname]
  | killCursors => rfl
  | reply hdocs => exact all_isSettled_of_tiles hdocs
  | @msg m sections hsections =>
    -- texts and documents of a command message are those of its sections
    simp only [Body.isSettled, Body.texts, Body.documents, Bool.and_eq_true, List.all_flatMap,
      List.all_eq_true]
    constructor
    · intro s hs t ht
      obtain ⟨piece, hpiece⟩ := exists_of_tiles hsections hs
      cases hpiece with
      | body => cases ht
      | sequence hidentifier =>
        obtain rfl := List.mem_singleton.mp ht
        exact isTerminable_of_isTerminated hidentifier
    · intro s hs d hd
      obtain ⟨piece, hpiece⟩ := exists_of_tiles hsections hs
      cases hpiece with
      | body hdoc =>
        obtain rfl := List.mem_singleton.mp hd
        exact Document.isSettled_of_decode? hdoc
      | sequence _ hdocs => exact List.all_eq_true.mp (all_isSettled_of_tiles hdocs) d hd

/-- A message that some bytes spell has a settled body, in envelopes as well. -/
theorem isSettled_of_spells {bs : List UInt8} {m : Message} (h : Spells bs m) :
    m.body.isSettled = true := by
  induction h with
  | plain _ _ hbody => exact isSettled_of_isPlainBody hbody
  | envelope _ _ _ _ _ _ ih => exact ih

/-- A message that `Message.decode` gave and `Message.encode` could write is read back as it was,
and then written to the same bytes. -/
theorem decode_of_encode_of_decode (bs : List UInt8) (m : Message) (bs' : List UInt8)
    (hdec : Message.decode bs = .ok m) (henc : m.encode = .ok bs') :
    Message.decode bs' = .ok m ∧ (Message.decode bs' >>= Message.encode) = .ok bs' := by
  have hset := isSettled_of_spells (spells_of_decode hdec)
  have hagain := decode_of_encode hset henc
  refine ⟨hagain, ?_⟩
  rw [hagain]
  exact henc

/-- `IsDocument` holds of bytes with a repeated key and options out of order. -/
private theorem isDocument_unsettled :
    IsDocument [16, 0, 0, 0, 10, 114, 0, 11, 114, 0, 112, 0, 109, 105, 0, 0]
      [("r", .regex "p" "im")] := by
  have hdoc : Bson.document? [16, 0, 0, 0, 10, 114, 0, 11, 114, 0, 112, 0, 109, 105, 0, 0] =
      some [10, 114, 0, 11, 114, 0, 112, 0, 109, 105, 0, 0] := by rfl
  have hnull : Bson.Step.next [10, 114, 0, 11, 114, 0, 112, 0, 109, 105, 0, 0] =
      .element ⟨.null, "r", []⟩ [11, 114, 0, 112, 0, 109, 105, 0, 0] := by rfl
  have hregex : Bson.Step.next [11, 114, 0, 112, 0, 109, 105, 0, 0] =
      .element ⟨.regex, "r", [112, 0, 109, 105, 0]⟩ [0] := by rfl
  have hkey : Bson.TypedKey.ofName? "r" = none := by decide
  have hnullValue : Bson.readValue .null [] = some .null := by with_unfolding_all rfl
  have hregexValue : Bson.readValue .regex [112, 0, 109, 105, 0] = some (.regex "p" "im") := by
    have hsort : Bson.sortOptions "mi" = "im" := by
      simp [Bson.sortOptions, List.mergeSort]
    rw [← hsort, Bson.readValue_of_leaf (by decide) (by decide) (by decide)]
    with_unfolding_all rfl
  -- the second element comes in place of the first, under the same key
  rw [IsDocument, Document.decode?_eq_some_iff, Bson.readValue_document, hdoc, Option.bind_some,
    Bson.readFields_element hnull hkey, hnullValue, Option.bind_some,
    Bson.readFields_element hregex hkey, hregexValue, Option.bind_some, Bson.readFields_done rfl]
  rfl

/-- A regular expression whose options are out of order is written in fewer bytes than it was read
from, and `Message.decode` gives the same for these. -/
theorem decode_of_encode_of_decode_unsettled :
    let m : Message := ⟨1, 0, .msg ⟨⟨0⟩, [.body [("r", .regex "p" "im")]]⟩⟩
    let bs : List UInt8 := [37, 0, 0, 0, 1, 0, 0, 0, 0, 0, 0, 0, 221, 7, 0, 0, 0, 0, 0, 0,
      0, 16, 0, 0, 0, 10, 114, 0, 11, 114, 0, 112, 0, 109, 105, 0, 0]
    let bs' : List UInt8 := [34, 0, 0, 0, 1, 0, 0, 0, 0, 0, 0, 0, 221, 7, 0, 0, 0, 0, 0, 0,
      0, 13, 0, 0, 0, 11, 114, 0, 112, 0, 105, 109, 0, 0]
    (Message.decode bs = .ok m ∧ m.encode = .ok bs') ∧ Message.decode bs' = .ok m ∧
      (Message.decode bs' >>= Message.encode) = .ok bs' := by
  intro m bs bs'
  have hframe : IsFrame bs ⟨37, 1, 0, 2013⟩ (bs.drop 16) := ⟨by decide, by decide, by decide⟩
  have hbody : IsPlainBody (Header.bytes ⟨37, 1, 0, 2013⟩) (bs.drop 16) m.body :=
    .msg (m := ⟨⟨0⟩, [.body [("r", .regex "p" "im")]]⟩) (.cons (.body isDocument_unsettled) .nil)
  have hdec : Message.decode bs = .ok m := decode_of_spells (.plain hframe rfl hbody)
  have hwritable : Bson.Document.isWritable [("r", .regex "p" "im")] = true := by
    simp [Bson.Document.isWritable, Bson.fieldsWritable, Bson.Value.isWritable, Bson.isTerminable]
  -- written back, the options of the expression are in order and the null before it is gone
  have hplain : m.body.plainBytes = bs'.drop 16 := by
    have hsort : Bson.sortOptions "im" = "im" := by
      simp [Bson.sortOptions, List.mergeSort]
    simp only [m, Body.plainBytes, sectionsBytes, List.flatMap_cons, List.flatMap_nil,
      MsgSection.bytes, Bson.Document.bytes, Bson.fieldsBytes, Bson.Value.bytes, hsort]
    decide +kernel
  have henc : m.encode = .ok bs' := by
    refine (encode_plain_eq_ok_iff (by decide)).mpr ⟨?_, ?_, ?_⟩
    · simpa [m, Body.documents, MsgSection.documents] using hwritable
    · rw [← Body.length_plainBytes, hplain]
      decide
    · rw [hplain]
      decide +kernel
  exact ⟨⟨hdec, henc⟩, decode_of_encode_of_decode bs m bs' hdec henc⟩

end DocGateway.Wire
