import DocGateway.Bytes.LittleEndian
import DocGateway.Bytes.Slice
import DocGateway.Text.Utf8
/-!
# Elements as they lie in the bytes

A document on the wire is its own length, elements one after another, and a zero byte. An element
is a type tag, a key that ends in a zero byte, and a payload whose length the tag and the first
bytes of the payload tell. `document?` checks the frame of a document and leaves the elements with
the zero byte. `Step.next` tells what comes next among them: a payload is not looked into, and it
may reach into the zero byte, after which there is no orderly end.

* `length_split?`      an element and what follows it are shorter than what they were cut from
* `length_next`        so they are when the element is what comes next
* `length_document?`   elements are shorter than the document that holds them
-/

namespace DocGateway.Bson

/-- The type tags of elements. -/
inductive Tag where
  | double | string | document | array | binary | undefined | objectId | boolean | dateTime | null
  | regex | dbPointer | code | symbol | codeWithScope | int32 | timestamp | int64 | decimal128
  | minKey | maxKey
deriving DecidableEq, Repr

namespace Tag

/-- The byte that stands for a tag. -/
def byte : Tag → UInt8
  | double => 0x01
  | string => 0x02
  | document => 0x03
  | array => 0x04
  | binary => 0x05
  | undefined => 0x06
  | objectId => 0x07
  | boolean => 0x08
  | dateTime => 0x09
  | null => 0x0A
  | regex => 0x0B
  | dbPointer => 0x0C
  | code => 0x0D
  | symbol => 0x0E
  | codeWithScope => 0x0F
  | int32 => 0x10
  | timestamp => 0x11
  | int64 => 0x12
  | decimal128 => 0x13
  | minKey => 0xFF
  | maxKey => 0x7F

/-- All tags. -/
def all : List Tag :=
  [double, string, document, array, binary, undefined, objectId, boolean, dateTime, null, regex,
    dbPointer, code, symbol, codeWithScope, int32, timestamp, int64, decimal128, minKey, maxKey]

/-- The tag that a byte stands for. -/
def ofByte? (b : UInt8) : Option Tag := all.find? (·.byte == b)

/-- `ofByte?` finds the tag by its `byte`. -/
theorem ofByte?_byte (t : Tag) : ofByte? t.byte = some t := by cases t <;> decide

end Tag

/-- The length that the first four bytes announce, if it is not negative. -/
def announced? (bs : List UInt8) : Option Nat := do
  let (head, _) ← Slice.split? 4 bs
  let n := (LittleEndian.toInt32 head).toInt
  if n < 0 then none else some n.toNat

/-- The length of the payload of an element with this tag that starts here. -/
def Tag.payloadLength? (t : Tag) (bs : List UInt8) : Option Nat :=
  match t with
  | .undefined | .null | .minKey | .maxKey => some 0
  | .boolean => some 1
  | .int32 => some 4
  | .double | .dateTime | .timestamp | .int64 => some 8
  | .objectId => some 12
  | .decimal128 => some 16
  | .string | .code | .symbol => (announced? bs).map (4 + ·)
  | .document | .array | .codeWithScope => announced? bs
  | .binary => (announced? bs).map (5 + ·)
  | .dbPointer => (announced? bs).map (16 + ·)
  | .regex => do
    let (pattern, rest) ← Slice.cstring? bs
    let (options, _) ← Slice.cstring? rest
    some (pattern.length + options.length + 2)

/-- A tag, a key and the bytes of a value. -/
structure Element where
  tag : Tag
  key : String
  payload : List UInt8
deriving DecidableEq, Repr

/-- Cuts the first element off. -/
def Element.split? : List UInt8 → Option (Element × List UInt8)
  | [] => none
  | b :: bs => do
    let tag ← Tag.ofByte? b
    let (keyBytes, rest) ← Slice.cstring? bs
    let key ← Utf8.decode? keyBytes
    let length ← tag.payloadLength? rest
    let (payload, rest) ← Slice.split? length rest
    some (⟨tag, key, payload⟩, rest)

/-- What comes next among the elements of a document. -/
inductive Step where
  | done
  | element (e : Element) (rest : List UInt8)
  | broken
deriving DecidableEq, Repr

/-- What comes next: the zero byte at the end, or an element. -/
def Step.next (bs : List UInt8) : Step :=
  if bs = [0] then .done
  else
    match Element.split? bs with
    | some (e, rest) => .element e rest
    | none => .broken

/-- The elements of a document with the zero byte after them, if the frame is whole: the announced
length is that of the bytes, and the last byte is zero. -/
def document? (bs : List UInt8) : Option (List UInt8) := do
  let length ← announced? bs
  let (_, rest) ← Slice.split? 4 bs
  if length = rest.length + 4 ∧ rest.getLast? = some 0 then some rest else none

/-- `split?` takes more than the payload of the element. -/
theorem length_split? {bs rest : List UInt8} {e : Element}
    (h : Element.split? bs = some (e, rest)) :
    e.payload.length + rest.length < bs.length := by
  cases bs with
  | nil => simp [Element.split?] at h
  | cons b bs =>
    simp only [Element.split?, Option.bind_eq_bind, Option.bind_eq_some_iff, Option.some.injEq,
      Prod.mk.injEq, Prod.exists] at h
    obtain ⟨t, _, kb, r₁, hk, k, _, n, _, p, r₂, hp, rfl, rfl⟩ := h
    -- the tag, the key and its zero, and the payload are cut off
    have hk' := (Slice.cstring?_eq_some hk).2
    have hp' := (Slice.split?_eq_some hp).2
    simp only [List.length_cons, hk', hp', List.length_append]
    omega

/-- `next` takes more than the payload of the element. -/
theorem length_next {bs rest : List UInt8} {e : Element} (h : Step.next bs = .element e rest) :
    e.payload.length + rest.length < bs.length := by
  simp only [Step.next] at h
  split at h
  · simp at h
  · split at h
    · rename_i hs
      obtain ⟨rfl, rfl⟩ := Step.element.inj h
      exact length_split? hs
    · simp at h

/-- `announced?` is the number in the first four bytes, if it is not negative. -/
theorem announced?_eq_some_iff {bs : List UInt8} {n : Nat} :
    announced? bs = some n ↔ 4 ≤ bs.length ∧ (LittleEndian.toInt32 (bs.take 4)).toInt = n := by
  by_cases h : bs.length < 4
  · simp [announced?, Slice.split?_eq_none.mpr h]; omega
  · have h : 4 ≤ bs.length := by omega
    simp only [announced?, Slice.split?_of_le h, Option.bind_eq_bind, Option.bind_some, h, true_and]
    split
    · simp only [reduceCtorEq, false_iff]; omega
    · rw [Option.some.injEq]; omega

/-- `document?` reads a whole frame: four bytes that announce all of it, and elements that end in a
zero byte. -/
theorem document?_eq_some_iff {bs elements : List UInt8} :
    document? bs = some elements ↔
      ∃ head, bs = head ++ elements ∧ head.length = 4 ∧
        (LittleEndian.toInt32 head).toInt = bs.length ∧ elements.getLast? = some 0 := by
  by_cases h : bs.length < 4
  · have hs : document? bs = none := by simp [document?, Slice.split?_eq_none.mpr h]
    simp only [hs, reduceCtorEq, false_iff, not_exists, not_and]
    rintro head rfl hhead
    simp at h; omega
  · have h : 4 ≤ bs.length := by omega
    simp only [document?, Slice.split?_of_le h, Option.bind_eq_bind, Option.bind_some,
      Option.bind_eq_some_iff, announced?_eq_some_iff, List.length_drop]
    constructor
    · rintro ⟨n, ⟨-, hn⟩, hif⟩
      split at hif
      · rename_i hc
        obtain rfl := Option.some.inj hif
        exact ⟨bs.take 4, (List.take_append_drop 4 bs).symm, by simp; omega, by omega, hc.2⟩
      · simp at hif
    -- the length is in front of the elements, and counts itself
    · rintro ⟨head, rfl, hhead, hlen, hlast⟩
      have htake : (head ++ elements).take 4 = head := by simp [← hhead]
      have hdrop : (head ++ elements).drop 4 = elements := by simp [← hhead]
      refine ⟨(head ++ elements).length, ⟨h, by rw [htake, hlen]⟩, ?_⟩
      rw [hdrop, if_pos ⟨by omega, hlast⟩]

/-- `document?` takes the four bytes of the length off. -/
theorem length_document? {bs elements : List UInt8} (h : document? bs = some elements) :
    elements.length + 4 = bs.length := by
  simp only [document?, Option.bind_eq_bind, Option.bind_eq_some_iff, Prod.exists] at h
  obtain ⟨n, _, head, rest, hs, h⟩ := h
  split at h
  · obtain rfl := Option.some.inj h
    have hs' := Slice.split?_eq_some hs
    rw [hs'.2, List.length_append, hs'.1]
    omega
  · simp at h

end DocGateway.Bson
