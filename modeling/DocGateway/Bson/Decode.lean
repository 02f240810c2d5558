import DocGateway.Bson.TypedKey
/-!
# Reading documents

`Document.decode?` reads a document from exactly its bytes. Elements are read in order; array keys
count for nothing, and a repeated key keeps its first position and its last value. As soon as an
element has a typed key, the document around it becomes the value that the key spells: what stood
before is dropped, and what comes after is not looked at. The outermost document must stay one.
-/

namespace DocGateway.Bson

/-- The value of a payload that holds no other values. -/
def leaf? (tag : Tag) (payload : List UInt8) : Option Value :=
  match tag with
  | .double => some (.double ⟨LittleEndian.toUInt64 payload⟩)
  | .string => (textOf? payload).map .string
  | .binary => do
    let (_, rest) ← Slice.split? 4 payload
    match rest with
    | [] => none
    | subtype :: bytes =>
      if subtype = 2 then do
        let inner ← announced? bytes
        let (_, bytes) ← Slice.split? 4 bytes
        if inner = bytes.length then some (.binary subtype bytes) else none
      else some (.binary subtype bytes)
  | .undefined => some .undefined
  | .objectId => some (.objectId ⟨BitVec.ofNat 96 (LittleEndian.decode payload)⟩)
  | .boolean =>
    match payload with
    | [0] => some (.boolean false)
    | [1] => some (.boolean true)
    | _ => none
  | .dateTime => some (.dateTime (LittleEndian.toInt64 payload))
  | .null => some .null
  | .regex => do
    let (pattern, rest) ← Slice.cstring? payload
    let (options, _) ← Slice.cstring? rest
    some (.regex (← Utf8.decode? pattern) (sortOptions (← Utf8.decode? options)))
  | .dbPointer => do
    let (ns, id) ← Slice.split? (payload.length - 12) payload
    some (.dbPointer (← textOf? ns) ⟨BitVec.ofNat 96 (LittleEndian.decode id)⟩)
  | .code => (textOf? payload).map .code
  | .symbol => (textOf? payload).map .symbol
  | .int32 => some (.int32 (LittleEndian.toInt32 payload))
  | .timestamp =>
    some (.timestamp (LittleEndian.toUInt32 (payload.drop 4))
      (LittleEndian.toUInt32 (payload.take 4)))
  | .int64 => some (.int64 (LittleEndian.toInt64 payload))
  | .decimal128 => some (.decimal128 ⟨BitVec.ofNat 128 (LittleEndian.decode payload)⟩)
  | .minKey => some .minKey
  | .maxKey => some .maxKey
  | .document | .array | .codeWithScope => none

/-- The source text of a code with scope, and the bytes of the scope. -/
def codeAndScope? (payload : List UInt8) : Option (String × List UInt8) := do
  let (_, rest) ← Slice.split? 4 payload
  let length ← announced? rest
  let (source, scope) ← Slice.split? (4 + length) rest
  some (← textOf? source, scope)

/-- `codeAndScope?` leaves less than it was given for the scope. -/
theorem length_codeAndScope? {payload scope : List UInt8} {source : String}
    (h : codeAndScope? payload = some (source, scope)) : scope.length < payload.length := by
  simp only [codeAndScope?, Option.bind_eq_bind, Option.bind_eq_some_iff, Option.some.injEq,
    Prod.mk.injEq, Prod.exists] at h
  obtain ⟨head, rest, hs, n, _, src, sc, hs', s, _, rfl, rfl⟩ := h
  have h₁ := Slice.split?_eq_some hs
  have h₂ := Slice.split?_eq_some hs'
  rw [h₁.2, h₂.2]
  simp only [List.length_append]
  omega

mutual

/-- Reads the elements of a document after those already read: the document, or the value that a
typed key makes of it. -/
def readFields (bytes : List UInt8) (soFar : Document) : Option Value :=
  match _h : Step.next bytes with
  | .done => some (.document soFar)
  | .broken => none
  | .element e rest =>
    match TypedKey.ofName? e.key with
    | some .code =>
      match (Content.ofElement e).text? with
      | none => none
      | some source =>
        match _h' : Step.next rest with
        | .done => some (.code source)
        | .broken => none
        | .element s _ =>
          if s.key = TypedKey.scope.name ∧ s.tag = .document then
            match readValue .document s.payload with
            | some (.document scope) => some (.codeWithScope source scope)
            | _ => none
          else none
    | some .scope =>
      if e.tag = .document then
        match readValue .document e.payload with
        | some (.document scope) =>
          match Step.next rest with
          | .element c _ =>
            if c.key = TypedKey.code.name then (Content.ofElement c).text?.map
              (.codeWithScope · scope) else none
          | _ => none
        | _ => none
      else none
    | some key => key.value? (Content.ofElement e)
    | none =>
      match readValue e.tag e.payload with
      | some v => readFields rest (soFar.insert e.key v)
      | none => none
termination_by bytes.length
decreasing_by
  all_goals have := length_next _h
  all_goals try have := length_next _h'
  all_goals omega

/-- Reads the elements of an array, whose keys count for nothing, after those already read. -/
def readItems (bytes : List UInt8) (soFar : List Value) : Option Value :=
  match _h : Step.next bytes with
  | .done => some (.array soFar.reverse)
  | .broken => none
  | .element e rest =>
    match readValue e.tag e.payload with
    | some v => readItems rest (v :: soFar)
    | none => none
termination_by bytes.length
decreasing_by
  all_goals have := length_next _h
  all_goals omega

/-- Reads a value from its payload. -/
def readValue (tag : Tag) (payload : List UInt8) : Option Value :=
  match tag with
  | .document =>
    match _h : document? payload with
    | some elements => readFields elements []
    | none => none
  | .array =>
    match _h : document? payload with
    | some elements => readItems elements []
    | none => none
  | .codeWithScope =>
    match _h : codeAndScope? payload with
    | some (source, scope) =>
      match readValue .document scope with
      | some (.document fields) => some (.codeWithScope source fields)
      | _ => none
    | none => none
  | tag => leaf? tag payload
termination_by payload.length
decreasing_by
  · have := length_document? _h; omega
  · have := length_document? _h; omega
  · exact length_codeAndScope? _h

end

/-- `readValue` of a document reads its fields. -/
theorem readValue_document (payload : List UInt8) :
    readValue .document payload = (document? payload).bind (readFields · []) := by
  rw [readValue]
  split <;> simp_all

/-- `readValue` of an array reads its items. -/
theorem readValue_array (payload : List UInt8) :
    readValue .array payload = (document? payload).bind (readItems · []) := by
  rw [readValue]
  split <;> simp_all

/-- `readValue` of a value without others in it is `leaf?`. -/
theorem readValue_of_leaf {tag : Tag} (hdoc : tag ≠ .document) (harr : tag ≠ .array)
    (hcode : tag ≠ .codeWithScope) (payload : List UInt8) :
    readValue tag payload = leaf? tag payload := by
  cases tag <;> simp_all [readValue]

/-- `readFields` at the end is the document of what was read. -/
theorem readFields_done {bytes : List UInt8} (h : Step.next bytes = .done) (soFar : Document) :
    readFields bytes soFar = some (.document soFar) := by
  rw [readFields]
  split <;> simp_all

/-- `readFields` of an element whose key spells no value goes on behind it. -/
theorem readFields_element {bytes rest : List UInt8} {e : Element}
    (h : Step.next bytes = .element e rest) (hkey : TypedKey.ofName? e.key = none)
    (soFar : Document) :
    readFields bytes soFar =
      (readValue e.tag e.payload).bind fun v => readFields rest (soFar.insert e.key v) := by
  rw [readFields]
  split
  · simp_all
  · simp_all
  · rename_i e' rest' h'
    obtain ⟨rfl, rfl⟩ := Step.element.inj (h'.symm.trans h)
    rw [hkey]
    cases readValue e'.tag e'.payload <;> rfl

/-- `readItems` at the end is the array of what was read. -/
theorem readItems_done {bytes : List UInt8} (h : Step.next bytes = .done) (soFar : List Value) :
    readItems bytes soFar = some (.array soFar.reverse) := by
  rw [readItems]
  split <;> simp_all

/-- `readItems` of an element goes on behind it, whatever its key. -/
theorem readItems_element {bytes rest : List UInt8} {e : Element}
    (h : Step.next bytes = .element e rest) (soFar : List Value) :
    readItems bytes soFar =
      (readValue e.tag e.payload).bind fun v => readItems rest (v :: soFar) := by
  rw [readItems]
  split
  · simp_all
  · simp_all
  · rename_i e' rest' h'
    obtain ⟨rfl, rfl⟩ := Step.element.inj (h'.symm.trans h)
    cases readValue e'.tag e'.payload <;> rfl

/-- The document that some bytes hold. -/
def Document.decode? (bytes : List UInt8) : Option Document :=
  match readValue .document bytes with
  | some (.document d) => some d
  | _ => none

/-- `Document.decode?` is what `readValue` makes of a document. -/
theorem Document.decode?_eq_some_iff {bytes : List UInt8} {d : Document} :
    Document.decode? bytes = some d ↔ readValue .document bytes = some (.document d) := by
  simp only [Document.decode?]
  split <;> simp_all

/-- `readValue` of code with a scope reads the scope as a document of its own. -/
theorem readValue_codeWithScope (payload : List UInt8) :
    readValue .codeWithScope payload =
      (codeAndScope? payload).bind fun p => (Document.decode? p.2).map (.codeWithScope p.1) := by
  rw [readValue]
  split
  · rename_i source scope h
    simp only [h, Option.bind_some, Document.decode?]
    cases readValue .document scope with
    | none => rfl
    | some v => cases v <;> rfl
  · simp_all

end DocGateway.Bson
