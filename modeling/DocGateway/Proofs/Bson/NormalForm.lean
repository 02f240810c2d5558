import DocGateway.Bson.Decode
import DocGateway.Proofs.Bson.Settled
/-!
# What is read is settled

Whatever bytes a document is read from, nothing is left in it that would be read as something else:
typed keys have become values, repeated keys are merged, options are in order. The bytes need not
have been written by `Document.bytes`.

## Key results

- `readFields_cases`, `readItems_cases`: what comes of the next element
- `isSettled_of_leaf?`, `isSettled_of_value?`: values without others in them, and those that typed
  keys spell
- `Document.isSettled_of_decode?`: documents
-/

namespace DocGateway.Bson

/-! ### Values without others in them -/

/-- `leaf?` gives settled values: the only ones that could differ are regular expressions, whose
options it sorts. -/
theorem isSettled_of_leaf? {tag : Tag} {payload : List UInt8} {v : Value}
    (h : leaf? tag payload = some v) : v.isSettled = true := by
  -- tag by tag; only those are opened whose payload can be refused
  cases tag with
  | string | code | symbol =>
    obtain ⟨s, -, rfl⟩ := Option.map_eq_some_iff.mp h
    rfl
  | binary =>
    simp only [leaf?, Option.bind_eq_bind, Option.bind_eq_some_iff] at h
    obtain ⟨⟨head, rest⟩, -, h⟩ := h
    split at h
    · cases h
    · split at h
      · simp only [Option.bind_eq_some_iff] at h
        obtain ⟨inner, -, ⟨head, bytes⟩, -, h⟩ := h
        split at h
        · cases h; rfl
        · cases h
      · cases h; rfl
  | boolean =>
    simp only [leaf?] at h
    split at h
    · cases h; rfl
    · cases h; rfl
    · cases h
  | regex =>
    simp only [leaf?, Option.bind_eq_bind, Option.bind_eq_some_iff] at h
    obtain ⟨⟨p, rest⟩, -, ⟨o, rest⟩, -, pattern, -, options, -, h⟩ := h
    cases h
    exact beq_iff_eq.mpr (sortOptions_sortOptions options)
  | dbPointer =>
    simp only [leaf?, Option.bind_eq_bind, Option.bind_eq_some_iff] at h
    obtain ⟨⟨ns, id⟩, -, name, -, h⟩ := h
    cases h; rfl
  | document | array | codeWithScope => cases h
  | _ => cases h; rfl

/-- What a typed key spells is settled. -/
theorem isSettled_of_value? {key : TypedKey} {b : Content} {v : Value} (h : key.value? b = some v) :
    v.isSettled = true := by
  cases key with
  -- the options of an expression are put in order when they are read
  | regularExpression =>
    simp only [TypedKey.value?, Option.bind_eq_bind, Option.bind_eq_some_iff] at h
    obtain ⟨parts, -, p, -, pattern, -, o, -, options, -, h⟩ := h
    cases h
    exact beq_iff_eq.mpr (sortOptions_sortOptions options)
  | oid | symbol | date =>
    obtain ⟨s, -, rfl⟩ := Option.map_eq_some_iff.mp h
    rfl
  | code | scope => cases h
  | _ =>
    simp only [TypedKey.value?, Option.bind_eq_bind, Option.bind_eq_some_iff] at h
    grind [Value.isSettled]

/-! ### Steps -/

/-- How `readFields` goes on: to the end of the document, with the next element, or with what a
typed key spells. -/
theorem readFields_cases {bytes : List UInt8} {soFar : Document} {v : Value}
    (h : readFields bytes soFar = some v) :
    (Step.next bytes = .done ∧ v = .document soFar) ∨
      ∃ e rest, Step.next bytes = .element e rest ∧
        ((TypedKey.ofName? e.key = none ∧
            ∃ w, readValue e.tag e.payload = some w ∧
            readFields rest (soFar.insert e.key w) = some v) ∨
          (∃ key, TypedKey.ofName? e.key = some key ∧ key.value? (Content.ofElement e) = some v) ∨
          (∃ source, v = .code source) ∨
          ∃ source scope payload, payload.length < bytes.length ∧
            readValue .document payload = some (.document scope) ∧
            v = .codeWithScope source scope) := by
  rw [readFields] at h
  split at h
  · rename_i hnext
    exact .inl ⟨hnext, (Option.some.inj h).symm⟩
  · cases h  -- no element and not the end
  · rename_i e rest hnext
    have hlen := length_next hnext
    refine .inr ⟨e, rest, hnext, ?_⟩
    -- the first key decides: code, its scope, another typed value, or a field
    split at h
    · -- code: alone, or with a scope behind it
      split at h
      · cases h
      · rename_i source hsource
        split at h
        · exact .inr (.inr (.inl ⟨source, (Option.some.inj h).symm⟩))
        · cases h
        · rename_i s rest' hnext'
          have hlen' := length_next hnext'
          split at h
          · split at h
            · rename_i scope hscope
              exact .inr (.inr (.inr
                ⟨source, scope, s.payload, by omega, hscope, (Option.some.inj h).symm⟩))
            · cases h
          · cases h
    · -- a scope, which needs its code behind it
      split at h
      · split at h
        · rename_i scope hscope
          split at h
          · split at h
            · obtain ⟨source, -, hv⟩ := Option.map_eq_some_iff.mp h
              exact .inr (.inr (.inr ⟨source, scope, e.payload, by omega, hscope, hv.symm⟩))
            · cases h
          · cases h
        · cases h
      · cases h
    · -- another typed key: what it spells is the value
      rename_i key _ _ hkey
      exact .inr (.inl ⟨key, hkey, h⟩)
    · -- a field, and on with the elements behind it
      rename_i hkey
      split at h
      · rename_i w hw
        exact .inl ⟨hkey, w, hw, h⟩
      · cases h

/-- How `readItems` goes on: to the end of the array, or with the next item. -/
theorem readItems_cases {bytes : List UInt8} {soFar : List Value} {v : Value}
    (h : readItems bytes soFar = some v) :
    (Step.next bytes = .done ∧ v = .array soFar.reverse) ∨
      ∃ e rest w, Step.next bytes = .element e rest ∧ readValue e.tag e.payload = some w ∧
        readItems rest (w :: soFar) = some v := by
  rw [readItems] at h
  -- the bytes end, cannot be split, or start with an element
  split at h
  · rename_i hnext
    exact .inl ⟨hnext, (Option.some.inj h).symm⟩
  · cases h
  · rename_i e rest hnext
    split at h
    · rename_i w hw
      exact .inr ⟨e, rest, w, hnext, hw, h⟩
    · cases h

/-! ### Values at any depth -/

mutual

/-- What `readFields` makes of settled fields and the elements behind them is settled. -/
theorem isSettled_of_readFields {bytes : List UInt8} {soFar : Document} {v : Value}
    (hs : fieldsSettled soFar = true) (h : readFields bytes soFar = some v) :
    v.isSettled = true := by
  obtain ⟨-, rfl⟩ | ⟨e, rest, hnext, hcases⟩ := readFields_cases h
  · exact hs
  · have hlen := length_next hnext
    obtain ⟨hkey, w, hw, hrest⟩ | ⟨key, -, hv⟩ | ⟨source, rfl⟩ |
      ⟨source, scope, payload, hp, hscope, rfl⟩ := hcases
    -- a field like any other, of which the key spells nothing
    · exact isSettled_of_readFields (fieldsSettled_insert hs hkey (isSettled_of_readValue hw)) hrest
    · exact isSettled_of_value? hv
    · rfl
    · have hset : (Value.document scope).isSettled = true := isSettled_of_readValue hscope
      exact hset
termination_by bytes.length

/-- What `readItems` makes of settled items and the elements behind them is settled. -/
theorem isSettled_of_readItems {bytes : List UInt8} {soFar : List Value} {v : Value}
    (hs : ∀ w ∈ soFar, w.isSettled = true) (h : readItems bytes soFar = some v) :
    v.isSettled = true := by
  obtain ⟨-, rfl⟩ | ⟨e, rest, w, hnext, hw, hrest⟩ := readItems_cases h
  -- the items so far are held in reverse
  · rw [Value.isSettled, itemsSettled_iff]
    exact fun w hw => hs w (List.mem_reverse.mp hw)
  · have hlen := length_next hnext
    refine isSettled_of_readItems (fun x hx => ?_) hrest
    cases hx with
    | head => exact isSettled_of_readValue hw
    | tail _ hx => exact hs x hx
termination_by bytes.length

/-- `readValue` gives settled values, whatever the bytes. -/
theorem isSettled_of_readValue {tag : Tag} {payload : List UInt8} {v : Value}
    (h : readValue tag payload = some v) : v.isSettled = true := by
  cases tag with
  -- what is in a payload is shorter than the payload, so the three of them may go round
  | document =>
    rw [readValue_document, Option.bind_eq_some_iff] at h
    obtain ⟨elements, hdoc, h⟩ := h
    have hlen := length_document? hdoc
    exact isSettled_of_readFields rfl h
  | array =>
    rw [readValue_array, Option.bind_eq_some_iff] at h
    obtain ⟨elements, hdoc, h⟩ := h
    have hlen := length_document? hdoc
    exact isSettled_of_readItems (by simp) h
  | codeWithScope =>
    rw [readValue_codeWithScope, Option.bind_eq_some_iff] at h
    obtain ⟨⟨source, bytes⟩, hcode, h⟩ := h
    obtain ⟨scope, hscope, rfl⟩ := Option.map_eq_some_iff.mp h
    have hlen := length_codeAndScope? hcode
    have hset : (Value.document scope).isSettled = true :=
      isSettled_of_readValue (Document.decode?_eq_some_iff.mp hscope)
    exact hset
  | _ =>
    rw [readValue_of_leaf (by decide) (by decide) (by decide)] at h
    exact isSettled_of_leaf? h
termination_by payload.length

end

/-- `Document.decode?` gives settled documents, whatever the bytes. -/
theorem Document.isSettled_of_decode? {bytes : List UInt8} {d : Document}
    (h : Document.decode? bytes = some d) : d.isSettled = true :=
  isSettled_of_readValue (Document.decode?_eq_some_iff.mp h)

end DocGateway.Bson
