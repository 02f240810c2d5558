import DocGateway.Bson.Encode
/-!
# Settled documents

Reading changes a document that spells a typed value, repeats a key or has regular expression
options out of order. One where nothing of the kind is left at any depth is settled.

## Key results

- `isTerminable_iff`: a string can end in a zero byte exactly if it has none in it
- `sortOptions_sortOptions`: options are in order once they are sorted
- `fieldsSettled_insert`: inserting keeps a document settled
- `insert_of_contains_eq_false`: a new key goes to the end
-/

namespace DocGateway.Bson

/-! ### Texts that end in a zero byte -/

/-- `isTerminable` says that no byte of the text is zero. -/
theorem isTerminable_iff (s : String) : isTerminable s = true ↔ 0 ∉ Utf8.encode s := by
  simp [isTerminable, String.contains_char_eq, Utf8.zero_mem_encode_iff]

/-- `Slice.cstring?` undoes `cstring` on texts that can end in a zero byte. -/
theorem cstring?_cstring {s : String} (h : isTerminable s = true) (rest : List UInt8) :
    Slice.cstring? (cstring s ++ rest) = some (Utf8.encode s, rest) := by
  have hz : ∀ b ∈ Utf8.encode s, b ≠ 0 := fun b hb h0 => (isTerminable_iff s).mp h (h0 ▸ hb)
  rw [cstring, List.append_assoc, List.singleton_append, Slice.cstring?_append hz]

/-! ### Regular expression options -/

/-- `sortOptions` brings in no zero byte. -/
theorem isTerminable_sortOptions (options : String) :
    isTerminable (sortOptions options) = isTerminable options := by
  simp [isTerminable, String.contains_char_eq, sortOptions]

/-- `sortOptions` leaves sorted options as they are. -/
theorem sortOptions_sortOptions (options : String) :
    sortOptions (sortOptions options) = sortOptions options := by
  -- what is in order is left alone by sorting
  have hsorted : (options.toList.mergeSort (· ≤ ·)).Pairwise (decide <| · ≤ ·) := by
    apply List.pairwise_mergeSort
    · intro a b c hab hbc
      simp only [decide_eq_true_eq] at *
      exact Char.le_trans hab hbc
    · intro a b
      simpa using Char.le_total a b
  rw [sortOptions, sortOptions, String.toList_ofList, List.mergeSort_of_pairwise hsorted]

/-! ### Settled documents -/

mutual

/-- Whether a value is read as it stands. -/
def Value.isSettled : Value → Bool
  | .document fields => fieldsSettled fields
  | .array items => itemsSettled items
  | .regex _ options => sortOptions options == options
  | .codeWithScope _ scope => fieldsSettled scope
  | _ => true

/-- Whether fields are read as they stand: no key spells a typed value, none comes again, and the
values are settled. -/
def fieldsSettled : List (String × Value) → Bool
  | [] => true
  | (key, v) :: rest =>
    (TypedKey.ofName? key).isNone && !Document.contains rest key && v.isSettled &&
      fieldsSettled rest

/-- Whether items are read as they stand. -/
def itemsSettled : List Value → Bool
  | [] => true
  | v :: rest => v.isSettled && itemsSettled rest

end

/-- Whether a document is read as it stands. -/
def Document.isSettled (d : Document) : Bool := fieldsSettled d

/-- What `fieldsSettled` asks of the first field and of the others. -/
theorem fieldsSettled_cons {key : String} {v : Value} {rest : List (String × Value)} :
    fieldsSettled ((key, v) :: rest) = true ↔
      TypedKey.ofName? key = none ∧ Document.contains rest key = false ∧ v.isSettled = true ∧
        fieldsSettled rest = true := by
  simp [fieldsSettled, and_assoc]

/-- What `itemsSettled` asks of the first item and of the others. -/
theorem itemsSettled_cons {v : Value} {rest : List Value} :
    itemsSettled (v :: rest) = true ↔ v.isSettled = true ∧ itemsSettled rest = true := by
  simp [itemsSettled]

/-- `itemsSettled` asks the same of each item. -/
theorem itemsSettled_iff (items : List Value) :
    itemsSettled items = true ↔ ∀ v ∈ items, v.isSettled = true := by
  induction items with
  | nil => simp [itemsSettled]
  | cons v rest ih => simp [itemsSettled_cons, ih]

/-! ### Insertion -/

/-- `contains` finds a key that is the first one or one of the others. -/
theorem contains_cons (f : String × Value) (d : Document) (key : String) :
    Document.contains (f :: d) key = (f.1 == key || d.contains key) := rfl

/-- `contains` finds a key that is in one of two parts. -/
theorem contains_append (d e : List (String × Value)) (key : String) :
    Document.contains (d ++ e) key = (Document.contains d key || Document.contains e key) :=
  List.any_append

/-- `insert` adds its own key and no other. -/
theorem contains_insert (d : Document) (key other : String) (v : Value) :
    (d.insert key v).contains other = (key == other || d.contains other) := by
  induction d with
  | nil => rfl
  | cons f rest ih =>
    obtain ⟨k, w⟩ := f
    rw [Document.insert]
    split
    · rename_i hk
      obtain rfl := eq_of_beq hk
      rw [contains_cons, contains_cons, ← Bool.or_assoc, Bool.or_self]
    · rw [contains_cons, contains_cons, ih, Bool.or_left_comm]

/-- `insert` puts a new key at the end. -/
theorem insert_of_contains_eq_false {d : Document} {key : String} (v : Value)
    (h : d.contains key = false) : d.insert key v = d ++ [(key, v)] := by
  induction d with
  | nil => rfl
  | cons f rest ih =>
    obtain ⟨k, w⟩ := f
    rw [contains_cons, Bool.or_eq_false_iff] at h
    rw [Document.insert, h.1, if_neg (by decide), List.cons_append, ih h.2]

/-- `insert` of a settled value under an untyped key keeps the fields settled. -/
theorem fieldsSettled_insert {d : Document} {key : String} {v : Value} (hd : fieldsSettled d = true)
    (hkey : TypedKey.ofName? key = none) (hv : v.isSettled = true) :
    fieldsSettled (d.insert key v) = true := by
  induction d with
  | nil => exact fieldsSettled_cons.mpr ⟨hkey, rfl, hv, rfl⟩
  | cons f rest ih =>
    obtain ⟨k, w⟩ := f
    obtain ⟨hk, hrest, hw, hd⟩ := fieldsSettled_cons.mp hd
    rw [Document.insert]
    split
    · exact fieldsSettled_cons.mpr ⟨hk, hrest, hv, hd⟩
    -- the new key is none of those before it, or it would have been replaced there
    · rename_i hne
      refine fieldsSettled_cons.mpr ⟨hk, ?_, hw, ih hd⟩
      rw [contains_insert, hrest, Bool.or_false, beq_eq_false_iff_ne]
      exact fun h => hne (beq_iff_eq.mpr h.symm)

/-- No key of a settled document stands before itself. -/
theorem contains_eq_false_of_fieldsSettled_append {d e : List (String × Value)} {key : String}
    {v : Value} (h : fieldsSettled (d ++ (key, v) :: e) = true) :
    Document.contains d key = false := by
  induction d with
  | nil => rfl
  | cons f rest ih =>
    obtain ⟨k, w⟩ := f
    rw [List.cons_append] at h
    obtain ⟨-, hk, -, hrest⟩ := fieldsSettled_cons.mp h
    rw [contains_append, contains_cons, Bool.or_eq_false_iff, Bool.or_eq_false_iff] at hk
    rw [contains_cons, ih hrest, Bool.or_false, beq_eq_false_iff_ne]
    exact Ne.symm (beq_eq_false_iff_ne.mp hk.2.1)

/-- The end of settled fields is settled. -/
theorem fieldsSettled_of_append {d e : List (String × Value)} (h : fieldsSettled (d ++ e) = true) :
    fieldsSettled e = true := by
  induction d with
  | nil => exact h
  | cons f rest ih => exact ih (fieldsSettled_cons.mp h).2.2.2

end DocGateway.Bson
