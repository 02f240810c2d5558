import DocGateway.Bson.Encode
/-!
# Fields of changed documents

What is found in a document after a field was put into it or taken out of it, and what the sizes of
documents have to do with what is in them.

## Key results

- `Document.get?_insert`, `Document.get?_erase`, `Document.get?_insertAll`: look-ups, key by key
- `Document.keys_insertAll`, `Document.insertAll_append_of_not_mem`: where the fields stand
- `Document.insert_comm`, `Document.erase_insert`: which changes can change places
- `Document.forall_mem_insert`, `Document.forall_mem_insertAll`: what holds of all fields
- `size_le_of_mem`, `length_le_size`: parts are no longer than the whole
- `isWritable_array_iff`: arrays can be written if their items can
-/

namespace DocGateway.Bson

namespace Document

variable (d : Document) (key : String) (v : Value)

/-! ### Look-ups -/

/-- `get?` finds the first field, or looks among the others. -/
theorem get?_cons (f : String × Value) (other : String) :
    get? (f :: d) other = if other = f.1 then some f.2 else d.get? other := by
  obtain ⟨k, w⟩ := f
  by_cases h : other = k
  · simp [get?, h]
  · simp [get?, List.lookup_cons, beq_eq_false_iff_ne.mpr h, h]

/-- `get?` after `insert`: the new value under its key, and the old one under any other. -/
theorem get?_insert (other : String) :
    (d.insert key v).get? other = if other = key then some v else d.get? other := by
  induction d with
  | nil => rw [insert, get?_cons]
  | cons f rest ih =>
    obtain ⟨k, w⟩ := f
    rw [insert]
    split
    · rename_i hk
      rw [get?_cons, get?_cons, eq_of_beq hk]
      split <;> rfl
    · rename_i hk
      rw [get?_cons, get?_cons, ih]
      -- the first field has another key, so it is looked up as before
      by_cases ho : other = k
      · subst ho
        rw [if_pos rfl, if_pos rfl, if_neg fun h => hk (beq_iff_eq.mpr h)]
      · rw [if_neg ho, if_neg ho]

/-- `insert` leaves what is under other keys. -/
theorem get?_insert_of_ne {other : String} (h : other ≠ key) :
    (d.insert key v).get? other = d.get? other := by
  rw [get?_insert, if_neg h]

/-- `insertAll` of no fields changes nothing. -/
@[simp] theorem insertAll_nil : d.insertAll [] = d := rfl

/-- `insertAll` puts its fields in one after another. -/
theorem insertAll_cons (f : String × Value) (e : Document) :
    d.insertAll (f :: e) = (d.insert f.1 f.2).insertAll e := rfl

/-- A document is not empty after `insert`. -/
theorem insert_ne_nil : d.insert key v ≠ [] := by
  cases d with
  | nil => nofun
  | cons f rest =>
    rw [insert]
    split <;> nofun

/-- A document is empty after `insertAll` only if nothing was there and nothing is put in. -/
theorem insertAll_eq_nil_iff {d e : Document} : d.insertAll e = [] ↔ d = [] ∧ e = [] := by
  induction e generalizing d with
  | nil => simp
  | cons f e ih => simp [insertAll_cons, ih, insert_ne_nil]

/-- `get?` looks in the first part, and then in the second. -/
theorem get?_append (e : Document) (other : String) :
    get? (d ++ e) other = (d.get? other).or (e.get? other) := List.lookup_append

/-- `get?` after `insertAll`: of the fields that are put in under one key, the last one stays. -/
theorem get?_insertAll (e : Document) (other : String) :
    (d.insertAll e).get? other = (get? e.reverse other).or (d.get? other) := by
  -- by induction on the fields, the last of which is put in last
  induction e generalizing d with
  | nil => rfl
  | cons f e ih =>
    rw [insertAll_cons, ih, List.reverse_cons, get?_append, Option.or_assoc, get?_insert, get?_cons]
    by_cases h : other = f.1 <;> simp [h, get?]

/-- `insertAll` leaves what is under other keys. -/
theorem get?_insertAll_of_ne {e : Document} {other : String} (h : ∀ f ∈ e, f.1 ≠ other) :
    (d.insertAll e).get? other = d.get? other := by
  induction e generalizing d with
  | nil => rfl
  | cons f e ih =>
    rw [insertAll_cons, ih _ fun g hg => h g (List.mem_cons_of_mem _ hg),
      get?_insert_of_ne d f.1 f.2 (h f List.mem_cons_self).symm]

/-- `get?` after `erase`: nothing under the key, and the old value under any other. -/
theorem get?_erase (other : String) :
    (d.erase key).get? other = if other = key then none else d.get? other := by
  induction d with
  | nil => simp [erase, get?]
  | cons f rest ih =>
    rw [erase] at ih
    rw [erase, List.filter_cons]
    -- the first field stays, or has the key that is taken out
    split
    · rename_i hk
      rw [get?_cons, ih, get?_cons]
      by_cases ho : other = f.1
      · rw [if_pos ho, if_pos ho, if_neg fun h => bne_iff_ne.mp hk (ho.symm.trans h)]
      · rw [if_neg ho, if_neg ho]
    · rename_i hk
      have hf : f.1 = key := by simpa using hk
      rw [ih, get?_cons, hf]
      split <;> rfl

/-- `erase` leaves what is under other keys. -/
theorem get?_erase_of_ne {other : String} (h : other ≠ key) :
    (d.erase key).get? other = d.get? other := by
  rw [get?_erase, if_neg h]

variable {d key} in
/-- `erase` of a key that is not there changes nothing. -/
theorem erase_of_not_mem (h : key ∉ d.map (·.1)) : d.erase key = d :=
  List.filter_eq_self.mpr fun _ hf => bne_iff_ne.mpr fun heq => h (heq ▸ List.mem_map_of_mem hf)

/-- What `get?` finds is one of the fields. -/
theorem mem_of_get? {d : Document} {key : String} {v : Value} (h : d.get? key = some v) :
    (key, v) ∈ d := by
  induction d with
  | nil => cases h
  | cons f rest ih =>
    obtain ⟨k, w⟩ := f
    rw [get?_cons] at h
    split at h
    · rename_i hk
      obtain rfl : key = k := hk
      cases h
      exact List.mem_cons_self
    · exact List.mem_cons_of_mem _ (ih h)

/-- `get?` finds each field of a document without repeated keys. -/
theorem get?_of_mem_of_nodup {d : Document} (hnodup : (d.map (·.1)).Nodup) {key : String}
    {v : Value} (h : (key, v) ∈ d) :
    d.get? key = some v := by
  induction d with
  | nil => cases h
  | cons f rest ih =>
    rw [List.map_cons, List.nodup_cons] at hnodup
    rw [get?_cons]
    obtain rfl | h := List.mem_cons.mp h
    · rw [if_pos rfl]
    · have hne : key ≠ f.1 := fun heq => hnodup.1 (heq ▸ List.mem_map_of_mem h)
      rw [if_neg hne, ih hnodup.2 h]

/-- Without repeated keys it makes no difference from which end `get?` looks. -/
theorem get?_reverse_of_nodup {d : Document} (hnodup : (d.map (·.1)).Nodup) (key : String) :
    get? d.reverse key = d.get? key := by
  have hreverse : (d.reverse.map (·.1)).Nodup := by
    rw [List.map_reverse]
    exact List.pairwise_reverse.mpr (hnodup.imp Ne.symm)
  -- each key occurs once, so looking up is membership, which has no order
  cases h : d.get? key with
  | some v => exact get?_of_mem_of_nodup hreverse (List.mem_reverse.mpr (mem_of_get? h))
  | none =>
    cases hv : get? d.reverse key with
    | none => rfl
    | some v =>
      rw [get?_of_mem_of_nodup hnodup (List.mem_reverse.mp (mem_of_get? hv))] at h
      cases h

/-- `get?` finds nothing under a key that is not there. -/
theorem get?_eq_none_of_not_mem {d : Document} {key : String} (h : key ∉ d.map (·.1)) :
    d.get? key = none := by
  cases hv : d.get? key with
  | none => rfl
  | some v => exact absurd (List.mem_map_of_mem (mem_of_get? hv)) h

/-- `getString?` finds the texts that `get?` finds. -/
theorem getString?_eq_some_iff {d : Document} {key s : String} :
    d.getString? key = some s ↔ d.get? key = some (.string s) := by
  unfold getString?
  cases d.get? key with
  | none => simp
  | some v => cases v <;> simp

/-- `getDocument?` finds the documents that `get?` finds. -/
theorem getDocument?_eq_some_iff {d e : Document} {key : String} :
    d.getDocument? key = some e ↔ d.get? key = some (.document e) := by
  unfold getDocument?
  cases d.get? key with
  | none => simp
  | some v => cases v <;> simp

/-- What `getDocument?` finds, `get?` finds. -/
theorem get?_of_getDocument? {d e : Document} {key : String} (h : d.getDocument? key = some e) :
    d.get? key = some (.document e) :=
  getDocument?_eq_some_iff.mp h

/-- What `getArray?` finds, `get?` finds. -/
theorem get?_of_getArray? {d : Document} {key : String} {items : List Value}
    (h : d.getArray? key = some items) :
    d.get? key = some (.array items) := by
  unfold getArray? at h
  split at h
  · cases h; assumption
  · cases h

/-! ### The order of the fields -/

/-- The keys after `insert`: a key stays where it is, and a new one comes last. -/
theorem keys_insert : (d.insert key v).map (·.1) =
      if key ∈ d.map (·.1) then d.map (·.1) else d.map (·.1) ++ [key] := by
  induction d with
  | nil => rfl
  | cons f rest ih =>
    obtain ⟨k, w⟩ := f
    rw [insert]
    -- a field with the key keeps its place
    by_cases hk : k = key
    · subst hk
      simp
    · have hmem : key ∈ ((k, w) :: rest).map (·.1) ↔ key ∈ rest.map (·.1) := by
        simp [Ne.symm hk]
      rw [if_neg (by simpa using hk), List.map_cons, ih]
      simp only [hmem]
      split <;> simp

/-- The keys after `insertAll`: those that were there stay where they are, and the new ones come
after them, in the order in which they are first put in. -/
theorem keys_insertAll (e : Document) :
    (d.insertAll e).map (·.1) = d.map (·.1) ++
      ((e.map (·.1)).filter (· ∉ d.map (·.1))).eraseDups := by
  -- by induction on the fields, with each one's key already among the keys for the next
  induction e generalizing d with
  | nil => simp
  | cons f e ih =>
    rw [insertAll_cons, ih, keys_insert, List.map_cons, List.filter_cons]
    by_cases hmem : f.1 ∈ d.map (·.1)
    · rw [if_pos hmem, if_neg (by simpa using hmem)]
    · have hrest (k : String) : decide (k ∉ d.map (·.1) ++ [f.1]) =
          (!k == f.1 && decide (k ∉ d.map (·.1))) := by
        rw [Bool.eq_iff_iff]
        simp [and_comm]
      rw [if_neg hmem, if_pos (by simpa using hmem), List.eraseDups_cons, List.filter_filter]
      simp only [hrest, List.append_assoc, List.singleton_append]

variable {d key} in
/-- `insert` of a key that is not in the first part goes to the second. -/
theorem insert_append_of_not_mem (h : key ∉ d.map (·.1)) (e : Document) :
    insert (d ++ e) key v = d ++ e.insert key v := by
  induction d with
  | nil => rfl
  | cons f rest ih =>
    obtain ⟨k, w⟩ := f
    rw [List.map_cons, List.mem_cons, not_or] at h
    rw [List.cons_append, insert, if_neg (by simpa using Ne.symm h.1), ih h.2, List.cons_append]

variable {d key} in
/-- `insert` puts a new key last. -/
theorem insert_of_not_mem (h : key ∉ d.map (·.1)) : d.insert key v = d ++ [(key, v)] := by
  have happend := insert_append_of_not_mem v h []
  rwa [List.append_nil] at happend

variable {d key} in
/-- Two calls of `insert` change places, if the key of one of them is there already. -/
theorem insert_comm {other : String} (hne : key ≠ other) (hkey : key ∈ d.map (·.1)) (w : Value) :
    (d.insert key v).insert other w = (d.insert other w).insert key v := by
  induction d with
  | nil => cases hkey
  | cons f rest ih =>
    obtain ⟨k, x⟩ := f
    by_cases hk : k = key
    · subst hk
      simp [insert, hne]
    · by_cases ho : k = other
      · subst ho
        simp [insert, hk]
      -- both keys go further in, and the first one is there
      · have hrest : key ∈ rest.map (·.1) := by
          rw [List.map_cons, List.mem_cons] at hkey
          exact hkey.resolve_left (Ne.symm hk)
        simp [insert, hk, ho, ih hrest]

/-- `erase` and `insert` change places, under different keys. -/
theorem erase_insert {other : String} (hne : key ≠ other) :
    (d.insert key v).erase other = (d.erase other).insert key v := by
  induction d with
  | nil => simp [insert, erase, hne]
  | cons f rest ih =>
    obtain ⟨k, x⟩ := f
    unfold erase at ih ⊢
    -- `insert` stops at its key, which is not the one that is taken out
    by_cases hk : k = key
    · subst hk
      simp [insert, hne]
    · by_cases ho : k = other
      · subst ho
        simp [insert, hk, ih]
      · simp [insert, hk, ho, ih]

variable {d} in
/-- `insertAll` of keys that are not in the first part goes to the second. -/
theorem insertAll_append_of_not_mem {e : Document} (h : ∀ f ∈ e, f.1 ∉ d.map (·.1))
    (d' : Document) :
    insertAll (d ++ d') e = d ++ d'.insertAll e := by
  induction e generalizing d' with
  | nil => rfl
  | cons f e ih =>
    rw [insertAll_cons, insertAll_cons, insert_append_of_not_mem _ (h f List.mem_cons_self),
      ih fun g hg => h g (List.mem_cons_of_mem _ hg)]

/-- `ofFields` keeps fields without repeated keys as they are. -/
theorem ofFields_of_nodup {e : Document} (h : (e.map (·.1)).Nodup) : ofFields e = e := by
  induction e with
  | nil => rfl
  | cons f e ih =>
    rw [List.map_cons, List.nodup_cons] at h
    have hfirst : ofFields (f :: e) = insertAll ([f] ++ []) e := rfl
    rw [hfirst, insertAll_append_of_not_mem (fun g hg hmem => h.1 ?_), ← ofFields, ih h.2]
    · rfl
    · rw [List.map_singleton, List.mem_singleton] at hmem
      exact hmem ▸ List.mem_map_of_mem hg

/-! ### The first key -/

/-- `insert` leaves the first key of a document that has one. -/
theorem firstKey?_insert_of_some {d : Document} {name : String} (h : d.firstKey? = some name) :
    (d.insert key v).firstKey? = some name := by
  cases d with
  | nil => cases h
  | cons f rest =>
    obtain ⟨k, w⟩ := f
    rw [insert]
    split <;> exact h

/-- `erase` leaves the first key unless it is the one that is taken out. -/
theorem firstKey?_erase_of_some {d : Document} {name : String} (h : d.firstKey? = some name)
    (hne : name ≠ key) :
    (d.erase key).firstKey? = some name := by
  cases d with
  | nil => cases h
  | cons f rest =>
    obtain rfl : f.1 = name := Option.some.inj h
    rw [erase, List.filter_cons, if_pos (bne_iff_ne.mpr hne)]
    rfl

/-! ### All fields -/

variable {P : String × Value → Prop} {d key v}

/-- What holds of the fields and of a new one holds after `insert`. -/
theorem forall_mem_insert (hd : ∀ f ∈ d, P f) (hv : P (key, v)) : ∀ f ∈ d.insert key v, P f := by
  induction d with
  | nil => simpa [insert] using hv
  | cons f rest ih =>
    obtain ⟨k, w⟩ := f
    rw [insert]
    split
    · rename_i hk
      obtain rfl := eq_of_beq hk
      exact List.forall_mem_cons.mpr ⟨hv, fun f hf => hd f (List.mem_cons_of_mem _ hf)⟩
    · exact List.forall_mem_cons.mpr ⟨hd _ List.mem_cons_self, ih fun f hf =>
        hd f (List.mem_cons_of_mem _ hf)⟩

/-- What holds of the fields and of all new ones holds after `insertAll`. -/
theorem forall_mem_insertAll {e : Document} (hd : ∀ f ∈ d, P f) (he : ∀ f ∈ e, P f) :
    ∀ f ∈ d.insertAll e, P f := by
  induction e generalizing d with
  | nil => exact hd
  | cons f e ih =>
    exact ih (forall_mem_insert hd (he f List.mem_cons_self)) fun g hg =>
      he g (List.mem_cons_of_mem _ hg)

end Document

/-! ### Sizes -/

/-- A field is no longer than its document, which has seven bytes more at least. -/
theorem size_le_of_mem {d : Document} {key : String} {v : Value} (h : (key, v) ∈ d) :
    key.utf8ByteSize + v.size + 7 ≤ d.size := by
  -- five bytes more frame the document; what is left is a bound for the fields
  suffices hfields : key.utf8ByteSize + v.size + 2 ≤ fieldsSize d by
    rw [Document.size]
    omega
  induction d with
  | nil => cases h
  | cons f rest ih =>
    obtain ⟨k, w⟩ := f
    rw [fieldsSize]
    obtain heq | hrest := List.mem_cons.mp h
    · cases heq
      omega
    · have := ih hrest
      omega

/-- `erase` makes no document longer. -/
theorem size_erase_le (d : Document) (key : String) : (d.erase key).size ≤ d.size := by
  suffices hfields : fieldsSize (d.erase key) ≤ fieldsSize d by
    rw [Document.size, Document.size]
    omega
  -- field by field: each stays or is left out
  induction d with
  | nil => exact Nat.le_refl _
  | cons f rest ih =>
    obtain ⟨k, v⟩ := f
    rw [Document.erase] at ih
    rw [Document.erase, List.filter_cons, fieldsSize]
    split
    · rw [fieldsSize]
      omega
    · omega

/-- An item is no longer than its array. -/
theorem size_le_of_mem_array {items : List Value} {v : Value} (h : v ∈ items) :
    v.size ≤ (Value.array items).size := by
  -- an item moves to the front when the first is left out, so the place is any
  suffices hitems : ∀ i, v.size ≤ itemsSize i items by
    rw [Value.size]
    have := hitems 0
    omega
  induction items with
  | nil => cases h
  | cons w rest ih =>
    intro i
    rw [itemsSize]
    obtain rfl | hrest := List.mem_cons.mp h
    · omega
    · have := ih hrest (i + 1)
      omega

/-- An array has as many bytes as items at least. -/
theorem length_le_size (items : List Value) : items.length ≤ (Value.array items).size := by
  suffices hitems : ∀ i, items.length ≤ itemsSize i items by
    rw [Value.size]
    have := hitems 0
    omega
  induction items with
  | nil => exact fun _ => Nat.zero_le _
  | cons w rest ih =>
    intro i
    rw [itemsSize, List.length_cons]
    have := ih (i + 1)
    omega

/-- `fieldsSize` of two parts is the sum of those of both. -/
theorem fieldsSize_append (d e : Document) : fieldsSize (d ++ e) = fieldsSize d + fieldsSize e := by
  induction d with
  | nil => simp [fieldsSize]
  | cons f rest ih =>
    obtain ⟨k, v⟩ := f
    rw [List.cons_append, fieldsSize, fieldsSize, ih]
    omega

/-! ### What can be written -/

/-- Two parts can be written if each of them can. -/
theorem fieldsWritable_append (d e : Document) :
    fieldsWritable (d ++ e) = (fieldsWritable d && fieldsWritable e) := by
  induction d with
  | nil => rfl
  | cons f rest ih =>
    obtain ⟨k, v⟩ := f
    simp [fieldsWritable, ih, Bool.and_assoc]

/-- `isWritable` holds of an array if it holds of each item. -/
theorem isWritable_array_iff {items : List Value} :
    (Value.array items).isWritable = true ↔ ∀ v ∈ items, v.isWritable = true := by
  rw [Value.isWritable]
  induction items with
  | nil => simp [itemsWritable]
  | cons v rest ih => simp [itemsWritable, ih]

end DocGateway.Bson
