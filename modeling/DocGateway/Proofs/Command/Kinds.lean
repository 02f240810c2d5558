import DocGateway.Command.Registry
/-!
# Names and kinds of commands

The kind of a command is fixed when it is parsed, by its first key. The document that belongs to it
can change afterwards.

## Key results

- `Command.kindOf_of_parse`, `CommandRegistry.parse_eq_ok_iff`: what it takes to be a command
- `Command.kindOf_names_cursors`: the commands that name cursors, by their names
- `Command.mem_cursorIds_iff`, `Command.cursorId?_eq_some_iff`: which cursors they name
-/

namespace DocGateway

open Bson (Document Value)

/-- The edits are applied to the document, the first one first. -/
def Bson.Document.edited (edits : List (Document → Document)) (d : Document) : Document :=
  edits.foldl (fun d f => f d) d

/-- The field `cursors` is an array of integers only, and `id` is one of them. -/
def ListsCursor (d : Document) (id : Int64) : Prop :=
  ∃ (items : List Value) (ids : List Int64), d.get? "cursors" = some (.array items) ∧
    items.map Value.toInt64? = ids.map some ∧ id ∈ ids

/-- The field `getMore` is the integer `id`. -/
def ContinuesCursor (d : Document) (id : Int64) : Prop :=
  ∃ v, d.get? "getMore" = some v ∧ v.toInt64? = some id

/-- `mapM` succeeds exactly if every item is an integer. -/
theorem mapM_toInt64?_eq_some_iff {items : List Value} {ids : List Int64} :
    items.mapM Value.toInt64? = some ids ↔ items.map Value.toInt64? = ids.map some := by
  induction items generalizing ids with
  | nil => cases ids <;> simp
  | cons item items ih =>
    cases ids with
    | nil => simp [List.mapM_cons, Option.bind_eq_some_iff]
    | cons id ids => simp [List.mapM_cons, Option.bind_eq_some_iff, ih]

namespace Command

/-- `mapDocument` for each of the edits. -/
def edited (edits : List (Document → Document)) (c : Command) : Command :=
  edits.foldl (fun c f => c.mapDocument f) c

/-- `edited` keeps the kind. -/
@[simp] theorem kind_edited (edits : List (Document → Document)) (c : Command) :
    (c.edited edits).kind = c.kind := by
  induction edits generalizing c with
  | nil => rfl
  | cons f edits ih => exact ih (c.mapDocument f)

/-- `edited` edits the document. -/
@[simp] theorem document_edited (edits : List (Document → Document)) (c : Command) :
    (c.edited edits).document = c.document.edited edits := by
  induction edits generalizing c with
  | nil => rfl
  | cons f edits ih => exact ih (c.mapDocument f)

/-! ### Parsing -/

/-- `parse` keeps the document, and the kind is `kindOf` its first key. -/
theorem kindOf_of_parse {d : Document} {c : Command} (h : parse d = .ok c) :
    c.document = d ∧ ∃ name, d.firstKey? = some name ∧ kindOf name d = .ok c.kind := by
  rw [parse] at h
  split at h
  · rename_i name hname
    cases hkind : kindOf name d with
    | error e => simp [hkind, Except.map] at h
    | ok kind =>
      simp only [hkind, Except.map, Except.ok.injEq] at h
      subst h
      exact ⟨rfl, name, hname, hkind⟩
  · cases h

/-- `kindOf` gives `killCursors` and `getMore` under these names only. -/
theorem kindOf_names_cursors {name : String} {d : Document} {kind : CommandKind}
    (h : kindOf name d = .ok kind) :
    (kind = .killCursors ↔ name = "killCursors") ∧ (kind = .getMore ↔ name = "getMore") := by
  unfold kindOf at h
  split at h
  -- the names for which a field is read, each by how that may fail
  case h_3 | h_5 =>
    split at h
    · cases h
      simp
    · cases h
  case h_4 =>
    cases hlisted : listedCursors d with
    | error e => simp [hlisted, Except.map] at h
    | ok ids =>
      simp only [hlisted, Except.map, Except.ok.injEq] at h
      subst h
      simp
  case h_7 | h_8 | h_9 =>
    cases hrequested : requestedCompressors d with
    | error e => simp [hrequested, Except.map] at h
    | ok names =>
      simp only [hrequested, Except.map, Except.ok.injEq] at h
      subst h
      simp
  all_goals cases h; simp_all

/-! ### The cursors that a command names -/

/-- `listedCursors` are the items of the array in `cursors`, if all are integers. -/
theorem listedCursors_eq_ok_iff {d : Document} {ids : List Int64} :
    listedCursors d = .ok ids ↔ ∃ items, d.get? "cursors" = some (.array items) ∧
      items.map Value.toInt64? = ids.map some := by
  rw [listedCursors]
  -- the list is read as a whole, or there is none
  split
  · rename_i items hitems
    rw [hitems]
    cases hids : items.mapM Value.toInt64? with
    | none => simp [← mapM_toInt64?_eq_some_iff, hids]
    | some ids' => simp [← mapM_toInt64?_eq_some_iff, hids]
  · rename_i hnone
    constructor
    · nofun
    · rintro ⟨items, hitems, -⟩
      exact absurd hitems (hnone items)

/-- The `cursorIds` of a `killCursors` command are those that its document `ListsCursor`. -/
theorem mem_cursorIds_iff {c : Command} (hkind : c.kind = .killCursors) {id : Int64} :
    id ∈ c.cursorIds ↔ ListsCursor c.document id := by
  have hids : c.cursorIds = (listedCursors c.document).toOption.getD [] := by rw [cursorIds, hkind]
  rw [hids]
  cases hlisted : listedCursors c.document with
  -- where `listedCursors` fails there is no list of integers
  | error e =>
    constructor
    · nofun
    · rintro ⟨items, ids, hitems, hids, -⟩
      rw [listedCursors_eq_ok_iff.mpr ⟨items, hitems, hids⟩] at hlisted
      cases hlisted
  | ok ids =>
    obtain ⟨items, hitems, hids⟩ := listedCursors_eq_ok_iff.mp hlisted
    constructor
    · intro hmem
      exact ⟨items, ids, hitems, hids, hmem⟩
    · rintro ⟨items', ids', hitems', hids', hmem⟩
      have hsame := listedCursors_eq_ok_iff.mpr ⟨items', hitems', hids'⟩
      rw [hlisted, Except.ok.injEq] at hsame
      exact hsame ▸ hmem

/-- `cursorId?` is the cursor that the document of a `getMore` command `ContinuesCursor`. -/
theorem cursorId?_eq_some_iff {c : Command} {id : Int64} :
    c.cursorId? = some id ↔ c.kind = .getMore ∧ ContinuesCursor c.document id := by
  rw [cursorId?]
  split
  · simp [*, ContinuesCursor, Option.bind_eq_some_iff]
  · rename_i hkind
    constructor
    · nofun
    · rintro ⟨hgetMore, -⟩
      exact absurd hgetMore hkind

end Command

/-! ### Registered commands -/

namespace CommandRegistry

variable {registry : CommandRegistry} {d : Document} {c : Command}

/-- `CommandRegistry.parse` is `Command.parse` for the names that are registered. -/
theorem parse_eq_ok_iff :
    registry.parse d = .ok c ↔ Command.parse d = .ok c ∧ ∃ name, d.firstKey? = some name ∧
      registry.contains name = true := by
  rw [parse]
  split
  · rename_i name hname
    split <;> simp [*]
  · rename_i hnone
    simp [Command.parse, hnone]

/-- As for `Command.parse`, the kind is `Command.kindOf` the first key. -/
theorem kindOf_of_parse (h : registry.parse d = .ok c) :
    c.document = d ∧ ∃ name, d.firstKey? = some name ∧ Command.kindOf name d = .ok c.kind :=
  Command.kindOf_of_parse (parse_eq_ok_iff.mp h).1

end CommandRegistry

end DocGateway
