import DocGateway.Legacy.Request
import DocGateway.Proofs.Bson.Fields
import Mathlib.Data.String.Basic
/-!
# What the sections of a message make up

The command in a message starts with the fields of the first body, and each sequence puts an array
under its identifier. If there is one body, and the identifiers differ from each other and from its
keys, then the command holds all that the sections do. Otherwise something is left out without an
error: what other bodies hold, what the first body holds under an identifier, and all but the last
of several sequences with one identifier.

## Key results

- `mergeSections_eq`: errors, and the command otherwise
- `mergeSections_holds`: what is in the command, where all of it is, and that the order of the
  sections counts only among bodies and among sequences
- `mergeSections_drops`: three messages whose commands leave something out
-/

namespace DocGateway.Legacy

open Bson (Document Value)
open Wire (Msg MsgSection)

/-! ### Sections -/

/-- The bodies, in order. -/
def bodies (sections : List MsgSection) : List Document :=
  sections.filterMap fun s =>
    match s with
    | .body d => some d
    | .sequence _ _ => none

/-- The sequences, in order. -/
def sequences (sections : List MsgSection) : List (String × List Document) :=
  sections.filterMap fun s =>
    match s with
    | .body _ => none
    | .sequence identifier ds => some (identifier, ds)

/-- The fields that the command starts with. -/
def firstBody (sections : List MsgSection) : Document := (bodyOf sections).getD []

/-- The documents of all sequences with an identifier, in order. -/
def documentsUnder (sections : List MsgSection) (identifier : String) : List Document :=
  ((sequences sections).filter (·.1 == identifier)).flatMap (·.2)

/-- Documents as a value. -/
def arrayOf (ds : List Document) : Value := .array (ds.map .document)

/-- A command holds what is in the sections, and nothing else: all fields of all bodies, those of
the first body in front, and under each identifier all documents of the sequences with it. -/
structure HoldsAll (sections : List MsgSection) (command : Document) : Prop where
  field : ∀ d ∈ bodies sections, ∀ key v, d.get? key = some v → command.get? key = some v
  first : (firstBody sections).map (·.1) <+: command.map (·.1)
  sequence : ∀ s ∈ sequences sections, command.get? s.1 =
    some (arrayOf (documentsUnder sections s.1))
  only : ∀ key ∈ command.map (·.1), (∃ d ∈ bodies sections, key ∈ d.map (·.1)) ∨
    ∃ s ∈ sequences sections, s.1 = key

/-- Sections that are not in each other's way: there is one body at most, and no two things have one
key. -/
structure AreApart (sections : List MsgSection) : Prop where
  oneBody : (bodies sections).length ≤ 1
  distinct : ((sequences sections).map (·.1)).Nodup
  fresh : ∀ d ∈ bodies sections, ∀ s ∈ sequences sections, s.1 ∉ d.map (·.1)

variable {sections : List MsgSection}

/-- `bodyOf` is the first of the `bodies`. -/
theorem bodyOf_eq_head? (sections : List MsgSection) :
    bodyOf sections = (bodies sections).head? := by
  rw [bodies, List.head?_filterMap]
  rfl

/-- The first of the `bodies` is the only one. -/
theorem AreApart.bodies_eq (h : AreApart sections) :
    bodies sections = (bodyOf sections).toList := by
  rw [bodyOf_eq_head?]
  match bodies sections, h.oneBody with
  | [], _ => rfl
  | [_], _ => rfl

/-- `bodyOf` does not depend on the order of the sections, if there is one body at most. -/
theorem bodyOf_of_perm {sections' : List MsgSection} (hperm : sections'.Perm sections)
    (hone : (bodies sections).length ≤ 1) :
    bodyOf sections' = bodyOf sections := by
  have hbodies : (bodies sections').Perm (bodies sections) := hperm.filterMap _
  rw [bodyOf_eq_head?, bodyOf_eq_head?]
  match hs : bodies sections, hone with
  | [], _ => rw [hs] at hbodies; rw [hbodies.eq_nil]
  | [d], _ => rw [hs] at hbodies; rw [List.perm_singleton.mp hbodies]

/-- `documentsUnder` an identifier that is not repeated are those of one sequence. -/
theorem documentsUnder_of_nodup (h : ((sequences sections).map (·.1)).Nodup)
    {s : String × List Document} (hs : s ∈ sequences sections) :
    documentsUnder sections s.1 = s.2 := by
  rw [documentsUnder]
  generalize sequences sections = ss at h hs
  induction ss with
  | nil => cases hs
  | cons s' ss ih =>
    rw [List.map_cons, List.nodup_cons] at h
    obtain rfl | hs := List.mem_cons.mp hs
    -- no sequence behind it has the same identifier
    · have hothers : ss.filter (·.1 == s.1) = [] :=
        List.filter_eq_nil_iff.mpr fun s' hs' heq => h.1 (eq_of_beq heq ▸ List.mem_map_of_mem hs')
      simp [hothers]
    · have hne : s'.1 ≠ s.1 := fun heq => h.1 (heq ▸ List.mem_map_of_mem hs)
      rw [List.filter_cons, if_neg (by simpa using hne), ih h.2 hs]

/-! ### Merging -/

/-- The fields that sequences become. -/
def sequenceFields (sections : List MsgSection) : Document :=
  (sequences sections).map fun s => (s.1, arrayOf s.2)

/-- `sequenceFields` have the identifiers as keys. -/
theorem keys_sequenceFields (sections : List MsgSection) :
    (sequenceFields sections).map (·.1) = (sequences sections).map (·.1) := by
  rw [sequenceFields, List.map_map]
  rfl

/-- `addSection` for all sections inserts the `sequenceFields`, unless there is a dot in an
identifier. -/
theorem foldlM_addSection (sections : List MsgSection) (command : Document) :
    sections.foldlM addSection command =
      match (sequences sections).find? (·.1.contains '.') with
      | some s =>
        .error (.ofCode .commandNotSupported s!"nested document sequence identifier '{s.1}'")
      | none => .ok (command.insertAll (sequenceFields sections)) := by
  -- by induction on the sections: the first dot ends it, wherever it is
  induction sections generalizing command with
  | nil => rfl
  | cons s rest ih =>
    rw [List.foldlM_cons]
    cases s with
    | body d =>
      have hrest : sequences (.body d :: rest) = sequences rest := rfl
      rw [sequenceFields, hrest, ← sequenceFields]
      exact ih command
    | sequence identifier ds =>
      have hrest : sequences (.sequence identifier ds :: rest) =
          (identifier, ds) :: sequences rest := rfl
      rw [sequenceFields, hrest, List.find?_cons, addSection]
      cases hdot : identifier.contains '.' with
      | true => rfl
      | false => exact ih _

/-- `mergeSections` inserts the `sequenceFields` into the `firstBody`, unless there is a dot in an
identifier, or nothing to merge. -/
theorem mergeSections_eq (m : Msg) : mergeSections m =
    match (sequences m.sections).find? (·.1.contains '.') with
    | some s =>
      .error (.ofCode .commandNotSupported s!"nested document sequence identifier '{s.1}'")
    | none =>
      if firstBody m.sections = [] ∧ sequences m.sections = [] then
        .error (.ofCode .failedToParse "OP_MSG carries no command document")
      else .ok ((firstBody m.sections).insertAll (sequenceFields m.sections)) := by
  rw [mergeSections, foldlM_addSection]
  cases (sequences m.sections).find? (·.1.contains '.') with
  | some s => rfl
  | none =>
    -- nothing is merged only if there is no field to merge
    have hempty : ((firstBody m.sections).insertAll (sequenceFields m.sections)).isEmpty = true ↔
        firstBody m.sections = [] ∧ sequences m.sections = [] := by
      rw [List.isEmpty_iff, Document.insertAll_eq_nil_iff, sequenceFields, List.map_eq_nil_iff]
    simp only [bind, Except.bind, ← hempty]
    rfl

/-- The last of the `sequenceFields` with a key holds the documents of the last sequence with that
identifier. -/
theorem get?_reverse_sequenceFields (sections : List MsgSection) (key : String) :
    Document.get? (sequenceFields sections).reverse key =
      ((sequences sections).reverse.lookup key).map arrayOf := by
  rw [sequenceFields, ← List.map_reverse]
  induction (sequences sections).reverse with
  | nil => rfl
  | cons s rest ih =>
    rw [List.map_cons, Document.get?_cons, ih, List.lookup_cons]
    by_cases h : key = s.1
    · simp [h]
    · simp [h, beq_eq_false_iff_ne.mpr h]

/-! ### Sections that are apart -/

/-- No key of the `firstBody` is an identifier. -/
theorem AreApart.not_mem_firstBody (h : AreApart sections) {s : String × List Document}
    (hs : s ∈ sequences sections) :
    s.1 ∉ (firstBody sections).map (·.1) := by
  rw [firstBody]
  cases hbody : bodyOf sections with
  | none => exact List.not_mem_nil
  | some d => exact h.fresh d (by simp [h.bodies_eq, hbody]) s hs

/-- The `sequenceFields` have different keys. -/
theorem AreApart.nodup_sequenceFields (h : AreApart sections) :
    ((sequenceFields sections).map (·.1)).Nodup := by
  rw [keys_sequenceFields]
  exact h.distinct

/-- The `sequenceFields` come behind the `firstBody`. -/
theorem AreApart.insertAll_eq (h : AreApart sections) :
    (firstBody sections).insertAll (sequenceFields sections) =
      firstBody sections ++ sequenceFields sections := by
  have hfresh : ∀ f ∈ sequenceFields sections, f.1 ∉ (firstBody sections).map (·.1) := by
    intro f hf
    obtain ⟨s, hs, rfl⟩ := List.mem_map.mp hf
    exact h.not_mem_firstBody hs
  have hinsert := Document.insertAll_append_of_not_mem hfresh []
  rw [List.append_nil] at hinsert
  rw [hinsert, ← Document.ofFields, Document.ofFields_of_nodup h.nodup_sequenceFields]

/-- Nothing of sections that are apart is left out. -/
theorem AreApart.holdsAll (h : AreApart sections) :
    HoldsAll sections (firstBody sections ++ sequenceFields sections) where
  field d hd key v hv := by
    rw [h.bodies_eq, Option.mem_toList] at hd
    rw [firstBody, hd, Option.getD_some, Document.get?_append, hv, Option.some_or]
  first := by
    rw [List.map_append]
    exact List.prefix_append _ _
  sequence s hs := by
    -- the identifier is no key of the body, so the sequence is found behind it
    have hbody := Document.get?_eq_none_of_not_mem (h.not_mem_firstBody hs)
    have hsequence : (s.1, arrayOf s.2) ∈ sequenceFields sections := List.mem_map_of_mem hs
    rw [Document.get?_append, hbody, Option.none_or,
      Document.get?_of_mem_of_nodup h.nodup_sequenceFields hsequence,
      documentsUnder_of_nodup h.distinct hs]
  only key hkey := by
    rw [List.map_append, List.mem_append, keys_sequenceFields] at hkey
    obtain hkey | hkey := hkey
    · rw [firstBody] at hkey
      cases hd : bodyOf sections with
      | none => simp [hd] at hkey
      | some d => exact .inl ⟨d, by simp [h.bodies_eq, hd], by simpa [hd] using hkey⟩
    · exact .inr (List.mem_map.mp hkey)

/-! ### Commands -/

/-- `mergeSections` fails exactly if there is a dot in an identifier, or nothing to merge. The keys
of the `firstBody` stand in front. Under an identifier there are the documents of the last of the
`sequences` with it, and under any other key what the `firstBody` has there. If the sections
`AreApart`, the command `HoldsAll` that is in them. The order of the sections does not matter, but
for that of the sequences and for which body is the first. -/
theorem mergeSections_holds (m : Msg) :
    ((∃ e, mergeSections m = .error e) ↔
      (∃ s ∈ sequences m.sections, s.1.contains '.' = true) ∨ firstBody m.sections = [] ∧
      sequences m.sections = []) ∧
    (∀ command, mergeSections m = .ok command →
      command.map (·.1) = (firstBody m.sections).map (·.1) ++
        (((sequences m.sections).map (·.1)).filter
          (· ∉ (firstBody m.sections).map (·.1))).eraseDups ∧
      (∀ key, command.get? key = (((sequences m.sections).reverse.lookup key).map arrayOf).or
        ((firstBody m.sections).get? key)) ∧
      (AreApart m.sections → HoldsAll m.sections command)) ∧
    ∀ sections : List MsgSection, sections.Perm m.sections →
    sequences sections = sequences m.sections →
      (bodies m.sections).length ≤ 1 ∨ bodyOf sections = bodyOf m.sections →
      mergeSections { m with sections := sections } = mergeSections m := by
  refine ⟨?fails, ?holds, ?permuted⟩
  case fails =>
    rw [mergeSections_eq]
    -- the first identifier with a dot in it is found before anything is merged
    cases hdot : (sequences m.sections).find? (·.1.contains '.') with
    | some s =>
      exact ⟨fun _ => .inl ⟨s, List.mem_of_find?_eq_some hdot, by simpa using List.find?_some hdot⟩,
        fun _ => ⟨_, rfl⟩⟩
    | none =>
      have hplain : ¬ ∃ s ∈ sequences m.sections, s.1.contains '.' = true :=
        fun ⟨s, hs, hcontains⟩ =>
        List.find?_eq_none.mp hdot s hs hcontains
      rw [or_iff_right hplain]
      by_cases hempty : firstBody m.sections = [] ∧ sequences m.sections = [] <;> simp [hempty]
  case holds =>
    intro command hcommand
    have heq : command = (firstBody m.sections).insertAll (sequenceFields m.sections) := by
      rw [mergeSections_eq] at hcommand
      split at hcommand
      · cases hcommand
      · split at hcommand <;> cases hcommand
        rfl
    refine ⟨?_, fun key => ?_, fun hapart => ?_⟩
    · rw [heq, Document.keys_insertAll, keys_sequenceFields]
    · rw [heq, Document.get?_insertAll, get?_reverse_sequenceFields]
    · rw [heq, hapart.insertAll_eq]
      exact hapart.holdsAll
  case permuted =>
    intro sections hperm hsequences hbody
    have hfirst : bodyOf sections = bodyOf m.sections := hbody.elim (bodyOf_of_perm hperm) id
    rw [mergeSections, mergeSections, foldlM_addSection, foldlM_addSection, sequenceFields,
      sequenceFields, hsequences, hfirst]

/-- An insertion with more sections. -/
def insertion (others : List MsgSection) : Msg :=
  ⟨.empty, .body [("insert", .string "c"), ("$db", .string "db")] :: others⟩

/-- `mergeSections` of an `insertion` without dotted identifiers. -/
theorem mergeSections_insertion {others : List MsgSection}
    (h : ∀ s ∈ sequences others, s.1.contains '.' = false) :
    mergeSections (insertion others) =
      .ok (Document.insertAll [("insert", .string "c"), ("$db", .string "db")]
        (sequenceFields others)) := by
  have hplain : (sequences (insertion others).sections).find? (·.1.contains '.') = none :=
    List.find?_eq_none.mpr fun s hs => Bool.eq_false_iff.mp (h s hs)
  rw [mergeSections_eq, hplain]
  exact if_neg fun hempty => List.cons_ne_nil _ _ hempty.1

/-- `mergeSections` leaves out the first of two sequences with one identifier, a second body, and
the database where a sequence has its key. -/
theorem mergeSections_drops :
    (mergeSections (insertion [.sequence "documents" [[("_id", .int32 1)]],
      .sequence "documents" [[("_id", .int32 2)]]]) =
        .ok [("insert", .string "c"), ("$db", .string "db"),
          ("documents", arrayOf [[("_id", .int32 2)]])] ∧
      ¬ HoldsAll (insertion [.sequence "documents" [[("_id", .int32 1)]],
        .sequence "documents" [[("_id", .int32 2)]]]).sections
        [("insert", .string "c"), ("$db", .string "db"),
          ("documents", arrayOf [[("_id", .int32 2)]])]) ∧
    (mergeSections (insertion [.body [("ordered", .boolean false)]]) =
      .ok [("insert", .string "c"), ("$db", .string "db")] ∧
      ¬ HoldsAll (insertion [.body [("ordered", .boolean false)]]).sections
        [("insert", .string "c"), ("$db", .string "db")]) ∧
    mergeSections (insertion [.sequence "$db" []]) =
      .ok [("insert", .string "c"), ("$db", arrayOf [])] ∧
      ¬ HoldsAll (insertion [.sequence "$db" []]).sections
        [("insert", .string "c"), ("$db", arrayOf [])] := by
  -- each command lacks something that a section holds
  refine ⟨⟨mergeSections_insertion (by simp [sequences]), fun h => ?_⟩,
    ⟨rfl, fun h => ?_⟩, mergeSections_insertion (by simp [sequences]), fun h => ?_⟩
  · have := h.sequence ("documents", [[("_id", .int32 1)]]) (by simp [insertion, sequences])
    cases this
  · have := h.field [("ordered", .boolean false)] (by simp [insertion, bodies]) "ordered" _ rfl
    cases this
  · have := h.field [("insert", .string "c"), ("$db", .string "db")]
      (by simp [insertion, bodies]) "$db" _ rfl
    cases this

end DocGateway.Legacy
