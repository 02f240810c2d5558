import DocGateway.Legacy.Request
import DocGateway.Proofs.Gateway.Exhaustion
import DocGateway.Proofs.Stages.BuiltIn
import DocGateway.Proofs.Text.Boundaries
import DocGateway.Proofs.Wire.RoundTrip
import Mathlib.Algebra.Order.BigOperators.Group.List
/-!
# How much of a request an error repeats

The errors that the gateway itself makes repeat at most one name of the request: of a command, a
collection, a field or a sequence. So their texts are hardly longer than the request, and neither is
what else the gateway repeats of a command.

## Key results

- `isBrief_parse`: errors about a command
- `isBrief_mergeSections`, `isBrief_queryCommand`, `isBrief_getMoreCommand`: errors about a request
  that is no command
- `repeatsAtMost_mergeSections`, `repeatsAtMost_queryCommand`, `repeatsAtMost_getMoreCommand`: what
  there is to repeat of a command
-/

namespace DocGateway

open Bson (Document Value)

/-! ### Texts -/

/-- Each digit takes one byte. -/
theorem utf8ByteSize_toString (n : Nat) :
    (toString n).utf8ByteSize = (Nat.toDigits 10 n).length := by
  have hrepr : toString n = String.ofList (Nat.toDigits 10 n) := Nat.repr_eq_ofList_toDigits
  -- digits take one byte each
  have hone : ∀ c ∈ Nat.toDigits 10 n, c.utf8Size = 1 := by
    intro c hc
    have hdigit := Nat.isDigit_of_mem_toDigits (by decide) (by decide) hc
    rw [Char.utf8Size_eq_one_iff]
    simp only [Char.isDigit, Bool.and_eq_true, decide_eq_true_eq] at hdigit
    have := hdigit.2
    rw [UInt32.le_iff_toNat_le] at this ⊢
    exact Nat.le_trans this (by decide)
  rw [hrepr, Utf8.utf8ByteSize_ofList, List.map_congr_left hone, List.map_const',
    List.sum_replicate_nat, Nat.mul_one]

/-- A number below `10 ^ k` has no more than `k` digits. -/
theorem utf8ByteSize_toString_le {n k : Nat} (hk : 0 < k) (h : n < 10 ^ k) :
    (toString n).utf8ByteSize ≤ k := by
  rw [utf8ByteSize_toString]
  exact (Nat.length_toDigits_le_iff (by decide) hk).mpr h

/-- `toString` of a smaller number is no longer. -/
theorem utf8ByteSize_toString_mono {m n : Nat} (h : m ≤ n) :
    (toString m).utf8ByteSize ≤ (toString n).utf8ByteSize := by
  have hpos : 0 < (Nat.toDigits 10 n).length := Nat.length_toDigits_pos
  rw [utf8ByteSize_toString, utf8ByteSize_toString, Nat.length_toDigits_le_iff (by decide) hpos]
  exact Nat.lt_of_le_of_lt h ((Nat.length_toDigits_le_iff (by decide) hpos).mp (Nat.le_refl _))

/-- Both parts of `splitNamespace` are no longer than the name. -/
theorem Wire.size_splitNamespace_le (full : String) :
    (splitNamespace full).1.utf8ByteSize ≤ full.utf8ByteSize ∧
      (splitNamespace full).2.utf8ByteSize ≤ full.utf8ByteSize := by
  have hsize (cs : List Char) (h : cs.Sublist full.toList) :
      (String.ofList cs).utf8ByteSize ≤ full.utf8ByteSize := by
    rw [← String.ofList_toList (s := full), Utf8.utf8ByteSize_ofList, Utf8.utf8ByteSize_ofList]
    exact List.Sublist.sum_le_sum (h.map _) fun _ _ => Nat.zero_le _
  exact ⟨hsize _ (List.takeWhile_sublist _),
    hsize _ ((List.drop_sublist _ _).trans (List.dropWhile_sublist _))⟩

/-! ### Brief errors -/

namespace ServerError

/-- An error of one command with one of the gateway's own codes, whose text takes no more than 64
bytes besides so many of a request. -/
def IsBrief (n : Nat) (e : ServerError) : Prop :=
  ∃ code text, e = .ofCode code text ∧ text.utf8ByteSize ≤ n + 64

/-- `IsBrief` is kept if more bytes are allowed. -/
theorem IsBrief.mono {n n' : Nat} {e : ServerError} (h : e.IsBrief n) (hn : n ≤ n') :
    e.IsBrief n' := by
  obtain ⟨code, text, rfl, htext⟩ := h
  exact ⟨code, text, rfl, by omega⟩

/-- An error with a fixed text `IsBrief`, whatever is allowed. -/
theorem isBrief_ofCode (n : Nat) (code : ErrorCode) {text : String} (h : text.utf8ByteSize ≤ 64) :
    (ofCode code text).IsBrief n :=
  ⟨code, text, rfl, by omega⟩

/-- An error that repeats one name `IsBrief` for the size of the name. -/
theorem isBrief_quote {n : Nat} (code : ErrorCode) {before name after : String}
    (hname : name.utf8ByteSize ≤ n) (h : before.utf8ByteSize + after.utf8ByteSize ≤ 64) :
    (ofCode code s!"{before}{name}{after}").IsBrief n := by
  refine ⟨code, _, rfl, ?_⟩
  have htext : s!"{before}{name}{after}".utf8ByteSize = before.utf8ByteSize + name.utf8ByteSize +
      after.utf8ByteSize := by
    simp only [String.utf8ByteSize_append]
    rfl
  omega

end ServerError

open ServerError

/-! ### Errors about commands -/

/-- `wrongType` repeats the name of a field and that of a type. -/
theorem isBrief_wrongType {n : Nat} {field expected : String} (hfield : field.utf8ByteSize ≤ n + 16)
    (hexpected : expected.utf8ByteSize ≤ 16) :
    (Command.wrongType field expected).IsBrief n := by
  refine ⟨_, _, rfl, ?_⟩
  have htext : s!"field '{field}' must be of type {expected}".utf8ByteSize =
      "field '".utf8ByteSize + field.utf8ByteSize + "' must be of type ".utf8ByteSize +
      expected.utf8ByteSize := by
    simp only [String.utf8ByteSize_append]
    rfl
  have hfixed : "field '".utf8ByteSize + "' must be of type ".utf8ByteSize ≤ 32 := by decide
  omega

/-- `wrongType` about a field with a short name repeats nothing else. -/
private theorem isBrief_fixed {n : Nat} {field expected : String} (hfield : field.utf8ByteSize ≤ 16)
    (hexpected : expected.utf8ByteSize ≤ 16) :
    (Command.wrongType field expected).IsBrief n :=
  isBrief_wrongType (by omega) hexpected

/-- The errors of `listedCursors` name the field only. -/
theorem isBrief_listedCursors {d : Document} {e : ServerError} {n : Nat}
    (h : Command.listedCursors d = .error e) : e.IsBrief n := by
  unfold Command.listedCursors at h
  split at h
  · split at h <;> cases h
    exact isBrief_fixed (by decide) (by decide)
  · cases h
    exact isBrief_fixed (by decide) (by decide)

/-- The errors of `requestedCompressors` name the field only. -/
theorem isBrief_requestedCompressors {d : Document} {e : ServerError} {n : Nat}
    (h : Command.requestedCompressors d = .error e) :
    e.IsBrief n := by
  unfold Command.requestedCompressors at h
  split at h
  · cases h
  · split at h <;> cases h
    exact isBrief_fixed (by decide) (by decide)
  · cases h
    exact isBrief_fixed (by decide) (by decide)

/-- `Except.map` keeps errors as they are. -/
private theorem error_of_map {α β : Type} {f : α → β} {x : Except ServerError α} {e : ServerError}
    (h : x.map f = .error e) :
    x = .error e := by
  cases x with
  | error e' => simpa [Except.map] using h
  | ok a => cases h

/-- The errors of `kindOf` name the field that is wrong. -/
theorem isBrief_kindOf {name : String} {d : Document} {e : ServerError} {n : Nat}
    (h : Command.kindOf name d = .error e) : e.IsBrief n := by
  unfold Command.kindOf at h
  -- only kinds that read a field of the command can fail
  split at h
  case h_3 | h_5 =>
    split at h <;> cases h
    exact isBrief_fixed (by decide) (by decide)
  case h_4 => exact isBrief_listedCursors (error_of_map h)
  case h_7 | h_8 | h_9 => exact isBrief_requestedCompressors (error_of_map h)
  all_goals cases h

/-- The errors of `CommandRegistry.parse` repeat the name of the command at most. -/
theorem isBrief_parse {registry : CommandRegistry} {d : Document} {e : ServerError} {n : Nat}
    (hname : ∀ name, d.firstKey? = some name → name.utf8ByteSize ≤ n)
    (h : registry.parse d = .error e) : e.IsBrief n := by
  rw [CommandRegistry.parse] at h
  -- the name is quoted only if no command has it
  split at h
  · rename_i name hkey
    split at h
    · simp only [Command.parse, hkey] at h
      exact isBrief_kindOf (error_of_map h)
    · cases h
      exact isBrief_quote _ (hname name hkey) (by decide)
  · rename_i hkey
    simp only [Command.parse, hkey] at h
    cases h
    exact isBrief_ofCode _ _ (by decide)

/-! ### Errors about filters -/

namespace InLimit

/-- What is wrong with a filter: an operator has no list, or one that is too long, though no longer
than this. -/
def IsRefusal (limit n : Nat) (e : ServerError) : Prop :=
  ∃ operator ∈ operators, e = notAList operator ∨ ∃ k ≤ n, e = tooLong operator k limit

/-- `IsRefusal` is kept if longer lists are allowed. -/
theorem IsRefusal.mono {limit n n' : Nat} {e : ServerError} (h : IsRefusal limit n e)
    (hn : n ≤ n') : IsRefusal limit n' e := by
  obtain ⟨operator, hmem, rfl | ⟨k, hk, rfl⟩⟩ := h
  · exact ⟨operator, hmem, .inl rfl⟩
  · exact ⟨operator, hmem, .inr ⟨k, Nat.le_trans hk hn, rfl⟩⟩

/-- A refusal `IsBrief` for the bytes of the list and eight more: its length has no more digits than
it has bytes, and those of the limit are counted by `hlimit`. -/
theorem IsRefusal.isBrief {limit n : Nat} {e : ServerError} (h : IsRefusal limit n e)
    (hlimit : limit < 2 ^ 63) : e.IsBrief (n + 8) := by
  obtain ⟨operator, hmem, rfl | ⟨k, hk, rfl⟩⟩ := h
  · have htext : ∀ operator ∈ operators, (s!"{operator} needs an array").utf8ByteSize ≤ 64 := by
      decide
    exact isBrief_ofCode _ _ (htext operator hmem)
  · refine ⟨_, _, rfl, ?_⟩
    have htext :
        s!"{operator} clause of {k} elements is longer than limit of {limit}".utf8ByteSize =
        operator.utf8ByteSize + " clause of ".utf8ByteSize + (toString k).utf8ByteSize +
          " elements is longer than limit of ".utf8ByteSize + (toString limit).utf8ByteSize := by
      simp only [String.utf8ByteSize_append]
      rfl
    have hoperator : ∀ operator ∈ operators, operator.utf8ByteSize ≤ 4 := by decide
    have hfixed : " clause of ".utf8ByteSize + " elements is longer than limit of ".utf8ByteSize ≤
        45 := by decide
    -- the list is at least as long as its length has digits, so that no bound on it is needed
    have hk10 : k < 10 ^ (k + 1) := Nat.lt_of_succ_lt (Nat.lt_pow_self (by decide))
    have := hoperator operator hmem
    have := utf8ByteSize_toString_le k.succ_pos hk10
    have := utf8ByteSize_toString_le (k := 19) (by decide) (Nat.lt_trans hlimit (by decide))
    omega

variable {limit : Nat}

/-- `checkPredicate` refuses a list of the document, which has more bytes than items. -/
theorem isRefusal_checkPredicate {d : Document} {e : ServerError}
    (h : checkPredicate limit d = .error e) :
    IsRefusal limit (Bson.fieldsSize d) e := by
  induction d with
  | nil => cases h
  | cons f rest ih =>
    obtain ⟨operator, v⟩ := f
    rw [Bson.fieldsSize]
    unfold checkPredicate at h
    split at h
    · rename_i hoperator
      have hmem : operator ∈ operators := List.contains_iff_mem.mp hoperator
      split at h
      · rename_i items
        split at h
        -- the length of the list is told, and it is smaller than the document
        · cases h
          have := Bson.length_le_size items
          exact ⟨operator, hmem, .inr ⟨_, by omega, rfl⟩⟩
        · exact (ih h).mono (by omega)
      · cases h
        exact ⟨operator, hmem, .inl rfl⟩
    · exact (ih h).mono (by omega)

/-- One of two checks in a row fails if both together do. -/
private theorem error_of_seq {x : Except ServerError Unit} {y : Except ServerError Unit}
    {e : ServerError}
    (h : (do x; y) = .error e) : x = .error e ∨ y = .error e := by
  cases x with
  | error e' => exact .inl h
  | ok _ => exact .inr h

/-- `checkFilter` and `checkClauses` refuse for a list within the filter or the clauses. -/
private theorem isRefusal_checkFilter_checkClauses :
    (∀ (d : Document) (e : ServerError), checkFilter limit d = .error e →
      IsRefusal limit (Bson.fieldsSize d) e) ∧
      ∀ (clauses : List Value) (e : ServerError), checkClauses limit clauses = .error e →
        ∀ i, IsRefusal limit (Bson.itemsSize i clauses) e := by
  -- along the recursion of the check: what is found at any depth is within the document around it
  refine checkFilter.mutual_induct
    (fun d => ∀ e, checkFilter limit d = .error e → IsRefusal limit (Bson.fieldsSize d) e)
    (fun clauses => ∀ e, checkClauses limit clauses = .error e →
      ∀ i, IsRefusal limit (Bson.itemsSize i clauses) e)
    ?empty ?predicate ?clauses ?other ?noClauses ?clause ?notAClause
  case empty =>
    intro e h
    rw [checkFilter] at h
    cases h
  case predicate =>
    intro key predicate rest ih e h
    rw [checkFilter] at h
    rw [Bson.fieldsSize, Value.size]
    obtain h | h := error_of_seq h
    · exact (isRefusal_checkPredicate h).mono (by omega)
    · exact (ih e h).mono (by omega)
  case clauses =>
    intro key clauses rest ihClauses ih e h
    rw [checkFilter] at h
    rw [Bson.fieldsSize, Value.size]
    obtain h | h := error_of_seq h
    · exact (ihClauses e h 0).mono (by omega)
    · exact (ih e h).mono (by omega)
  case other =>
    intro f rest hdocument harray ih e h
    rw [checkFilter.eq_4 limit f rest hdocument harray] at h
    obtain ⟨key, v⟩ := f
    rw [Bson.fieldsSize]
    exact (ih e h).mono (by omega)
  case noClauses =>
    intro e h
    rw [checkClauses] at h
    cases h
  case clause =>
    intro clause rest ihClause ih e h i
    rw [checkClauses] at h
    rw [Bson.itemsSize, Value.size]
    obtain h | h := error_of_seq h
    · exact (ihClause e h).mono (by omega)
    · exact (ih e h (i + 1)).mono (by omega)
  case notAClause =>
    intro v rest hdocument ih e h i
    rw [checkClauses.eq_3 limit v rest hdocument] at h
    rw [Bson.itemsSize]
    exact (ih e h (i + 1)).mono (by omega)

/-- `checkField` refuses for a list within the filter in its field. -/
theorem isRefusal_checkField {d : Document} {key : String} {e : ServerError} {n : Nat}
    (hsize : ∀ filter, d.get? key = some (.document filter) → Document.size filter ≤ n)
    (h : checkField limit d key = .error e) :
    IsRefusal limit n e := by
  rw [checkField] at h
  split at h
  · rename_i filter hfilter
    have hle := hsize filter (Document.get?_of_getDocument? hfilter)
    rw [Document.size] at hle
    exact (isRefusal_checkFilter_checkClauses.1 filter e h).mono (by omega)
  · cases h

/-- `checkStatements` refuses for a list within the filter of a statement. -/
theorem isRefusal_checkStatements {d : Document} {key : String} {e : ServerError} {n : Nat}
    (hsize : ∀ items, d.get? key = some (.array items) → ∀ statement, .document statement ∈ items →
      Document.size statement ≤ n)
    (h : checkStatements limit d key = .error e) : IsRefusal limit n e := by
  cases harray : d.getArray? key with
  | none =>
    rw [checkStatements, harray] at h
    cases h
  | some items =>
    have hitems := hsize items (Document.get?_of_getArray? harray)
    simp only [checkStatements, harray, Option.getD_some] at h
    clear hsize harray
    induction items with
    | nil => cases h
    | cons v rest ih =>
      rw [List.forM] at h
      obtain h | h := error_of_seq h
      · cases v with
        -- the filter is smaller than the statement that it is a field of
        | document statement =>
          refine isRefusal_checkField (fun filter hfilter => ?_) h
          have hle := Bson.size_le_of_mem (Document.mem_of_get? hfilter)
          have := hitems statement List.mem_cons_self
          rw [Value.size] at hle
          rw [Document.size]
          omega
        | _ => cases h
      · exact ih (fun statement hmem => hitems statement (List.mem_cons_of_mem _ hmem)) h

end InLimit

/-! ### What commands hold -/

/-- What the gateway can repeat of a command takes no more bytes than this. -/
structure RepeatsAtMost (n : Nat) (d : Document) : Prop where
  name {name : String} (h : d.firstKey? = some name) : name.utf8ByteSize ≤ n
  /-- A handshake repeats compressors. -/
  compressors {name : String} {names : List String} (hkey : d.firstKey? = some name)
      (h : Command.kindOf name d = .ok (.isMaster names)) :
      (Value.array (names.map Value.string)).size ≤ n
  /-- A refusal repeats the length of a list. -/
  refusal {name : String} {limit : Nat} {e : ServerError} (hkey : d.firstKey? = some name)
      (h : InLimit.check limit name d = .error e) : InLimit.IsRefusal limit n e

/-- A field that the command of a message of so many bytes can have. A sequence of documents may
take more bytes as an array. -/
def IsWithin (n : Nat) (f : String × Value) : Prop :=
  f.1.utf8ByteSize ≤ n ∧
    (f.2.size ≤ n ∨ ∃ ds : List Document, f.2 = .array (ds.map .document) ∧ ∀ d ∈ ds, d.size ≤ n)

/-- `IsWithin` is kept if more bytes are allowed. -/
theorem IsWithin.mono {n n' : Nat} {f : String × Value} (h : IsWithin n f) (hn : n ≤ n') :
    IsWithin n' f := by
  obtain ⟨hkey, hsize | ⟨ds, hds, hall⟩⟩ := h
  · exact ⟨by omega, .inl (by omega)⟩
  · exact ⟨by omega, .inr ⟨ds, hds, fun d hd => Nat.le_trans (hall d hd) hn⟩⟩

/-- A handshake has the compressors that `requestedCompressors` finds. -/
theorem requestedCompressors_of_kindOf {name : String} {d : Document} {names : List String}
    (h : Command.kindOf name d = .ok (.isMaster names)) :
    Command.requestedCompressors d = .ok names := by
  unfold Command.kindOf at h
  split at h
  case h_3 | h_5 => split at h <;> cases h
  case h_4 =>
    cases hlisted : Command.listedCursors d <;> simp [hlisted, Except.map] at h
  -- the three spellings of the handshake
  case h_7 | h_8 | h_9 =>
    cases hrequested : Command.requestedCompressors d with
    | error e => simp [hrequested, Except.map] at h
    | ok names' =>
      simp only [hrequested, Except.map, Except.ok.injEq, CommandKind.isMaster.injEq] at h
      rw [h]
  all_goals cases h

/-- `mapM` of `asString?` succeeds for strings only. -/
theorem eq_map_string_of_mapM {items : List Value} {names : List String}
    (h : items.mapM Value.asString? = some names) :
    items = names.map Value.string := by
  induction items generalizing names with
  | nil => simpa using h.symm
  | cons v items ih =>
    simp only [List.mapM_cons, Option.bind_eq_bind, Option.bind_eq_some_iff, Option.pure_def,
      Option.some.injEq] at h
    obtain ⟨name, hname, rest, hrest, rfl⟩ := h
    cases v with
    | string s =>
      obtain rfl : s = name := Option.some.inj hname
      rw [List.map_cons, ih hrest]
    | _ => cases hname

/-- `RepeatsAtMost` for a command whose name is known, if it repeats no compressors and a refusal of
its filter is within the bound. -/
theorem repeatsAtMost_of_firstKey {d : Document} {name : String} {n : Nat}
    (hkey : d.firstKey? = some name) (hname : name.utf8ByteSize ≤ n)
    (hkind : ∀ names, Command.kindOf name d ≠ .ok (.isMaster names))
    (hrefusal : ∀ limit e, InLimit.check limit name d = .error e → InLimit.IsRefusal limit n e) :
    RepeatsAtMost n d where
  -- the name is the first key, so each field is about that one
  name h := by
    rw [hkey] at h
    cases h
    exact hname
  compressors h hcompressors := by
    rw [hkey] at h
    cases h
    exact absurd hcompressors (hkind _)
  refusal h hcheck := by
    rw [hkey] at h
    cases h
    exact hrefusal _ _ hcheck

/-- `RepeatsAtMost` for a command all of whose fields are within the bound. -/
theorem repeatsAtMost_of_isWithin {d : Document} {n : Nat} (hn : 5 ≤ n)
    (h : ∀ f ∈ d, IsWithin n f) : RepeatsAtMost n d where
  name {name} hkey := by
    cases d with
    | nil => cases hkey
    | cons f rest =>
      obtain rfl : f.1 = name := Option.some.inj hkey
      exact (h f List.mem_cons_self).1
  compressors {name names} _ hkind := by
    have hrequested := requestedCompressors_of_kindOf hkind
    unfold Command.requestedCompressors at hrequested
    split at hrequested
    · cases hrequested
      exact hn
    · rename_i items hitems
      split at hrequested
      · rename_i names' hnames
        cases hrequested
        rw [← eq_map_string_of_mapM hnames]
        obtain hsize | ⟨ds, hds, -⟩ := (h _ (Document.mem_of_get? hitems)).2
        · exact hsize
        · -- documents are no names, so there are none
          obtain rfl : items = ds.map .document := by simpa using hds
          cases ds with
          | nil => exact hn
          | cons d ds => simp [Value.asString?] at hnames
      · cases hrequested
    · cases hrequested
  -- a filter stands in a field of the command, or in that of a statement in a list or a sequence
  refusal {name limit e} _ hcheck := by
    have hfilter (key : String) (filter : Document) (hget : d.get? key = some (.document filter)) :
        filter.size ≤ n := by
      obtain hsize | ⟨ds, hds, -⟩ := (h _ (Document.mem_of_get? hget)).2
      · exact hsize
      · cases hds
    have hstatement (key : String) (items : List Value) (hget : d.get? key = some (.array items))
        (statement : Document)
        (hmem : .document statement ∈ items) : statement.size ≤ n := by
      obtain hsize | ⟨ds, hds, hall⟩ := (h _ (Document.mem_of_get? hget)).2
      · exact Nat.le_trans (Bson.size_le_of_mem_array hmem) hsize
      · obtain rfl : items = ds.map .document := by simpa using hds
        obtain ⟨d', hd', heq⟩ := List.mem_map.mp hmem
        cases heq
        exact hall _ hd'
    unfold InLimit.check at hcheck
    split at hcheck
    · cases hcheck
    · split at hcheck
      · exact InLimit.isRefusal_checkField (hfilter _) hcheck
      · exact InLimit.isRefusal_checkField (hfilter _) hcheck
      · exact InLimit.isRefusal_checkStatements (hstatement _) hcheck
      · exact InLimit.isRefusal_checkStatements (hstatement _) hcheck
      · cases hcheck

/-! ### Folds that may fail -/

section

variable {α β : Type} {f : β → α → Except ServerError β}

/-- What each step keeps is kept by a fold that succeeds. -/
private theorem of_foldlM {P : β → Prop} {xs : List α}
    (hstep : ∀ b x b', x ∈ xs → P b → f b x = .ok b' → P b') {b b' : β} (hb : P b)
    (h : xs.foldlM f b = .ok b') : P b' := by
  -- by induction on the list, with the invariant carried from one step to the next
  induction xs generalizing b with
  | nil =>
    cases h
    exact hb
  | cons x xs ih =>
    rw [List.foldlM_cons] at h
    cases hx : f b x with
    | error e => rw [hx] at h; cases h
    | ok c =>
      rw [hx] at h
      exact ih (fun b y b' hy => hstep b y b' (List.mem_cons_of_mem _ hy))
        (hstep b x c List.mem_cons_self hb hx) h

/-- A fold that fails has a step that fails. -/
private theorem error_of_foldlM {xs : List α} {b : β} {e : ServerError}
    (h : xs.foldlM f b = .error e) :
    ∃ x ∈ xs, ∃ c, f c x = .error e := by
  -- by induction on the list: the error is that of the first step, or of one behind it
  induction xs generalizing b with
  | nil => cases h
  | cons x xs ih =>
    rw [List.foldlM_cons] at h
    cases hx : f b x with
    | error e' =>
      rw [hx] at h
      cases h
      exact ⟨x, List.mem_cons_self, b, hx⟩
    | ok c =>
      rw [hx] at h
      obtain ⟨y, hy, c, hc⟩ := ih h
      exact ⟨y, List.mem_cons_of_mem _ hy, c, hc⟩

end

namespace Legacy

open Wire (Body Msg MsgSection Query GetMore)

/-! ### Command messages -/

/-- A field of a document in a body `IsWithin` the body. -/
theorem isWithin_of_mem {b : Body} {d : Document} (hd : d ∈ b.documents) {f : String × Value}
    (hf : f ∈ d) : IsWithin b.plainSize f := by
  have hdocument := Wire.size_le_plainSize hd
  have hfield := Bson.size_le_of_mem (show (f.1, f.2) ∈ _ from hf)
  exact ⟨by omega, .inl (by omega)⟩

/-- The identifier of a sequence is no longer than the body. -/
theorem size_identifier_le {m : Msg} {identifier : String} {ds : List Document}
    (h : .sequence identifier ds ∈ m.sections) :
    identifier.utf8ByteSize ≤ (Body.msg m).plainSize := by
  have hsection : (MsgSection.sequence identifier ds).size ≤ Wire.sectionsSize m.sections :=
    le_sum_of_mem (List.mem_map_of_mem h)
  rw [MsgSection.size] at hsection
  rw [Body.plainSize]
  omega

/-- The fields that `mergeSections` puts together are within the message. -/
theorem isWithin_mergeSections {m : Msg} {d : Document} (h : mergeSections m = .ok d) :
    ∀ f ∈ d, IsWithin (Body.msg m).plainSize f := by
  have hfold : m.sections.foldlM addSection ((bodyOf m.sections).getD []) = .ok d := by
    rw [mergeSections] at h
    cases hfold : m.sections.foldlM addSection ((bodyOf m.sections).getD []) with
    | error e => rw [hfold] at h; cases h
    | ok d' =>
      simp only [hfold, bind, Except.bind] at h
      split at h <;> cases h
      rfl
  have hmem {s : MsgSection} {d : Document} (hs : s ∈ m.sections) (hd : d ∈ s.documents) :
      d ∈ (Body.msg m).documents :=
    List.mem_flatMap.mpr ⟨s, hs, hd⟩
  -- the fold begins with the fields of the body, and each sequence adds one
  refine of_foldlM (P := fun d => ∀ f ∈ d, IsWithin (Body.msg m).plainSize f) ?step ?body hfold
  case body =>
    cases hbody : bodyOf m.sections with
    | none => exact fun _ => nofun
    | some body =>
      obtain ⟨s, hs, hsome⟩ := List.exists_of_findSome?_eq_some hbody
      cases s with
      | body d =>
        cases hsome
        exact fun f hf => isWithin_of_mem (hmem hs (List.mem_singleton_self _)) hf
      | sequence identifier ds => cases hsome
  case step =>
    intro d s d' hs hd hadd
    cases s with
    | body body =>
      cases hadd
      exact hd
    | sequence identifier ds =>
      rw [addSection] at hadd
      split at hadd <;> cases hadd
      refine Document.forall_mem_insert hd ⟨size_identifier_le hs, .inr ⟨ds, rfl, fun e he => ?_⟩⟩
      exact Wire.size_le_plainSize (hmem hs he)

/-- `RepeatsAtMost` for the command of a message. -/
theorem repeatsAtMost_mergeSections {m : Msg} {d : Document} (h : mergeSections m = .ok d) :
    RepeatsAtMost ((Body.msg m).plainSize + 64) d :=
  repeatsAtMost_of_isWithin (by omega) fun f hf =>
    (isWithin_mergeSections h f hf).mono (Nat.le_add_right _ _)

/-- The errors of `mergeSections` repeat the identifier of a sequence at most. -/
theorem isBrief_mergeSections {m : Msg} {e : ServerError} (h : mergeSections m = .error e) :
    e.IsBrief (Body.msg m).plainSize := by
  rw [mergeSections] at h
  cases hfold : m.sections.foldlM addSection ((bodyOf m.sections).getD []) with
  | ok d =>
    simp only [hfold, bind, Except.bind] at h
    split at h <;> cases h
    exact isBrief_ofCode _ _ (by decide)
  | error e' =>
    rw [hfold] at h
    cases h
    obtain ⟨s, hs, d, hadd⟩ := error_of_foldlM hfold
    -- only a sequence can be refused, for the dot in its identifier
    cases s with
    | body body => cases hadd
    | sequence identifier ds =>
      rw [addSection] at hadd
      split at hadd <;> cases hadd
      exact isBrief_quote _ (size_identifier_le hs) (by decide)

/-! ### Queries -/

/-- The errors of `namespaceOf` repeat the name. -/
theorem isBrief_namespaceOf {full : String} {e : ServerError} (h : namespaceOf full = .error e) :
    e.IsBrief full.utf8ByteSize := by
  simp only [namespaceOf] at h
  split at h <;> cases h
  exact isBrief_quote _ (Nat.le_refl _) (by decide)

/-- The errors of `unwrapCommand` repeat the first key of the query. -/
theorem isBrief_unwrapCommand {query : Document} {e : ServerError}
    (h : unwrapCommand query = .error e) : e.IsBrief query.size := by
  cases query with
  | nil =>
    cases h
    exact isBrief_ofCode _ _ (by decide)
  | cons f rest =>
    have hkey := Bson.size_le_of_mem (show (f.1, f.2) ∈ f :: rest from List.mem_cons_self)
    simp only [unwrapCommand] at h
    split at h
    · split at h <;> cases h
      exact isBrief_wrongType (by omega) (by decide)
    · cases h

namespace Options

/-- The errors of `take` repeat the key of the option. -/
theorem isBrief_take {o : Options} {key : String} {v : Value} {e : ServerError}
    (h : o.take key v = .error e) :
    e.IsBrief key.utf8ByteSize := by
  unfold take at h
  split at h
  case h_1 | h_2 =>
    split at h <;> cases h
    exact isBrief_fixed (by decide) (by decide)
  case h_17 =>
    cases h
    exact isBrief_quote _ (Nat.le_refl _) (by decide)
  all_goals cases h

/-- What options can come to: the filter has no more bytes than this, and no other field is under
its name. -/
structure IsTaken (n : Nat) (o : Options) : Prop where
  filter : o.filter.size ≤ n
  extra : ∀ f ∈ o.extra, f.1 ≠ "filter"

/-- `IsTaken` is kept by an extra field that is no filter. -/
theorem IsTaken.insert {n : Nat} {o : Options} (h : o.IsTaken n) {key : String}
    (hkey : key ≠ "filter") (v : Value) :
    IsTaken n { o with extra := o.extra.insert key v } :=
  ⟨h.filter, Document.forall_mem_insert h.extra hkey⟩

/-- `IsTaken` is kept by `take`, which has a name of its own for each option, and none is
`filter`. -/
theorem IsTaken.take {n : Nat} {o o' : Options} (h : o.IsTaken n) {key : String} {v : Value}
    (hv : v.size ≤ n)
    (htake : o.take key v = .ok o') : o'.IsTaken n := by
  unfold Options.take at htake
  split at htake
  case h_1 | h_2 =>
    split at htake <;> cases htake
    exact ⟨hv, h.extra⟩
  -- a question for an explanation changes neither the filter nor the other fields
  case h_16 =>
    cases htake
    exact ⟨h.filter, h.extra⟩
  case h_17 => cases htake
  all_goals
    cases htake
    exact h.insert (by decide) v

/-- `IsTaken` holds of `empty`, whose filter is an empty document. -/
theorem isTaken_empty {n : Nat} (h : 5 ≤ n) : empty.IsTaken n := ⟨h, fun f hf => by cases hf⟩

/-- `IsTaken` is kept by `settle`, which takes a field out of the filter at most. -/
theorem isTaken_settle {n : Nat} {o : Options} (h : o.IsTaken n) : o.settle.IsTaken n :=
  ⟨Nat.le_trans (Bson.size_erase_le _ _) h.filter, h.extra⟩

/-- `IsTaken` holds of what `ofDocument` reads: option by option, each within the query. -/
theorem isTaken_ofDocument {query : Document} {o : Options} (h : ofDocument query = .ok o) :
    o.IsTaken query.size := by
  rw [ofDocument] at h
  split at h
  · cases hfold : query.foldlM (fun o f => take o f.1 f.2) empty with
    | error e => rw [hfold] at h; cases h
    | ok taken =>
      rw [hfold] at h
      cases h
      -- each field of the document keeps the invariant of the options taken so far
      refine isTaken_settle (of_foldlM (fun o f o' hf ho htake => ho.take ?_ htake)
        (isTaken_empty (Nat.le_add_left _ _)) hfold)
      have := Bson.size_le_of_mem (show (f.1, f.2) ∈ _ from hf)
      omega
  · cases h
    exact isTaken_settle ⟨Nat.le_refl _, nofun⟩

/-- The errors of `ofDocument` repeat the key of a modifier. -/
theorem isBrief_ofDocument {query : Document} {e : ServerError} (h : ofDocument query = .error e) :
    e.IsBrief query.size := by
  rw [ofDocument] at h
  split at h
  · cases hfold : query.foldlM (fun o f => take o f.1 f.2) empty with
    | ok taken => rw [hfold] at h; cases h
    | error e' =>
      rw [hfold] at h
      cases h
      obtain ⟨f, hf, o, htake⟩ := error_of_foldlM hfold
      have := Bson.size_le_of_mem (show (f.1, f.2) ∈ _ from hf)
      exact (isBrief_take htake).mono (by omega)
  · cases h

end Options

/-- Both parts of `namespaceOf` are no longer than the name. -/
theorem size_namespaceOf_le {full db coll : String} (h : namespaceOf full = .ok (db, coll)) :
    db.utf8ByteSize ≤ full.utf8ByteSize ∧ coll.utf8ByteSize ≤ full.utf8ByteSize := by
  simp only [namespaceOf] at h
  split at h
  · cases h
  · cases h
    exact Wire.size_splitNamespace_le full

/-- The fields of `unwrapCommand` are within the query. -/
theorem isWithin_unwrapCommand {query d : Document} (h : unwrapCommand query = .ok d) :
    ∀ f ∈ d, IsWithin query.size f := by
  have hfield {f : String × Value} (hf : f ∈ query) : IsWithin query.size f := by
    have := Bson.size_le_of_mem (show (f.1, f.2) ∈ _ from hf)
    exact ⟨by omega, .inl (by omega)⟩
  cases query with
  | nil => cases h
  | cons f rest =>
    obtain ⟨key, v⟩ := f
    simp only [unwrapCommand] at h
    split at h
    -- the wrapped command is the value of the first field, and the other fields are put into it
    · cases v with
      | document inner =>
        cases h
        refine Document.forall_mem_insertAll (fun f hf => ?_) fun f hf =>
          hfield (List.mem_cons_of_mem _ hf)
        have hinner :=
          Bson.size_le_of_mem (show (key, .document inner) ∈ (key, .document inner) ::
            rest from List.mem_cons_self)
        have := Bson.size_le_of_mem (show (f.1, f.2) ∈ _ from hf)
        rw [Value.size, ← Document.size] at hinner
        exact ⟨by omega, .inl (by omega)⟩
      | _ => cases h
    · cases h
      exact fun f hf => hfield hf

/-- What holds of a field holds of the fields of `fieldIf`, whether it is there or not. -/
theorem forall_mem_fieldIf {P : String × Value → Prop} (condition : Bool) {key : String} {v : Value}
    (h : P (key, v)) :
    ∀ f ∈ fieldIf condition key v, P f := by
  cases condition <;> simp [fieldIf, h]

/-- The fields that `commandQuery` adds are within the query too, or are as long as a read
preference. -/
theorem isWithin_commandQuery {q : Query} {db : String} {t : QueryCommand}
    (hdb : db.utf8ByteSize ≤ q.collection.utf8ByteSize) (h : commandQuery q db = .ok t) :
    ∀ f ∈ t.command, IsWithin ((Body.query q).plainSize + 64) f := by
  have hplain : (Body.query q).plainSize =
      q.collection.utf8ByteSize + 13 + q.query.size + Wire.documentsSize q.selector.toList := rfl
  have hsmall (key : String) (v : Value) (hkey : key.utf8ByteSize ≤ 64) (hv : v.size ≤ 64) :
      IsWithin ((Body.query q).plainSize + 64) (key, v) :=
    ⟨Nat.le_add_left_of_le hkey, .inl (Nat.le_add_left_of_le hv)⟩
  cases hcommand : unwrapCommand q.query with
  | error e => simp [commandQuery, hcommand, bind, Except.bind] at h
  | ok command =>
    simp only [commandQuery, hcommand, bind, Except.bind, pure, Except.pure, Except.ok.injEq] at h
    subst h
    have hinner : ∀ f ∈ command, IsWithin ((Body.query q).plainSize + 64) f := fun f hf =>
      (isWithin_unwrapCommand hcommand f hf).mono (by omega)
    have hdatabase : IsWithin ((Body.query q).plainSize + 64) ("$db", .string db) :=
      ⟨Nat.le_add_left_of_le (show "$db".utf8ByteSize ≤ 64 by decide),
        .inl (by rw [Value.size]; omega)⟩
    have hnamed := Document.forall_mem_insert hinner hdatabase
    have hprojected : ∀ f ∈ projection q, IsWithin ((Body.query q).plainSize + 64) f := by
      rw [projection]
      split
      · rename_i d hselector
        have hd : d.size ≤ Wire.documentsSize q.selector.toList :=
          Wire.size_le_documentsSize (by simp [hselector])
        refine forall_mem_fieldIf _
          ⟨Nat.le_add_left_of_le (show "projection".utf8ByteSize ≤ 64 by decide), .inl ?_⟩
        rw [Value.size, ← Document.size]
        omega
      · exact List.forall_mem_nil _
    have hskip :=
      forall_mem_fieldIf (decide (0 < q.skip.toInt))
        (hsmall "skip" (.int32 q.skip) (by decide) (show 4 ≤ 64 by decide))
    -- the database, the skip and the projection are added to what was unwrapped
    have hall :=
      Document.forall_mem_insertAll hnamed fun f hf =>
        (List.mem_append.mp hf).elim (hskip f) (hprojected f)
    intro f hf
    simp only at hf
    split at hf
    · exact Document.forall_mem_insert hall (hsmall _ _ (by decide) (by decide)) f hf
    · exact hall f hf

/-- The errors of `commandQuery` are those of `unwrapCommand`. -/
theorem isBrief_commandQuery {q : Query} {db : String} {e : ServerError}
    (h : commandQuery q db = .error e) : e.IsBrief q.query.size := by
  cases hcommand : unwrapCommand q.query with
  | error e' =>
    simp only [commandQuery, hcommand, bind, Except.bind, Except.error.injEq] at h
    exact h ▸ isBrief_unwrapCommand hcommand
  | ok command => simp [commandQuery, hcommand, bind, Except.bind, pure, Except.pure] at h

/-- None of the fields that `findQuery` adds is a filter. -/
theorem key_ne_filter (q : Query) :
    ∀ f ∈ countFields q ++ projection q ++ flagFields q, f.1 ≠ "filter" := by
  have hif (condition : Bool) {key : String} (v : Value) (hkey : key ≠ "filter") :
      ∀ f ∈ fieldIf condition key v, f.1 ≠ "filter" :=
    forall_mem_fieldIf condition hkey
  -- the keys of all fields that are set on a condition are known
  have hcounts : ∀ f ∈ countFields q, f.1 ≠ "filter" := by
    rw [countFields, List.forall_mem_append]
    refine ⟨hif _ _ (by decide), ?_⟩
    split
    · simp
    · split <;> simp
  have hprojection : ∀ f ∈ projection q, f.1 ≠ "filter" := by
    rw [projection]
    split
    · exact hif _ _ (by decide)
    · simp
  have hflags : ∀ f ∈ flagFields q, f.1 ≠ "filter" := by
    simp only [flagFields, List.forall_mem_append]
    exact ⟨⟨⟨⟨⟨hif _ _ (by decide), hif _ _ (by decide)⟩, hif _ _ (by decide)⟩,
      hif _ _ (by decide)⟩, hif _ _ (by decide)⟩,
      hif _ _ (by decide)⟩
  exact List.forall_mem_append.mpr ⟨List.forall_mem_append.mpr ⟨hcounts, hprojection⟩, hflags⟩

/-- `RepeatsAtMost` for an `explain`, of which only its name is looked at. -/
theorem repeatsAtMost_explain (command rest : Document) {n : Nat} (hn : 7 ≤ n) :
    RepeatsAtMost n (("explain", .document command) :: rest) := by
  have hkey : Document.firstKey? (("explain", .document command) :: rest) = some "explain" := rfl
  refine repeatsAtMost_of_firstKey hkey (Nat.le_trans (by decide) hn) nofun fun limit e hcheck => ?_
  unfold InLimit.check at hcheck
  split at hcheck <;> cases hcheck

/-- `RepeatsAtMost` for a `find`, of which the name is known and the filter is that of the query. -/
theorem repeatsAtMost_findQuery {q : Query} {db coll : String} {t : QueryCommand}
    (h : findQuery q db coll = .ok t) :
    RepeatsAtMost ((Body.query q).plainSize + 64) t.command := by
  have hplain : q.query.size ≤ (Body.query q).plainSize := Wire.size_le_plainSize List.mem_cons_self
  simp only [findQuery, bind, Except.bind, pure, Except.pure] at h
  split at h
  · cases h
  split at h
  · cases h
  rename_i o ho
  have htaken := Options.isTaken_ofDocument ho
  split at h <;> cases h
  · exact repeatsAtMost_explain _ _ (Nat.le_add_left_of_le (by decide))
  -- nothing that is put in after the filter replaces it
  · have hfields : ∀ f ∈ o.extra ++ countFields q ++ projection q ++ flagFields q,
        f.1 ≠ "filter" := by
      rw [List.append_assoc, List.append_assoc, ← List.append_assoc (countFields q),
        List.forall_mem_append]
      exact ⟨htaken.extra, key_ne_filter q⟩
    refine repeatsAtMost_of_firstKey (Document.firstKey?_insertAll _ _ _)
      (Nat.le_add_left_of_le (show "find".utf8ByteSize ≤ 64 by decide))
      (by rintro _ ⟨⟩) fun limit e hcheck => ?_
    rw [InLimit.check] at hcheck
    split at hcheck
    · cases hcheck
    · refine InLimit.isRefusal_checkField (fun filter hfilter => ?_) hcheck
      rw [Document.get?_insertAll_of_ne _ hfields] at hfilter
      cases hfilter
      have := htaken.filter
      omega

/-- The errors of `findQuery` are those of `ofDocument`, and those about a query that is not
supported. -/
theorem isBrief_findQuery {q : Query} {db coll : String} {e : ServerError}
    (h : findQuery q db coll = .error e) :
    e.IsBrief q.query.size := by
  simp only [findQuery, bind, Except.bind, pure, Except.pure] at h
  split at h
  · cases h
    exact isBrief_ofCode _ _ (by decide)
  · split at h
    · rename_i e' he
      cases h
      exact Options.isBrief_ofDocument he
    · split at h <;> cases h

/-- `RepeatsAtMost` for the command of a query, of either kind. -/
theorem repeatsAtMost_queryCommand {q : Query} {t : QueryCommand} (h : queryCommand q = .ok t) :
    RepeatsAtMost ((Body.query q).plainSize + 64) t.command := by
  simp only [queryCommand, bind, Except.bind] at h
  split at h
  · cases h
  rename_i parts hparts
  obtain ⟨db, coll⟩ := parts
  simp only at h
  split at h
  · exact repeatsAtMost_of_isWithin (by omega)
      (isWithin_commandQuery (size_namespaceOf_le hparts).1 h)
  · split at h
    · cases h
    · exact repeatsAtMost_findQuery h

/-- The errors of `queryCommand` repeat the collection, a modifier, or the name of a command. -/
theorem isBrief_queryCommand {q : Query} {e : ServerError} (h : queryCommand q = .error e) :
    e.IsBrief (Body.query q).plainSize := by
  have hquery : q.query.size ≤ (Body.query q).plainSize := Wire.size_le_plainSize List.mem_cons_self
  -- each error quotes the name of the collection, or fields of the query
  simp only [queryCommand, bind, Except.bind] at h
  split at h
  · rename_i e' he
    cases h
    refine (isBrief_namespaceOf he).mono ?_
    rw [Body.plainSize]
    omega
  · split at h
    · exact (isBrief_commandQuery h).mono hquery
    · split at h
      · cases h
        exact isBrief_ofCode _ _ (by decide)
      · exact (isBrief_findQuery h).mono hquery

/-! ### Requests for more -/

/-- `RepeatsAtMost` for the command of a request for more, by its four fields. -/
theorem repeatsAtMost_getMoreCommand {g : GetMore} {d : Document} (h : getMoreCommand g = .ok d) :
    RepeatsAtMost ((Body.getMore g).plainSize + 64) d := by
  have hplain : (Body.getMore g).plainSize = g.collection.utf8ByteSize + 17 := rfl
  simp only [getMoreCommand, bind, Except.bind, pure, Except.pure] at h
  split at h
  · cases h
  rename_i parts hparts
  obtain ⟨hdb, hcoll⟩ := size_namespaceOf_le hparts
  cases h
  -- four fields, with keys that are short and values no longer than the name of the collection
  have hfield (key : String) (v : Value) (hkey : key.utf8ByteSize ≤ 64)
      (hv : v.size ≤ g.collection.utf8ByteSize + 8) :
      IsWithin ((Body.getMore g).plainSize + 64) (key, v) :=
    ⟨Nat.le_add_left_of_le hkey, .inl (by simp only; omega)⟩
  refine repeatsAtMost_of_isWithin (by omega) ?_
  simp only [List.forall_mem_cons, List.not_mem_nil, false_implies, implies_true, and_true]
  refine ⟨hfield _ _ (by decide) ?_, hfield _ _ (by decide) ?_, hfield _ _ (by decide) ?_,
    hfield _ _ (by decide) ?_⟩ <;>
    rw [Value.size] <;> omega

/-- The errors of `getMoreCommand` repeat the collection. -/
theorem isBrief_getMoreCommand {g : GetMore} {e : ServerError} (h : getMoreCommand g = .error e) :
    e.IsBrief (Body.getMore g).plainSize := by
  simp only [getMoreCommand, bind, Except.bind, pure, Except.pure] at h
  split at h <;> cases h
  rename_i he
  refine (isBrief_namespaceOf he).mono ?_
  rw [Body.plainSize]
  omega

end Legacy

end DocGateway
