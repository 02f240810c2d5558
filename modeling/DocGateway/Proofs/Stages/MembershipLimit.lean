import DocGateway.Stages.InLimit
/-!
# What the limit of membership lists finds

Where the query language has membership operators, which of these places are looked at, and what is
made of what is found there. Operators below the `$not` or the `$elemMatch` of a field are not
looked at, so lists of any length get past the limit there. Everywhere else none does.

## Key results

- `check_decides`: a command is accepted or refused for what is inspected
- `accepts_iff_fits`: what is accepted, and that only negated and element predicates escape
- `accepts_negated`: one that escapes
-/

namespace DocGateway.InLimit

open Bson (Document Value)

/-! ### Places of operators -/

/-- The lists of clauses that the query language has. -/
def connectives : List String := ["$and", "$or", "$nor"]

/-- Whether a key of a filter is the path of a field: the names of operators begin with a dollar
sign. -/
def isPath (key : String) : Bool := key.toList.head? != some '$'

mutual

/-- A membership operator stands in a filter, with its operand, where the query language takes one.
The flag tells whether it stands below a `$not` or an `$elemMatch`. -/
inductive InFilter : Bool → Document → String → Value → Prop
  | field {below : Bool} {filter predicate : Document} {path operator : String} {v : Value} :
    (path, .document predicate) ∈ filter → isPath path = true →
    InPredicate below predicate operator v → InFilter below filter operator v
  | clause {below : Bool} {filter clause : Document} {connective operator : String}
      {clauses : List Value} {v : Value} :
    (connective, .array clauses) ∈ filter → connective ∈ connectives → .document clause ∈ clauses →
    InFilter below clause operator v → InFilter below filter operator v

/-- A membership operator stands in the predicate of a field: as it is, negated, or in what is asked
of the elements, which is a predicate or a filter. -/
inductive InPredicate : Bool → Document → String → Value → Prop
  | here {predicate : Document} {operator : String} {v : Value} :
    (operator, v) ∈ predicate → operator ∈ operators → InPredicate false predicate operator v
  | negated {below : Bool} {predicate inner : Document} {operator : String} {v : Value} :
    ("$not", .document inner) ∈ predicate → InPredicate below inner operator v →
    InPredicate true predicate operator v
  | elements {below : Bool} {predicate inner : Document} {operator : String} {v : Value} :
    ("$elemMatch", .document inner) ∈ predicate → InPredicate below inner operator v →
    InPredicate true predicate operator v
  | subdocuments {below : Bool} {predicate inner : Document} {operator : String} {v : Value} :
    ("$elemMatch", .document inner) ∈ predicate → InFilter below inner operator v →
    InPredicate true predicate operator v

end

/-- A membership operator that the check of a filter comes by. It takes every document for a
predicate, and every array for clauses. -/
inductive Inspected : Document → String → Value → Prop
  | predicate {filter predicate : Document} {key operator : String} {v : Value} :
    (key, .document predicate) ∈ filter → (operator, v) ∈ predicate → operator ∈ operators →
    Inspected filter operator v
  | clause {filter clause : Document} {key operator : String} {clauses : List Value} {v : Value} :
    (key, .array clauses) ∈ filter → .document clause ∈ clauses → Inspected clause operator v →
    Inspected filter operator v

/-- The filters of the statements under a key. -/
def StatementFilter (d : Document) (key : String) (filter : Document) : Prop :=
  ∃ (statements : List Value) (statement : Document),
    d.getArray? key = some statements ∧ .document statement ∈ statements ∧
    statement.getDocument? "q" = some filter

/-- The filters of a command that the limit is for. -/
def FilterOf (d : Document) (commandName : String) (filter : Document) : Prop :=
  commandName = "find" ∧ d.getDocument? "filter" = some filter ∨
    commandName = "findAndModify" ∧ d.getDocument? "query" = some filter ∨
    commandName = "update" ∧ StatementFilter d "updates" filter ∨
    commandName = "delete" ∧ StatementFilter d "deletes" filter

/-- Every operator `InFilter` that is not below a `$not` or an `$elemMatch` is `Inspected`. -/
theorem inspected_of_inFilter {below : Bool} {filter : Document} {operator : String} {v : Value} :
    InFilter below filter operator v → below = false → Inspected filter operator v
  | .field hfield _ (.here hmem hoperator), _ => .predicate hfield hmem hoperator
  | .clause hclauses _ hclause hplace, hbelow =>
    .clause hclauses hclause (inspected_of_inFilter hplace hbelow)

/-! ### Decisions -/

/-- The operand is a list within the limit. -/
def Fits (limit : Nat) (v : Value) : Prop := ∃ items, v = .array items ∧ items.length ≤ limit

/-- Why an operator is refused. -/
inductive Refusal (limit : Nat) (operator : String) : Value → ServerError → Prop
  | tooLong {items : List Value} : limit < items.length →
      Refusal limit operator (.array items) (tooLong operator items.length limit)
  | notAList {v : Value} : (∀ items, v ≠ .array items) →
      Refusal limit operator v (notAList operator)

/-- An operator with a `Refusal` does not fit. -/
theorem Refusal.not_fits {limit : Nat} {operator : String} {v : Value} {e : ServerError}
    (h : Refusal limit operator v e) : ¬ Fits limit v := by
  rintro ⟨items, rfl, hle⟩
  cases h with
  | tooLong hlt => omega
  | notAList hne => exact hne items rfl

/-- A check decides on operators: it accepts if all of them fit, and refuses for one of them. -/
def Decides (limit : Nat) (result : Except ServerError Unit)
    (found : String → Value → Prop) : Prop :=
  match result with
  | .ok _ => ∀ operator v, found operator v → Fits limit v
  | .error e => ∃ operator v, found operator v ∧ Refusal limit operator v e

namespace Decides

variable {limit : Nat} {result first next : Except ServerError Unit}
  {found found' : String → Value → Prop}

/-- A check that `Decides` accepts exactly if all that it finds fits. -/
theorem ok_iff (h : Decides limit result found) :
    result = .ok () ↔ ∀ operator v, found operator v → Fits limit v := by
  cases result with
  | ok _ => exact ⟨fun _ => h, fun _ => rfl⟩
  | error e =>
    obtain ⟨operator, v, hfound, hrefusal⟩ := h
    exact ⟨nofun, fun hfits => absurd (hfits operator v hfound) hrefusal.not_fits⟩

/-- `Decides` depends on what is found alone. -/
theorem congr (h : Decides limit result found)
    (heq : ∀ operator v, found operator v ↔ found' operator v) : Decides limit result found' := by
  have : found = found' := funext fun operator => funext fun v => propext (heq operator v)
  exact this ▸ h

/-- `Decides` holds where there is nothing to find. -/
theorem nothing (hnone : ∀ operator v, ¬ found operator v) : Decides limit (.ok ()) found :=
  fun operator v hfound => absurd hfound (hnone operator v)

/-- `Decides` is kept by one check after another, for what either of them finds. -/
theorem seq (hfirst : Decides limit first found) (hnext : Decides limit next found') :
    Decides limit (first >>= fun _ => next) fun operator v => found operator v ∨
      found' operator v := by
  -- the first error is the one that is told
  cases first with
  | error e =>
    obtain ⟨operator, v, hfound, hrefusal⟩ := hfirst
    exact ⟨operator, v, .inl hfound, hrefusal⟩
  | ok _ =>
    cases next with
    | error e =>
      obtain ⟨operator, v, hfound, hrefusal⟩ := hnext
      exact ⟨operator, v, .inr hfound, hrefusal⟩
    | ok _ => exact fun operator v hfound => hfound.elim (hfirst operator v) (hnext operator v)

/-- `Decides` is kept by checks of one thing after another, for what is found in any of them. -/
theorem forM {α : Type} {check : α → Except ServerError Unit} (foundIn : α → String → Value → Prop)
    (h : ∀ a, Decides limit (check a) (foundIn a)) (as : List α) :
    Decides limit (as.forM check) fun operator v => ∃ a ∈ as, foundIn a operator v := by
  induction as with
  | nil => exact .nothing (by simp)
  | cons a rest ih =>
    rw [List.forM]
    exact ((h a).seq ih).congr fun operator v => by simp

end Decides

/-! ### Walks -/

variable (limit : Nat)

/-- `checkPredicate` decides on the operators in a predicate. -/
theorem checkPredicate_decides (predicate : Document) :
    Decides limit (checkPredicate limit predicate) fun operator v => (operator, v) ∈ predicate ∧
      operator ∈ operators := by
  induction predicate with
  | nil => exact .nothing (by simp)
  | cons field rest ih =>
    obtain ⟨operator, v⟩ := field
    -- what is found in the rest is found, and besides it at most the first field
    have hrest (hfits : operator ∈ operators → Fits limit v) :
        Decides limit (checkPredicate limit rest)
        fun operator' v' => (operator', v') ∈ (operator, v) :: rest ∧ operator' ∈ operators := by
      revert ih
      cases checkPredicate limit rest with
      | error e =>
        rintro ⟨operator', v', ⟨hmem, hoperator⟩, hrefusal⟩
        exact ⟨operator', v', ⟨List.mem_cons_of_mem _ hmem, hoperator⟩, hrefusal⟩
      | ok _ =>
        rintro ih operator' v' ⟨hmem, hoperator⟩
        obtain heq | hmem := List.mem_cons.mp hmem
        · cases heq
          exact hfits hoperator
        · exact ih operator' v' ⟨hmem, hoperator⟩
    by_cases hoperator : operator ∈ operators
    · have hcontains : operators.contains operator = true := List.contains_iff_mem.mpr hoperator
      cases v with
      | array items =>
        simp only [checkPredicate, hcontains, ↓reduceIte]
        split
        · rename_i hlt
          exact ⟨operator, .array items, ⟨List.mem_cons_self, hoperator⟩, .tooLong hlt⟩
        · rename_i hle
          exact hrest fun _ => ⟨items, rfl, Nat.le_of_not_lt hle⟩
      | _ =>
        simp only [checkPredicate, hcontains, ↓reduceIte]
        exact ⟨operator, _, ⟨List.mem_cons_self, hoperator⟩, .notAList nofun⟩
    · have hcontains : operators.contains operator = false := by simpa using hoperator
      simp only [checkPredicate, hcontains, Bool.false_eq_true, ↓reduceIte]
      exact hrest fun h => absurd h hoperator

/-- `Inspected` in a filter is in its first field or in the others. -/
theorem inspected_cons {key operator : String} {v w : Value} {rest : Document} :
    Inspected ((key, w) :: rest) operator v ↔
      ((∃ predicate, w = .document predicate ∧ (operator, v) ∈ predicate ∧ operator ∈ operators) ∨
        ∃ clauses clause, w = .array clauses ∧ .document clause ∈ clauses ∧
        Inspected clause operator v) ∨ Inspected rest operator v := by
  -- a place is in the first field or in one of the others
  constructor
  · intro h
    cases h with
    | predicate hfield hmem hoperator =>
      obtain heq | hfield := List.mem_cons.mp hfield
      · cases heq
        exact .inl (.inl ⟨_, rfl, hmem, hoperator⟩)
      · exact .inr (.predicate hfield hmem hoperator)
    | clause hclauses hclause hplace =>
      obtain heq | hclauses := List.mem_cons.mp hclauses
      · cases heq
        exact .inl (.inr ⟨_, _, rfl, hclause, hplace⟩)
      · exact .inr (.clause hclauses hclause hplace)
  · rintro ((⟨predicate, rfl, hmem, hoperator⟩ | ⟨clauses, clause, rfl, hclause, hplace⟩) | hrest)
    · exact .predicate List.mem_cons_self hmem hoperator
    · exact .clause List.mem_cons_self hclause hplace
    · cases hrest with
      | predicate hfield hmem hoperator =>
        exact .predicate (List.mem_cons_of_mem _ hfield) hmem hoperator
      | clause hclauses hclause hplace =>
        exact .clause (List.mem_cons_of_mem _ hclauses) hclause hplace

mutual

/-- `checkFilter` decides on what is `Inspected` in the filter. -/
theorem checkFilter_decides :
    (filter : Document) → Decides limit (checkFilter limit filter) (Inspected filter)
  | [] => by
    rw [checkFilter]
    exact .nothing fun operator v h => by cases h <;> contradiction
  | (_, w) :: rest => by
    -- the first field decides for itself, and the others by the recursion
    have hrest := checkFilter_decides rest
    cases w with
    | document predicate =>
      rw [checkFilter]
      exact ((checkPredicate_decides limit predicate).seq hrest).congr fun operator v => by
        simp [inspected_cons]
    | array clauses =>
      rw [checkFilter]
      exact ((checkClauses_decides clauses).seq hrest).congr fun operator v => by
        simp [inspected_cons]
    | _ =>
      simp only [checkFilter]
      exact hrest.congr fun operator v => by simp [inspected_cons]

/-- `checkClauses` decides on what is `Inspected` in the clauses that are filters. -/
theorem checkClauses_decides : (clauses : List Value) →
    Decides limit (checkClauses limit clauses) fun operator v => ∃ clause,
      .document clause ∈ clauses ∧ Inspected clause operator v
  | [] => by
    rw [checkClauses]
    exact .nothing (by simp)
  | w :: rest => by
    have hrest := checkClauses_decides rest
    -- what is no document is no clause
    cases w with
    | document clause =>
      rw [checkClauses]
      exact ((checkFilter_decides clause).seq hrest).congr fun operator v => by
        simp [or_and_right, exists_or]
    | _ =>
      simp only [checkClauses]
      exact hrest.congr fun operator v => by simp

end

/-! ### Commands -/

variable (d : Document)

/-- `checkField` decides on what is `Inspected` in the filter of a field. -/
theorem checkField_decides (key : String) : Decides limit (checkField limit d key) fun operator v =>
    ∃ filter, d.getDocument? key = some filter ∧ Inspected filter operator v := by
  rw [checkField]
  cases hfilter : d.getDocument? key with
  | none => exact .nothing (by simp)
  | some filter => exact (checkFilter_decides limit filter).congr fun operator v => by simp

/-- `checkStatements` decides on what is `Inspected` in the filters of statements. -/
theorem checkStatements_decides (key : String) :
    Decides limit (checkStatements limit d key) fun operator v =>
      ∃ filter, StatementFilter d key filter ∧ Inspected filter operator v := by
  rw [checkStatements]
  cases hstatements : d.getArray? key with
  | none => exact .nothing (by simp [StatementFilter, hstatements])
  | some statements =>
    refine (Decides.forM (fun w operator v => ∃ statement : Document, w = .document statement ∧
      ∃ filter, statement.getDocument? "q" = some filter ∧
      Inspected filter operator v) (fun w => ?_) statements).congr fun operator v => ?_
    -- one statement: its filter is looked at, if it is a document at all
    · cases w with
      | document statement =>
        exact (checkField_decides limit statement "q").congr fun operator v => by simp
      | _ => exact .nothing (by simp)
    · constructor
      · rintro ⟨_, hmem, statement, rfl, filter, hfilter, hinspected⟩
        exact ⟨filter, ⟨statements, statement, hstatements, hmem, hfilter⟩, hinspected⟩
      · rintro ⟨filter, ⟨_, statement, hstatements', hmem, hfilter⟩, hinspected⟩
        obtain rfl := Option.some.inj (hstatements.symm.trans hstatements')
        exact ⟨_, hmem, statement, rfl, filter, hfilter, hinspected⟩

/-- `check` decides on what is `Inspected` in the filters of a command. -/
theorem check_decides {limit : Nat} (hlimit : 0 < limit) (commandName : String) :
    Decides limit (check limit commandName d) fun operator v =>
      ∃ filter, FilterOf d commandName filter ∧ Inspected filter operator v := by
  unfold check
  rw [if_neg (Nat.ne_of_gt hlimit)]
  split
  · exact (checkField_decides limit d "filter").congr fun operator v => by simp [FilterOf]
  · exact (checkField_decides limit d "query").congr fun operator v => by simp [FilterOf]
  · exact (checkStatements_decides limit d "updates").congr fun operator v => by simp [FilterOf]
  · exact (checkStatements_decides limit d "deletes").congr fun operator v => by simp [FilterOf]
  -- a command of another name has no filter that is looked at
  · rename_i hfind hfindAndModify hupdate hdelete
    refine .nothing ?_
    rintro operator v ⟨filter, ⟨h, -⟩ | ⟨h, -⟩ | ⟨h, -⟩ | ⟨h, -⟩, -⟩
    · exact hfind h
    · exact hfindAndModify h
    · exact hupdate h
    · exact hdelete h

/-- `check` accepts a command exactly if all operators that are `Inspected` in its filters have
lists within the limit (`Fits`). These are all that the query language allows (`InFilter`), but for
those below the `$not` or the `$elemMatch` of a field. -/
theorem accepts_iff_fits {limit : Nat} (hlimit : 0 < limit) (commandName : String) :
    (check limit commandName d = .ok () ↔
      ∀ filter, FilterOf d commandName filter → ∀ operator v, Inspected filter operator v →
      Fits limit v) ∧
    ∀ filter operator v, InFilter false filter operator v → Inspected filter operator v := by
  refine ⟨(check_decides d hlimit commandName).ok_iff.trans ⟨?_, ?_⟩,
    fun _ _ _ h => inspected_of_inFilter h rfl⟩
  · intro h filter hfilter operator v hinspected
    exact h operator v ⟨filter, hfilter, hinspected⟩
  · rintro h operator v ⟨filter, hfilter, hinspected⟩
    exact h filter hfilter operator v hinspected

/-- A command with a filter. -/
def finding (filter : Document) : Document :=
  [("find", .string "c"), ("filter", .document filter), ("$db", .string "db")]

/-- `check` of a `find` command is `checkFilter` of its filter. -/
theorem check_finding {limit : Nat} (hlimit : limit ≠ 0) (filter : Document) :
    check limit "find" (finding filter) = checkFilter limit filter := by
  rw [check, if_neg hlimit]
  rfl

/-- A list of two members. -/
def pair : Value := .array [.int32 1, .int32 2]

/-- `check` accepts two members in a clause with a limit of two, so they fit. -/
theorem accepts_iff_fits_clause :
    0 < 2 ∧
      check 2 "find" (finding [("$or", .array [.document [("a", .document [("$in", pair)])]])]) =
        .ok () ∧ Fits 2 pair := by
  have hchecked : check 2 "find"
      (finding [("$or", .array [.document [("a", .document [("$in", pair)])]])]) = .ok () := by
    rw [check_finding (by decide)]
    simp [checkFilter, checkClauses, checkPredicate, operators, pair]
    rfl
  obtain ⟨haccepted, hinspected⟩ :=
    accepts_iff_fits (finding [("$or", .array [.document [("a", .document [("$in", pair)])]])])
      (show 0 < 2 by decide) "find"
  refine ⟨by decide, hchecked,
    haccepted.mp hchecked _ (.inl ⟨rfl, rfl⟩) "$in" _ (hinspected _ _ _ ?_)⟩
  exact .clause List.mem_cons_self (by decide) List.mem_cons_self
    (.field List.mem_cons_self (by decide) (.here List.mem_cons_self (by decide)))

/-- `check` accepts two members below a `$not` with a limit of one. -/
theorem accepts_negated :
    check 1 "find" (finding [("a", .document [("$not", .document [("$in", pair)])])]) = .ok () ∧
      FilterOf (finding [("a", .document [("$not", .document [("$in", pair)])])])
        "find" [("a", .document [("$not", .document [("$in", pair)])])] ∧
      InFilter true [("a", .document [("$not", .document [("$in", pair)])])] "$in" pair ∧
      ¬ Fits 1 pair := by
  refine ⟨?_, .inl ⟨rfl, rfl⟩, ?_, ?_⟩
  · rw [check_finding (by decide)]
    simp [checkFilter, checkPredicate, operators]
    rfl
  -- the list is inside a negation, where no one looks
  · exact .field List.mem_cons_self (by decide)
      (.negated List.mem_cons_self (.here List.mem_cons_self (by decide)))
  · rintro ⟨items, heq, hle⟩
    cases heq
    exact absurd hle (by decide)

end DocGateway.InLimit
