import DocGateway.Proofs.Command.Kinds
import DocGateway.Proofs.Legacy.Options
import Mathlib.Data.List.Nodup
/-!
# What legacy queries become

A legacy query on a collection becomes a `find` command. Its first three fields are the collection,
the database and the filter. After them come the options of the query document, and what the counts,
the selector and the flags of the query stand for. None of these has a key of the first three, so
all that clients write is told apart from where it goes.

## Key results

- `namespaceOf_eq_ok_iff`: what a full collection name names
- `queryCommand_eq_ok_iff`, `findQuery_eq_ok_iff`, `getMoreCommand_eq_ok_iff`: which requests become
  commands, and which commands
- `findCommand_eq`, `get?_findCommand`: the fields of a `find` command
- `targets_named`: commands go to the databases and collections that the requests name
-/

namespace DocGateway

open Bson (Document Value)

/-! ### Collections -/

/-- A full collection name names a collection of a database: the names of both, which are not empty,
stand before and after its first dot. -/
structure Names (full db coll : String) : Prop where
  eq : full = db ++ "." ++ coll
  noDot : '.' ∉ db.toList
  database : db ≠ ""
  collection : coll ≠ ""

/-- `splitNamespace` gives two parts that make up the name with a dot between them, of which the
first has no dot. -/
theorem Wire.splitNamespace_eq_iff {full db coll : String} (hcoll : coll ≠ "") :
    splitNamespace full = (db, coll) ↔ full = db ++ "." ++ coll ∧ '.' ∉ db.toList := by
  have hdot : ".".toList = ['.'] := rfl
  rw [splitNamespace, Prod.mk.injEq]
  constructor
  · rintro ⟨rfl, rfl⟩
    rw [String.toList_ofList]
    refine ⟨?_, fun h => by simpa using List.all_eq_true.mp List.all_takeWhile _ h⟩
    cases hrest : full.toList.dropWhile (· ≠ '.') with
    | nil => exact absurd (by rw [hrest]; rfl) hcoll
    | cons c rest =>
      -- the first character that is left is the one that stopped the search
      have hc : c = '.' := by
        have hhead :=
          List.head_dropWhile_not (p := (· ≠ '.')) (l := full.toList) (by rw [hrest]; nofun)
        simp only [hrest, List.head_cons] at hhead
        simpa using hhead
      rw [hc] at hrest
      rw [← String.toList_inj, String.toList_append, String.toList_append, hdot,
        String.toList_ofList, String.toList_ofList, List.drop_one, List.tail_cons,
        List.append_assoc, List.singleton_append, ← hrest, List.takeWhile_append_dropWhile]
  · rintro ⟨rfl, hnoDot⟩
    have hbefore : ∀ c ∈ db.toList, decide (c ≠ '.') = true :=
      fun c hc => decide_eq_true fun heq => hnoDot (heq ▸ hc)
    rw [String.toList_append, String.toList_append, hdot, List.append_assoc,
      List.takeWhile_append_of_pos hbefore, List.dropWhile_append_of_pos hbefore]
    simp

namespace Legacy

open Wire (Query GetMore)

/-- `namespaceOf` succeeds with what a full collection name `Names`. -/
theorem namespaceOf_eq_ok_iff {full db coll : String} :
    namespaceOf full = .ok (db, coll) ↔ Names full db coll := by
  have hsplit : Names full db coll ↔ (¬ (db.isEmpty = true ∨ coll.isEmpty = true)) ∧
      Wire.splitNamespace full = (db, coll) := by
    rw [String.isEmpty_iff, String.isEmpty_iff, not_or]
    constructor
    · intro h
      exact ⟨⟨h.database, h.collection⟩,
        (Wire.splitNamespace_eq_iff h.collection).mpr ⟨h.eq, h.noDot⟩⟩
    · rintro ⟨⟨hdb, hcoll⟩, h⟩
      obtain ⟨heq, hnoDot⟩ := (Wire.splitNamespace_eq_iff hcoll).mp h
      exact ⟨heq, hnoDot, hdb, hcoll⟩
  -- what is left is the check that neither part is empty
  rw [hsplit, namespaceOf]
  obtain ⟨db', coll'⟩ := Wire.splitNamespace full
  simp only [Prod.mk.injEq]
  split
  · rename_i hempty
    refine iff_of_false nofun ?_
    rintro ⟨hne, rfl, rfl⟩
    exact hne hempty
  · rename_i hne
    constructor
    · intro h
      cases h
      exact ⟨hne, rfl, rfl⟩
    · rintro ⟨-, rfl, rfl⟩
      rfl

/-! ### Commands -/

/-- The fields of a `find` command that are no options. -/
def otherFields (q : Query) : Document := countFields q ++ projection q ++ flagFields q

/-- The `find` command of a query with these options. -/
def findCommand (q : Query) (db coll : String) (o : Options) : Document :=
  Document.insertAll [("find", .string coll), ("$db", .string db), ("filter", .document o.filter)]
    (o.extra ++ otherFields q)

/-- A `find` command, in a request for an explanation if one is asked for. -/
def explainedIf (asked : Bool) (db : String) (find : Document) : QueryCommand :=
  if asked then ⟨[("explain", .document find), ("$db", .string db)], .explain⟩ else ⟨find, .find⟩

/-- The `find` command in what a query becomes. -/
def QueryCommand.find? (t : QueryCommand) : Option Document :=
  match t.shape with
  | .find => some t.command
  | .explain => t.command.getDocument? "explain"
  | .command _ => none

/-- The `find` command of `explainedIf` is the one it is given. -/
@[simp] theorem find?_explainedIf (asked : Bool) (db : String) (find : Document) :
    (explainedIf asked db find).find? = some find := by
  cases asked <;> rfl

/-- The shape of `explainedIf` tells whether an explanation is asked for. -/
@[simp] theorem shape_explainedIf (asked : Bool) (db : String) (find : Document) :
    (explainedIf asked db find).shape = if asked then .explain else .find := by
  cases asked <;> rfl

/-- `findQuery` succeeds whenever the options can be read, unless all batches are asked for at
once. -/
theorem findQuery_eq (q : Query) (db coll : String) :
    findQuery q db coll =
      if q.flags.exhaust then
        .error (.ofCode .commandNotSupported "exhaust queries are not supported")
      else
        (Options.ofDocument q.query).map fun o =>
          explainedIf o.explain db (findCommand q db coll o) := by
  rw [findQuery]
  cases q.flags.exhaust with
  | true => rfl
  | false =>
    cases Options.ofDocument q.query with
    | error e => rfl
    | ok o =>
      -- the fields of the command stand in the order in which they are put in
      simp only [findCommand, otherFields, explainedIf, ← List.append_assoc, bind, Except.bind,
        Except.map, Bool.false_eq_true, ↓reduceIte]
      cases o.explain <;> rfl

/-- `findQuery` gives the `findCommand` of the options, or a request to explain that. -/
theorem findQuery_eq_ok_iff {q : Query} {db coll : String} {t : QueryCommand} :
    findQuery q db coll = .ok t ↔
      q.flags.exhaust = false ∧ ∃ o, Options.ofDocument q.query = .ok o ∧
      t = explainedIf o.explain db (findCommand q db coll o) := by
  rw [findQuery_eq]
  cases q.flags.exhaust with
  | true => simp
  | false =>
    cases Options.ofDocument q.query with
    | error e => simp [Except.map]
    | ok o => simp [Except.map, eq_comm]

/-- `queryCommand` of a query on a collection, by the name of the collection. -/
theorem queryCommand_of_names {q : Query} {db coll : String} (h : Names q.collection db coll) :
    queryCommand q =
      if coll = commandCollection then commandQuery q db
      else if coll.startsWith commandCollection then
        .error (.ofCode .commandNotFound "no such command")
      else findQuery q db coll := by
  simp only [queryCommand, namespaceOf_eq_ok_iff.mpr h, bind, Except.bind]

/-- `queryCommand` succeeds for names of a database and a collection, with `commandQuery` or
`findQuery`. -/
theorem queryCommand_eq_ok_iff {q : Query} {t : QueryCommand} :
    queryCommand q = .ok t ↔ ∃ db coll, Names q.collection db coll ∧
      (coll = commandCollection ∧ commandQuery q db = .ok t ∨
        ¬ coll.startsWith commandCollection = true ∧ findQuery q db coll = .ok t) := by
  -- a name that starts like that of the commands is theirs or none at all
  have hstarts : commandCollection.startsWith commandCollection = true :=
    String.startsWith_string_iff.mpr List.prefix_rfl
  constructor
  · intro h
    cases hns : namespaceOf q.collection with
    | error e => simp [queryCommand, hns, bind, Except.bind] at h
    | ok parts =>
      obtain ⟨db, coll⟩ := parts
      have hnames := namespaceOf_eq_ok_iff.mp hns
      refine ⟨db, coll, hnames, ?_⟩
      rw [queryCommand_of_names hnames] at h
      split at h
      · exact .inl ⟨‹_›, h⟩
      · split at h
        · cases h
        · exact .inr ⟨‹_›, h⟩
  · rintro ⟨db, coll, hnames, ⟨rfl, h⟩ | ⟨hno, h⟩⟩
    · rw [queryCommand_of_names hnames, if_pos rfl, h]
    · have hne : coll ≠ commandCollection := fun heq => hno (heq ▸ hstarts)
      rw [queryCommand_of_names hnames, if_neg hne, if_neg hno, h]

/-- `getMoreCommand` succeeds for names of a database and a collection, with four fields. -/
theorem getMoreCommand_eq_ok_iff {g : GetMore} {d : Document} :
    getMoreCommand g = .ok d ↔ ∃ db coll, Names g.collection db coll ∧
      d = [("getMore", .int64 g.cursorId), ("batchSize", .int32 g.limit), ("$db", .string db),
        ("collection", .string coll)] := by
  simp only [getMoreCommand, bind, Except.bind, pure, Except.pure]
  constructor
  · intro h
    cases hns : namespaceOf g.collection with
    | error e => simp [hns] at h
    | ok parts =>
      simp only [hns, Except.ok.injEq] at h
      exact ⟨parts.1, parts.2, namespaceOf_eq_ok_iff.mp hns, h.symm⟩
  · rintro ⟨db, coll, hnames, rfl⟩
    rw [namespaceOf_eq_ok_iff.mpr hnames]

/-! ### Fields of `find` commands -/

/-- `fieldIf` has no other key than its own. -/
theorem key_of_mem_fieldIf {condition : Bool} {key : String} {v : Value} {f : String × Value}
    (h : f ∈ fieldIf condition key v) :
    f.1 = key := by
  cases condition with
  | false => cases h
  | true => rw [List.mem_singleton.mp h]

/-- Fields that are there under conditions. -/
def fieldsIf (fields : List (Bool × String × Value)) : Document :=
  fields.flatMap fun f => fieldIf f.1 f.2.1 f.2.2

/-- `fieldsIf` has the fields whose conditions hold. -/
theorem mem_fieldsIf {fields : List (Bool × String × Value)} {key : String} {v : Value} :
    (key, v) ∈ fieldsIf fields ↔ (true, key, v) ∈ fields := by
  rw [fieldsIf, List.mem_flatMap]
  constructor
  · rintro ⟨⟨condition, key', v'⟩, hmem, hf⟩
    cases condition with
    | false => cases hf
    | true =>
      cases List.mem_singleton.mp hf
      exact hmem
  · exact fun h => ⟨_, h, List.mem_cons_self⟩

/-- `fieldsIf` has no other keys, and has them in order. -/
theorem keys_fieldsIf_sublist (fields : List (Bool × String × Value)) :
    ((fieldsIf fields).map (·.1)).Sublist (fields.map (·.2.1)) := by
  induction fields with
  | nil => exact List.Sublist.slnil
  | cons f rest ih =>
    obtain ⟨condition, key, v⟩ := f
    rw [fieldsIf, List.flatMap_cons, ← fieldsIf, List.map_append, List.map_cons]
    cases condition with
    | false => exact ih.cons _
    | true => exact ih.cons_cons _

/-- `fieldsIf` has a field exactly if its condition holds, where the keys differ. -/
theorem get?_fieldsIf {fields : List (Bool × String × Value)} (hnodup : (fields.map (·.2.1)).Nodup)
    {condition : Bool} {key : String} {v : Value} (h : (condition, key, v) ∈ fields) :
    (fieldsIf fields).get? key =
      if condition then some v else none := by
  have hkeys : ((fieldsIf fields).map (·.1)).Nodup := hnodup.sublist (keys_fieldsIf_sublist fields)
  cases condition with
  | true => exact Document.get?_of_mem_of_nodup hkeys (mem_fieldsIf.mpr h)
  | false =>
    cases hget : (fieldsIf fields).get? key with
    | none => rfl
    | some w =>
      -- the field that is there would be another one with the same key
      have hother : (true, key, w) ∈ fields := mem_fieldsIf.mp (Document.mem_of_get? hget)
      have := List.inj_on_of_nodup_map hnodup hother h rfl
      cases this

/-- The number of documents that a number to return asks for. -/
def batchSize (n : Int32) : Int32 :=
  if 0 < n.toInt then n else Int32.ofInt (min (-n.toInt) Int32.maxValue.toInt)

/-- The flags that stand for fields, with the keys of these. -/
def flagKeys : List (String × (Wire.QueryFlags → Bool)) :=
  [("tailable", Wire.QueryFlags.tailable), ("readPreference", Wire.QueryFlags.slaveOk),
    ("oplogReplay", Wire.QueryFlags.oplogReplay),
    ("noCursorTimeout", Wire.QueryFlags.noCursorTimeout), ("awaitData", Wire.QueryFlags.awaitData),
    ("allowPartialResults", Wire.QueryFlags.allowPartial)]

/-- The fields that the counts, the selector and the flags can stand for. -/
def conditionalFields (q : Query) : List (Bool × String × Value) :=
  [(decide (0 < q.skip.toInt), "skip", .int32 q.skip),
    (decide (q.limit.toInt ≠ 0), "batchSize", .int32 (batchSize q.limit)),
    (decide (q.limit.toInt < 0), "singleBatch", .boolean true),
    (q.selector.any (!·.isEmpty), "projection", .document (q.selector.getD []))] ++
  flagKeys.map fun f =>
    (f.2 q.flags, f.1, if f.1 = "readPreference" then secondaryPreferred else .boolean true)

/-- `projection` is there if the selector has fields. -/
theorem projection_eq (q : Query) :
    projection q = fieldIf (q.selector.any (!·.isEmpty)) "projection"
      (.document (q.selector.getD [])) := by
  rw [projection]
  cases q.selector <;> rfl

/-- `otherFields` are the `conditionalFields` whose conditions hold. -/
theorem otherFields_eq (q : Query) : otherFields q = fieldsIf (conditionalFields q) := by
  have hbatch : (if 0 < q.limit.toInt then [("batchSize", Value.int32 q.limit)]
      else if q.limit.toInt < 0 then
        [("batchSize", .int32 (Int32.ofInt (min (-q.limit.toInt) Int32.maxValue.toInt))),
          ("singleBatch", .boolean true)]
      else []) = fieldIf (decide (q.limit.toInt ≠ 0)) "batchSize" (.int32 (batchSize q.limit)) ++
        fieldIf (decide (q.limit.toInt < 0)) "singleBatch" (.boolean true) := by
    rw [batchSize]
    -- the sign of the limit decides which of the two fields there are
    obtain hlt | heq | hgt := Int.lt_trichotomy q.limit.toInt 0
    · rw [if_neg (by omega), if_pos hlt, if_neg (by omega), decide_eq_true (Int.ne_of_lt hlt),
        decide_eq_true hlt]
      rfl
    · rw [heq]
      rfl
    · rw [if_pos hgt, if_pos hgt, decide_eq_true (Int.ne_of_gt hgt), decide_eq_false (by omega)]
      rfl
  rw [otherFields, countFields, hbatch, projection_eq, flagFields]
  simp [fieldsIf, conditionalFields, flagKeys]

/-- The keys of the `conditionalFields`, in order. -/
theorem keys_conditionalFields (q : Query) :
    (conditionalFields q).map (·.2.1) =
      ["skip", "batchSize", "singleBatch", "projection", "tailable", "readPreference",
        "oplogReplay", "noCursorTimeout", "awaitData", "allowPartialResults"] := rfl

/-- `otherFields` have a conditional field exactly if its condition holds. -/
theorem get?_otherFields (q : Query) {condition : Bool} {key : String} {v : Value}
    (h : (condition, key, v) ∈ conditionalFields q) :
    (otherFields q).get? key = if condition then some v else none := by
  rw [otherFields_eq]
  exact get?_fieldsIf (by rw [keys_conditionalFields]; decide) h

/-- No option and no conditional field has a key of the first three fields. -/
theorem not_mem_firstKeys (q : Query) :
    ∀ key ∈ optionNames.map (·.2) ++ (conditionalFields q).map (·.2.1),
      key ∉ ["find", "$db", "filter"] := by
  rw [keys_conditionalFields]
  decide

/-- `findCommand` has its first three fields in front, and the others behind. -/
theorem findCommand_eq {q : Query} {o : Options}
    (ho : ∀ f ∈ o.extra, ∃ key, optionName? key = some f.1) (db coll : String) :
    findCommand q db coll o =
      [("find", .string coll), ("$db", .string db), ("filter", .document o.filter)] ++
      Document.ofFields (o.extra ++ otherFields q) := by
  refine Document.insertAll_append_of_not_mem
    (d := [("find", .string coll), ("$db", .string db), ("filter", .document o.filter)])
    (fun f hf => not_mem_firstKeys q f.1 ?_) []
  rw [List.mem_append] at hf ⊢
  refine hf.imp (fun hf => ?_) fun hf => ?_
  · obtain ⟨key, hname⟩ := ho f hf
    exact List.mem_map.mpr ⟨_, mem_optionNames hname, rfl⟩
  · rw [otherFields_eq] at hf
    exact List.mem_map.mpr ⟨_, mem_fieldsIf.mp hf, rfl⟩

/-- `findCommand` has the filter of the options. -/
theorem get?_filter_findCommand {q : Query} {o : Options}
    (ho : ∀ f ∈ o.extra, ∃ key, optionName? key = some f.1) (db coll : String) :
    (findCommand q db coll o).get? "filter" = some (.document o.filter) := by
  rw [findCommand_eq ho, Document.get?_append]
  rfl

/-- `findCommand` has under any other key what `otherFields` have, or else what the last option
says. -/
theorem get?_findCommand {q : Query} {o : Options}
    (ho : ∀ f ∈ o.extra, ∃ key, optionName? key = some f.1) (db coll : String) {key : String}
    (hkey : key ∉ ["find", "$db", "filter"]) :
    (findCommand q db coll o).get? key = ((otherFields q).get? key).or
      (Document.get? o.extra.reverse key) := by
  -- the fields on a condition have different keys, so only options may be overwritten
  have hnodup : ((otherFields q).map (·.1)).Nodup := by
    rw [otherFields_eq]
    refine List.Nodup.sublist (keys_fieldsIf_sublist _) ?_
    rw [keys_conditionalFields]
    decide
  have hnone : Document.get? [("find", .string coll), ("$db", .string db),
      ("filter", .document o.filter)] key = none :=
    Document.get?_eq_none_of_not_mem hkey
  rw [findCommand_eq ho, Document.get?_append, hnone, Option.none_or, Document.ofFields,
    Document.get?_insertAll, List.reverse_append, Document.get?_append,
    Document.get?_reverse_of_nodup hnodup]
  exact Option.or_none

/-! ### Where commands go -/

/-- `commandQuery` has the database of the query, whatever the client has in its command. -/
theorem getString?_commandQuery {q : Query} {db : String} {t : QueryCommand}
    (h : commandQuery q db = .ok t) :
    t.command.getString? "$db" = some db := by
  suffices hget : t.command.get? "$db" = some (.string db) by rw [Document.getString?, hget]
  cases hcommand : unwrapCommand q.query with
  | error e => simp [commandQuery, hcommand, bind, Except.bind] at h
  | ok command =>
    simp only [commandQuery, hcommand, bind, Except.bind, pure, Except.pure, Except.ok.injEq] at h
    subst h
    -- the database is inserted first, and no field after it has its name
    have hfields : ∀ f ∈ fieldIf (decide (0 < q.skip.toInt)) "skip" (.int32 q.skip) ++ projection q,
        f.1 ≠ "$db" := by
      rw [projection_eq]
      intro f hf
      obtain hf | hf := List.mem_append.mp hf <;> rw [key_of_mem_fieldIf hf] <;> decide
    have hdatabase : ((command.insert "$db" (.string db)).insertAll
        (fieldIf (decide (0 < q.skip.toInt)) "skip" (.int32 q.skip) ++ projection q)).get? "$db" =
        some (.string db) := by
      rw [Document.get?_insertAll_of_ne _ hfields, Document.get?_insert, if_pos rfl]
    dsimp only
    split
    · rw [Document.get?_insert_of_ne _ _ _ (by decide), hdatabase]
    · exact hdatabase

/-- `parse` keeps the document. -/
theorem document_of_parse {d : Document} {c : Command} (h : Command.parse d = .ok c) :
    c.document = d :=
  (Command.kindOf_of_parse h).1

/-- `parse` accepts a `findCommand`, explained or not, and it goes to the collection that it is made
for. -/
theorem parse_explainedIf {q : Query} {o : Options}
    (ho : ∀ f ∈ o.extra, ∃ key, optionName? key = some f.1) (asked : Bool) (db coll : String) :
    ∃ c, Command.parse (explainedIf asked db (findCommand q db coll o)).command = .ok c ∧
      c.name = (if asked then "explain" else "find") ∧
      c.database = db ∧ c.collection? = some coll := by
  rw [findCommand_eq ho]
  cases asked with
  | true => exact ⟨⟨.explain, _⟩, rfl, rfl, rfl, rfl⟩
  | false => exact ⟨⟨.find, _⟩, rfl, rfl, rfl, rfl⟩

/-- Legacy requests go where their full collection names say, whatever else is in them. Only names
of a database and a collection become commands (`Names`). What `queryCommand` makes of a query on
the collection for commands keeps the database of its name in whatever command it is. All other
queries are `find` commands on their collection, or requests to `explain` such, and requests for
more are `getMore` commands on their own cursor. -/
theorem targets_named (q : Query) (g : GetMore) :
    (∀ t, queryCommand q = .ok t → ∃ db coll, Names q.collection db coll ∧
      (coll = "$cmd" ∨ ¬ "$cmd".toList <+: coll.toList) ∧
      (∀ c, Command.parse t.command = .ok c → c.database = db) ∧
      (coll ≠ "$cmd" → ∃ c, Command.parse t.command = .ok c ∧
        (c.name = "find" ∨ c.name = "explain") ∧
        (c.name = "explain" ↔ t.shape = .explain) ∧ c.collection? = some coll)) ∧
    ∀ d, getMoreCommand g = .ok d → ∃ db coll, Names g.collection db coll ∧
    ∃ c, Command.parse d = .ok c ∧ c.name = "getMore" ∧
      c.cursorId? = some g.cursorId ∧ c.database = db ∧ c.collection? = some coll := by
  constructor
  · intro t h
    obtain ⟨db, coll, hnames, ⟨rfl, hcommand⟩ | ⟨hno, hfind⟩⟩ := queryCommand_eq_ok_iff.mp h
    -- a command of the client: whatever it says of its database is overwritten
    · refine ⟨db, _, hnames, .inl rfl, fun c hc => ?_, fun hne => absurd rfl hne⟩
      rw [Command.database, document_of_parse hc, getString?_commandQuery hcommand,
        Option.getD_some]
    · obtain ⟨-, o, ho, rfl⟩ := findQuery_eq_ok_iff.mp hfind
      obtain ⟨c, hc, hname, hdatabase, hcollection⟩ :=
        parse_explainedIf (q := q) (Options.exists_of_mem_extra ho) o.explain db coll
      refine ⟨db, coll, hnames, .inr fun hprefix => hno (String.startsWith_string_iff.mpr hprefix),
        fun c' hc' => ?_,
        fun _ => ⟨c, hc, ?_, ?_, hcollection⟩⟩
      · obtain rfl : c = c' := Except.ok.inj (hc.symm.trans hc')
        exact hdatabase
      · rw [hname]
        cases o.explain <;> simp
      · rw [hname, shape_explainedIf]
        cases o.explain <;> simp
  · intro d h
    obtain ⟨db, coll, hnames, rfl⟩ := getMoreCommand_eq_ok_iff.mp h
    exact ⟨db, coll, hnames, ⟨.getMore, _⟩, rfl, rfl, rfl, rfl, rfl⟩

/-- A database in the command does not matter. -/
example : queryCommand ⟨⟨0⟩, "test.$cmd", 0, 0,
      [("ping", .int32 1), ("$db", .string "admin")], none⟩ =
    .ok ⟨[("ping", .int32 1), ("$db", .string "test")], .command false⟩ := by
  with_unfolding_all rfl

end Legacy

end DocGateway
