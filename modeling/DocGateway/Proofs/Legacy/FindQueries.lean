import DocGateway.Proofs.Legacy.Queries
/-!
# What find queries say

A query on a collection says what to find, and whether to find it or to explain how. The request for
an explanation is next to the filter, in a list of options, or among its fields. Both come to the
same for all values but numbers: a number other than zero counts as a request only in a list of
options. What other options say is in the command as the client has it, unless the flags of the
query say otherwise about the read preference.

## Key results

- `queryCommand_asked`: an explanation of a query is that of its command
- `explain_spellings`: what the two spellings of a request for an explanation come to
- `options_kept`: what the options, the counts, the selector and the flags of a query are in its
  command
-/

namespace DocGateway.Legacy

open Bson (Document Value)
open Wire (Query)

/-- A query that is no command. -/
def IsFind (q : Query) : Prop := q.ns.2 ≠ commandCollection

instance (q : Query) : Decidable (IsFind q) := inferInstanceAs (Decidable (_ ≠ _))

/-- `ns` are the two names that a full collection name `Names`. -/
theorem ns_of_names {q : Query} {db coll : String} (h : Names q.collection db coll) :
    q.ns = (db, coll) :=
  (Wire.splitNamespace_eq_iff h.collection).mpr ⟨h.eq, h.noDot⟩

/-- A query that `IsFind` becomes the `findCommand` of its options, or a request to explain that. -/
theorem IsFind.of_queryCommand {q : Query} {t : QueryCommand} (hq : IsFind q)
    (h : queryCommand q = .ok t) : ∃ o,
    Options.ofDocument q.query = .ok o ∧
    t = explainedIf o.explain q.ns.1 (findCommand q q.ns.1 q.ns.2 o) := by
  obtain ⟨db, coll, hnames, ⟨rfl, -⟩ | ⟨-, hfind⟩⟩ := queryCommand_eq_ok_iff.mp h
  · exact absurd (congrArg Prod.snd (ns_of_names hnames)) hq
  · obtain ⟨-, o, ho, rfl⟩ := findQuery_eq_ok_iff.mp hfind
    rw [ns_of_names hnames]
    exact ⟨o, ho, rfl⟩

/-! ### Explanations -/

/-- `queryCommand` of a query document that only differs in whether an explanation is asked for
gives the same command, or a request to explain it. -/
theorem queryCommand_asked {q : Query} (hq : IsFind q) {d d' : Document} {o : Options}
    {asked : Bool} (ho : o.explain = false) (hd : Options.ofDocument d = .ok o)
    (hd' : Options.ofDocument d' = .ok { o with explain := asked }) :
    queryCommand { q with query := d' } =
      (queryCommand { q with query := d }).map fun t => explainedIf asked q.ns.1 t.command := by
  cases hns : namespaceOf q.collection with
  | error e => simp [queryCommand, hns, bind, Except.bind, Except.map]
  | ok parts =>
    obtain ⟨db, coll⟩ := parts
    have hnames := namespaceOf_eq_ok_iff.mp hns
    have hcoll : coll ≠ commandCollection := fun heq => hq (by rw [ns_of_names hnames, heq])
    rw [queryCommand_of_names (q := { q with query := d' }) hnames,
      queryCommand_of_names (q := { q with query := d }) hnames, if_neg hcoll, if_neg hcoll,
      ns_of_names hnames, findQuery_eq, findQuery_eq, hd, hd']
    split
    · rfl
    · split
      · rfl
      -- all other fields of the options are the same, and only the question is not
      · simp only [Except.map, ho]
        rfl

/-- Only `true` asks for an explanation among the fields of a filter. -/
def isTrue : Value → Bool
  | .boolean b => b
  | _ => false

/-- `isTrue` and `asksExplain` differ for numbers other than zero, and for nothing else. -/
theorem isTrue_eq_asksExplain_iff (v : Value) :
    isTrue v = asksExplain v ↔ ∀ n, v.toInt64? = some n → n = 0 := by
  cases v with
  | boolean b => exact iff_of_true rfl nofun
  | _ =>
    simp only [isTrue, asksExplain]
    split
    · rename_i n hn
      simp [hn]
    · rename_i hnone
      simp [hnone]

section

variable {f : Document} (hno : "$explain" ∉ f.map (·.1))
include hno

/-- `settle` leaves a filter without a request for an explanation. -/
theorem Options.settle_of_not_mem (extra : Document) (asked : Bool) :
    settle ⟨f, extra, asked⟩ = ⟨f, extra, asked⟩ := by
  rw [settle, Document.erase_of_not_mem hno, Document.get?_eq_none_of_not_mem hno, Bool.or_false]

/-- `settle` takes a request out of the end of a filter. -/
theorem Options.settle_append (v : Value) :
    settle ⟨f ++ [("$explain", v)], [], false⟩ = ⟨f, [], isTrue v⟩ := by
  have hget : Document.get? (f ++ [("$explain", v)]) "$explain" = some v := by
    rw [Document.get?_append, Document.get?_eq_none_of_not_mem hno, Option.none_or,
      Document.get?_cons, if_pos rfl]
  -- the question is the last field, and no other one has its key
  have herase : Document.erase (f ++ [("$explain", v)]) "$explain" = f := by
    rw [Document.erase, List.filter_append, ← Document.erase, Document.erase_of_not_mem hno]
    exact List.append_nil f
  simp only [settle, hget, herase, Bool.false_or]
  congr 1
  split
  · rename_i htrue
    cases htrue
    rfl
  · rename_i hother
    cases v with
    | boolean b =>
      cases b with
      | false => rfl
      | true => exact absurd rfl hother
    | _ => rfl

end

/-! ### Two spellings -/

/-- A query for what a filter is for. -/
def bare (q : Query) (f : Document) : Query := { q with query := f }

/-- The query with a request for an explanation at the end of the filter. -/
def appended (q : Query) (f : Document) (v : Value) : Query :=
  { q with query := f ++ [("$explain", v)] }

/-- The query with a request for an explanation next to the filter. -/
def wrapped (q : Query) (f : Document) (v : Value) : Query :=
  { q with query := [("$query", .document f), ("$explain", v)] }

/-- The command of a query, or a request to explain it, whichever is asked for. -/
def askedIf (asked : Bool) (q : Query) : Except ServerError QueryCommand :=
  (queryCommand q).map fun t => explainedIf asked q.ns.1 t.command

/-- `askedIf` tells whether an explanation is asked for. -/
theorem askedIf_inj {q : Query} {t : QueryCommand} (h : queryCommand q = .ok t)
    {asked asked' : Bool} :
    askedIf asked q = askedIf asked' q ↔ asked = asked' := by
  constructor
  · intro heq
    simp only [askedIf, h, Except.map, Except.ok.injEq] at heq
    have hshape := congrArg QueryCommand.shape heq
    rw [shape_explainedIf, shape_explainedIf] at hshape
    cases asked <;> cases asked' <;> first | rfl | cases hshape
  · rintro rfl
    rfl

section

variable {q : Query} {f : Document} (hno : "$explain" ∉ f.map (·.1))
include hno

/-- `ofDocument` of a filter without options is the filter. -/
theorem ofDocument_bare (hform : ¬ IsOptions f) : Options.ofDocument f = .ok ⟨f, [], false⟩ := by
  rw [Options.ofDocument_of_not_isOptions hform, Options.settle_of_not_mem hno]

/-- `ofDocument` of a request next to a filter is decided by `asksExplain`. -/
theorem ofDocument_wrapped (v : Value) :
    Options.ofDocument [("$query", .document f), ("$explain", v)] = .ok ⟨f, [], asksExplain v⟩ := by
  rw [Options.ofDocument_of_isOptions ⟨"$query", by decide, rfl⟩, ← Options.settle_of_not_mem hno]
  rfl

/-- `ofDocument` of a request at the end of a filter is decided by `isTrue`. After a filter without
fields the request is an option. -/
theorem ofDocument_appended (hform : ¬ IsOptions f) (v : Value) :
    Options.ofDocument (f ++ [("$explain", v)]) =
      .ok ⟨f, [], if f = [] then asksExplain v else isTrue v⟩ := by
  cases f with
  | nil =>
    rw [if_pos rfl, Options.ofDocument_of_isOptions ⟨"$explain", by decide, rfl⟩,
      ← Options.settle_of_not_mem hno]
    rfl
  | cons field rest =>
    have hform' : ¬ IsOptions (field :: rest ++ [("$explain", v)]) := hform
    rw [if_neg nofun, Options.ofDocument_of_not_isOptions hform', Options.settle_append hno]

/-- The request in a query for what a filter is for, spelled in two ways: next to the filter
(`wrapped`) and in it (`appended`). Either way, `queryCommand` carries out or explains the `bare`
query, with the whole filter. Numbers other than zero ask for an explanation next to the filter
only, unless there are no fields in it. For all other values it does not matter which way the
request is spelled. -/
theorem explain_spellings (hq : IsFind q) (hform : ¬ IsOptions f) (v : Value) :
    queryCommand (wrapped q f v) = askedIf (asksExplain v) (bare q f) ∧
    queryCommand (appended q f v) =
      askedIf (if f = [] then asksExplain v else isTrue v) (bare q f) ∧
    (∀ t, queryCommand (bare q f) = .ok t → t.shape = .find ∧
      t.command.get? "filter" = some (.document f) ∧
      (queryCommand (appended q f v) = queryCommand (wrapped q f v) ↔
        f = [] ∨ ∀ n, v.toInt64? = some n → n = 0)) ∧
    ∀ b, v = .boolean b → queryCommand (appended q f v) = askedIf b (bare q f) ∧
      queryCommand (wrapped q f v) = askedIf b (bare q f) := by
  have hbare := ofDocument_bare hno hform
  have hwrapped : queryCommand (wrapped q f v) = askedIf (asksExplain v) (bare q f) :=
    queryCommand_asked hq rfl hbare (ofDocument_wrapped hno v)
  have happended : queryCommand (appended q f v) =
      askedIf (if f = [] then asksExplain v else isTrue v) (bare q f) :=
    queryCommand_asked hq rfl hbare (ofDocument_appended hno hform v)
  refine ⟨hwrapped, happended, fun t ht => ?_, fun b hb => ?_⟩
  · obtain ⟨o, ho, rfl⟩ := IsFind.of_queryCommand (q := bare q f) hq ht
    obtain rfl : (⟨f, [], false⟩ : Options) = o := Except.ok.inj (hbare.symm.trans ho)
    refine ⟨rfl, ?_, ?_⟩
    · exact get?_filter_findCommand (Options.exists_of_mem_extra hbare) _ _
    -- commands are the same exactly if both ask or neither does
    · rw [hwrapped, happended, askedIf_inj ht, ← isTrue_eq_asksExplain_iff]
      by_cases hempty : f = [] <;> simp [hempty]
  · subst hb
    rw [happended, hwrapped]
    simp [isTrue, asksExplain]

end

/-- A query on users. -/
def users : Query := ⟨⟨0⟩, "test.users", 0, 0, [], none⟩

/-- A query that asks for an explanation by `true` at the end of its filter is explained. -/
theorem explain_spellings_true :
    IsFind users ∧ ¬ IsOptions [("a", .int32 1)] ∧ "$explain" ∉ [("a", Value.int32 1)].map (·.1) ∧
      queryCommand (appended users [("a", .int32 1)] (.boolean true)) =
        .ok ⟨[("explain", .document [("find", .string "users"), ("$db", .string "test"),
          ("filter", .document [("a", .int32 1)])]), ("$db", .string "test")], .explain⟩ := by
  have hno : "$explain" ∉ [("a", Value.int32 1)].map (·.1) := by decide
  obtain ⟨-, -, -, hboolean⟩ :=
    explain_spellings (q := users) hno (by decide) (by decide) (.boolean true)
  refine ⟨by decide, by decide, hno, (hboolean true rfl).1.trans ?_⟩
  with_unfolding_all rfl

/-- A one asks for an explanation next to the filter (`wrapped`), and for nothing in it
(`appended`). -/
theorem explain_spellings_differ :
    queryCommand (appended users [("a", .int32 1)] (.int32 1)) =
        .ok ⟨[("find", .string "users"), ("$db", .string "test"),
          ("filter", .document [("a", .int32 1)])], .find⟩ ∧
      queryCommand (wrapped users [("a", .int32 1)] (.int32 1)) =
        .ok ⟨[("explain", .document [("find", .string "users"), ("$db", .string "test"),
          ("filter", .document [("a", .int32 1)])]), ("$db", .string "test")], .explain⟩ := by
  refine ⟨?_, ?_⟩ <;> with_unfolding_all rfl

/-! ### Options -/

/-- A `find` command says what the options of a query and its other fields say. A read preference is
only kept where the flags do not ask for one. -/
structure KeepsOptions (q : Query) (find : Document) : Prop where
  filter : ∀ key v, (key, v) ∈ q.query → IsFilterKey key →
    ∃ d : Document, v = .document d ∧ find.get? "filter" = some (.document (d.erase "$explain"))
  noFilter : (∀ f ∈ q.query, ¬ IsFilterKey f.1) → find.get? "filter" = some (.document [])
  option : ∀ key v name, (key, v) ∈ q.query → optionName? key = some name →
    (name = "readPreference" → q.flags.slaveOk = false) →
    find.get? name = some v
  readPreference : q.flags.slaveOk = true → find.get? "readPreference" = some secondaryPreferred
  skip : find.get? "skip" = if 0 < q.skip.toInt then some (.int32 q.skip) else none
  batchSize : q.limit.toInt ≠ 0 → ∃ n, find.get? "batchSize" = some (.int32 n) ∧ 0 < n.toInt ∧
    n.toInt = min (q.limit.toInt.natAbs : Int) Int32.maxValue.toInt
  noBatchSize : q.limit.toInt = 0 → find.get? "batchSize" = none
  singleBatch : find.get? "singleBatch" = if q.limit.toInt < 0 then some (.boolean true) else none
  projection : find.get? "projection" = (q.selector.filter (!·.isEmpty)).map .document
  other : ∀ f ∈ find, f.1 ∈ ["find", "$db", "filter", "skip", "batchSize", "singleBatch",
    "projection"] ∨
    (∃ key, (key, f.2) ∈ q.query ∧ optionName? key = some f.1) ∨
    ∃ flag, (f.1, flag) ∈ flagKeys ∧ flag q.flags = true

/-- `batchSize` is the number to return without its sign, as far as 32 bits go. -/
theorem batchSize_eq {n : Int32} (hn : n.toInt ≠ 0) :
    0 < (batchSize n).toInt ∧ (batchSize n).toInt =
      min (n.toInt.natAbs : Int) Int32.maxValue.toInt := by
  have hmax : Int32.maxValue.toInt = 2147483647 := by decide
  have hle : n.toInt ≤ 2147483647 := hmax ▸ n.toInt_le
  rw [batchSize, hmax]
  split
  · omega
  · rw [Int32.toInt_ofInt_of_le (by omega) (by omega)]
    omega

/-- `filters` of options that are spelled once end with their only filter. -/
theorem getLastD_filters {query d : Document} (h : SpelledOnce query) {key : String}
    (hmem : (key, .document d) ∈ query) (hkey : IsFilterKey key)
    (d₀ : Document) : (filters query).getLastD d₀ = d := by
  have hd : d ∈ filters query := List.mem_filterMap.mpr ⟨_, hmem, by simp [hkey, Value.asDocument?]⟩
  -- the other spelling of the key is not there, so all filters are this one
  have hall : ∀ d' ∈ filters query, d' = d := by
    intro d' hd'
    obtain ⟨⟨key', v⟩, hmem', hf⟩ := List.mem_filterMap.mp hd'
    obtain ⟨hkey', hv⟩ := Option.ite_none_right_eq_some.mp hf
    have heq : key' = key := by
      obtain rfl | rfl := hkey <;> obtain rfl | rfl := hkey'
      · rfl
      · exact absurd (List.mem_map_of_mem hmem) (h.once "query" (List.mem_map_of_mem hmem'))
      · exact absurd (List.mem_map_of_mem hmem') (h.once "query" (List.mem_map_of_mem hmem))
      · rfl
    cases List.inj_on_of_nodup_map h.nodup hmem' hmem heq
    exact (Option.some.inj hv).symm
  rw [List.getLastD_eq_getLast?]
  cases hlast : (filters query).getLast? with
  | none => simp [List.getLast?_eq_none_iff.mp hlast] at hd
  | some d' => exact hall d' (List.mem_of_getLast? hlast)

/-- `ofDocument` of options that are spelled once gives these options, and their filter. -/
theorem Options.of_ofDocument {query : Document} {o : Options} (hform : IsOptions query)
    (honce : SpelledOnce query) (h : ofDocument query = .ok o) :
    o.extra = optionFields query ∧ o.filter = ((filters query).getLastD []).erase "$explain" ∧
      ∀ key v, (key, v) ∈ query → IsFilterKey key → ∃ d, v = .document d := by
  rw [ofDocument_of_isOptions hform] at h
  -- all fields are taken one after the other
  match hfold : query.foldlM (fun (o : Options) f => o.take f.1 f.2) empty with
  | .error e => simp [hfold, Except.map] at h
  | .ok taken =>
    simp only [hfold, Except.map, Except.ok.injEq] at h
    subst h
    obtain ⟨hextra, hfilter, hdocuments⟩ := of_foldlM_take hfold
    rw [(settle_eq taken).1, (settle_eq taken).2, hextra, hfilter]
    exact ⟨Document.ofFields_of_nodup (nodup_optionFields honce), rfl, hdocuments⟩

/-- The flag for secondaries is one of the `conditionalFields`. -/
theorem mem_conditionalFields_readPreference (q : Query) :
    (q.flags.slaveOk, "readPreference", secondaryPreferred) ∈ conditionalFields q := by
  simp [conditionalFields, flagKeys]

section

variable {q : Query} {o : Options} (hform : IsOptions q.query) (honce : SpelledOnce q.query)
  (ho : Options.ofDocument q.query = .ok o)
  (db coll : String)
include hform honce ho

/-- `findCommand` has under the name of an option what the rest of the query asks for there, or else
what the option says. -/
theorem get?_findCommand_of_isOptions {key : String}
    (hkey : key ∈ optionNames.map (·.2) ++ (conditionalFields q).map (·.2.1)) :
    (findCommand q db coll o).get? key = ((otherFields q).get? key).or
      ((optionFields q.query).get? key) := by
  rw [get?_findCommand (Options.exists_of_mem_extra ho) _ _ (not_mem_firstKeys q key hkey),
    (Options.of_ofDocument hform honce ho).1,
    Document.get?_reverse_of_nodup (nodup_optionFields honce)]

/-- `findCommand` has a field that no option stands for exactly if the rest of the query asks for
it. -/
theorem get?_findCommand_of_mem {condition : Bool} {key : String} {v : Value}
    (h : (condition, key, v) ∈ conditionalFields q) (hkey : key ∉ optionNames.map (·.2)) :
    (findCommand q db coll o).get? key = if condition then some v else none := by
  have hnone : (optionFields q.query).get? key = none := by
    refine Document.get?_eq_none_of_not_mem fun hmem => hkey ?_
    obtain ⟨f, hf, rfl⟩ := List.mem_map.mp hmem
    obtain ⟨_, -, hname⟩ := exists_of_mem_optionFields hf
    exact List.mem_map.mpr ⟨_, mem_optionNames hname, rfl⟩
  rw [get?_findCommand_of_isOptions hform honce ho db coll
    (List.mem_append_right _ (List.mem_map.mpr ⟨_, h, rfl⟩)), get?_otherFields q h, hnone,
    Option.or_none]

/-- `findCommand` has what an option says, unless a flag stands for the same field. -/
theorem get?_findCommand_of_option {key name : String} {v : Value} (hmem : (key, v) ∈ q.query)
    (hname : optionName? key = some name)
    (hflag : name = "readPreference" → q.flags.slaveOk = false) :
    (findCommand q db coll o).get? name = some v := by
  have hkey : name ∈ optionNames.map (·.2) := List.mem_map.mpr ⟨_, mem_optionNames hname, rfl⟩
  -- only a read preference is set by a flag as well
  have hnone : (otherFields q).get? name = none := by
    by_cases hpreference : name = "readPreference"
    · rw [hpreference, get?_otherFields q (mem_conditionalFields_readPreference q),
        hflag hpreference]
      rfl
    · have hdisjoint : ∀ key ∈ optionNames.map (·.2), key ≠ "readPreference" →
          key ∉ (conditionalFields q).map (·.2.1) := by
        rw [keys_conditionalFields]
        decide
      rw [otherFields_eq]
      exact Document.get?_eq_none_of_not_mem fun h =>
        hdisjoint name hkey hpreference ((keys_fieldsIf_sublist _).subset h)
  have hoption : (optionFields q.query).get? name = some v :=
    Document.get?_of_mem_of_nodup (nodup_optionFields honce) (mem_optionFields hmem hname)
  rw [get?_findCommand_of_isOptions hform honce ho db coll (List.mem_append_left _ hkey), hnone,
    Option.none_or, hoption]

/-- `findCommand` has the read preference that the flag stands for. -/
theorem get?_findCommand_of_slaveOk (hflag : q.flags.slaveOk = true) :
    (findCommand q db coll o).get? "readPreference" = some secondaryPreferred := by
  rw [get?_findCommand_of_isOptions hform honce ho db coll (List.mem_append_left _ (by decide)),
    get?_otherFields q (mem_conditionalFields_readPreference q), hflag, if_pos rfl, Option.some_or]

/-- `findCommand` has all that a query says, but for a read preference that a flag is set for. -/
theorem keepsOptions_findCommand : KeepsOptions q (findCommand q db coll o) := by
  obtain ⟨hextra, hfilter, hdocuments⟩ := Options.of_ofDocument hform honce ho
  have hcommand := get?_filter_findCommand (q := q) (Options.exists_of_mem_extra ho) db coll
  rw [hfilter] at hcommand
  have hget (condition : Bool) (key : String) (v : Value)
      (h : (condition, key, v) ∈ conditionalFields q)
      (hkey : key ∉ optionNames.map (·.2)) := get?_findCommand_of_mem hform honce ho db coll h hkey
  have hbatch :=
    hget (q.limit.toInt ≠ 0) "batchSize" (.int32 (batchSize q.limit))
      (by simp [conditionalFields]) (by decide)
  refine { filter := ?filter, noFilter := ?noFilter, option := ?option,
           readPreference := ?readPreference, skip := ?skip, batchSize := ?batchSize,
           noBatchSize := ?noBatchSize, singleBatch := ?singleBatch, projection := ?projection,
           other := ?other }
  case filter =>
    intro key v hmem hkey
    obtain ⟨d, rfl⟩ := hdocuments key v hmem hkey
    rw [hcommand, getLastD_filters honce hmem hkey]
    exact ⟨d, rfl, rfl⟩
  case noFilter =>
    intro hno
    have hnil : filters q.query = [] := List.filterMap_eq_nil_iff.mpr fun f hf => if_neg (hno f hf)
    rw [hcommand, hnil]
    rfl
  case option =>
    exact fun key v name hmem hname hflag =>
      get?_findCommand_of_option hform honce ho db coll hmem hname hflag
  case readPreference => exact get?_findCommand_of_slaveOk hform honce ho db coll
  case skip =>
    simpa using hget (0 < q.skip.toInt) "skip" (.int32 q.skip)
      (by simp [conditionalFields]) (by decide)
  case batchSize =>
    intro hlimit
    exact ⟨_, hbatch.trans (if_pos (decide_eq_true hlimit)), batchSize_eq hlimit⟩
  case noBatchSize => exact fun hlimit => hbatch.trans (if_neg (by simp [hlimit]))
  case singleBatch =>
    simpa using hget (q.limit.toInt < 0) "singleBatch" (.boolean true)
      (by simp [conditionalFields]) (by decide)
  case projection =>
    have hprojection :=
      hget (q.selector.any (!·.isEmpty)) "projection" (.document (q.selector.getD []))
        (by simp [conditionalFields]) (by decide)
    rw [hprojection]
    cases q.selector with
    | none => rfl
    | some d => cases d <;> rfl
  -- a field is one that every command has, an option, or one that is set on a condition
  case other =>
    refine Document.forall_mem_insertAll (fun f hf => .inl ?_) fun f hf => ?_
    · have hkey := List.mem_map_of_mem (f := (·.1)) hf
      exact List.mem_append_left ["skip", "batchSize", "singleBatch", "projection"] hkey
    · obtain hf | hf := List.mem_append.mp hf
      · exact .inr (.inl (exists_of_mem_optionFields (hextra ▸ hf)))
      · rw [otherFields_eq] at hf
        obtain hf | hf := List.mem_append.mp (mem_fieldsIf.mp hf)
        · have hkey : f.1 ∈ ["skip", "batchSize", "singleBatch", "projection"] :=
            List.mem_map_of_mem (f := (·.2.1)) hf
          exact .inl (List.mem_append_right ["find", "$db", "filter"] hkey)
        · obtain ⟨⟨key, flag⟩, hmem, heq⟩ := List.mem_map.mp hf
          simp only [Prod.mk.injEq] at heq
          exact .inr (.inr ⟨flag, heq.2.1 ▸ hmem, heq.1⟩)

end

/-- `queryCommand` of a find query in the form of options `KeepsOptions`: what its options, counts,
selector and flags say is in the command, if none is spelled both with and without a dollar sign
(`SpelledOnce`). -/
theorem options_kept {q : Query} {t : QueryCommand} (hq : IsFind q) (hform : IsOptions q.query)
    (honce : SpelledOnce q.query) (h : queryCommand q = .ok t) :
    ∃ find, t.find? = some find ∧ KeepsOptions q find := by
  obtain ⟨o, ho, rfl⟩ := hq.of_queryCommand h
  exact ⟨_, find?_explainedIf _ _ _, keepsOptions_findCommand hform honce ho _ _⟩

/-- A query with options, counts, a selector and a flag. -/
def listing : Query :=
  ⟨⟨8⟩, "test.users", 5, -3, [("$query", .document [("a", .int32 1)]),
    ("$orderby", .document [("b", .int32 (-1))]), ("hint", .string "a_1"),
    ("$explain", .boolean true)], some [("a", .int32 1)]⟩

/-- `queryCommand` keeps a sort, a hint, a skip, a single batch and a selector in one query. -/
theorem options_kept_listing :
    IsFind listing ∧ IsOptions listing.query ∧ SpelledOnce listing.query ∧
      ∃ find : Document, queryCommand listing =
        .ok ⟨[("explain", .document find), ("$db", .string "test")], .explain⟩ ∧
        KeepsOptions listing find ∧
        find.get? "sort" = some (.document [("b", .int32 (-1))]) := by
  have hcommand : queryCommand listing =
      .ok ⟨[("explain", .document [("find", .string "users"), ("$db", .string "test"),
        ("filter", .document [("a", .int32 1)]), ("sort", .document [("b", .int32 (-1))]),
        ("hint", .string "a_1"), ("skip", .int32 5), ("batchSize", .int32 3),
        ("singleBatch", .boolean true), ("projection", .document [("a", .int32 1)]),
        ("oplogReplay", .boolean true)]), ("$db", .string "test")], .explain⟩ := by
    with_unfolding_all rfl
  have hfind : IsFind listing := by decide
  have hform : IsOptions listing.query := by decide
  have honce : SpelledOnce listing.query := ⟨by decide, by decide⟩
  -- the find command is the one inside the explanation
  obtain ⟨find, hfound, hkeeps⟩ := options_kept hfind hform honce hcommand
  cases hfound
  exact ⟨hfind, hform, honce, _, hcommand, hkeeps, rfl⟩

/-- A query with a read preference that says something else than its flag. -/
def preferring : Query :=
  ⟨⟨4⟩, "test.users", 0, 0,
    [("$query", .document []), ("readPreference", .document [("mode", .string "primary")])], none⟩

/-- A flag of the query overwrites the `readPreference` of the client. -/
theorem readPreference_overwritten :
    IsFind preferring ∧ IsOptions preferring.query ∧ SpelledOnce preferring.query ∧
      queryCommand preferring =
        .ok ⟨[("find", .string "users"), ("$db", .string "test"), ("filter", .document []),
        ("readPreference", .document [("mode", .string "secondaryPreferred")])], .find⟩ := by
  refine ⟨by decide, by decide, ⟨by decide, by decide⟩, ?_⟩
  with_unfolding_all rfl

end DocGateway.Legacy
