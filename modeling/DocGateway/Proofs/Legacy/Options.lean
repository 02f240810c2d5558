import DocGateway.Legacy.Request
import DocGateway.Proofs.Bson.Fields
/-!
# How the options of legacy queries are read

A query document that starts with an option is read option by option: one can be the filter, a field
of the command, or the request for an explanation. Any other query document is the filter itself.

## Key results

- `Options.taken_of_take`: what one option does
- `Options.of_foldlM_take`: what all of them come to
- `Options.ofDocument_of_isOptions`, `Options.ofDocument_of_not_isOptions`: the two forms of query
  documents
- `nodup_optionFields`: options that are spelled once become different fields
-/

namespace DocGateway.Legacy

open Bson (Document Value)

/-! ### Names of options -/

/-- The options that are fields of the command, and the names that they have there. -/
def optionNames : List (String × String) :=
  [("$orderby", "sort"), ("orderby", "sort"), ("$maxTimeMS", "maxTimeMS"), ("$hint", "hint"),
    ("hint", "hint"), ("$snapshot", "snapshot"), ("snapshot", "snapshot"), ("$comment", "comment"),
    ("comment", "comment"), ("$collation", "collation"), ("collation", "collation"),
    ("$readPreference", "$readPreference"), ("readPreference", "readPreference")]

/-- The name of an option in the command. -/
def optionName? (key : String) : Option String := optionNames.lookup key

/-- The filter is under one of these keys. -/
def IsFilterKey (key : String) : Prop := key = "$query" ∨ key = "query"

instance (key : String) : Decidable (IsFilterKey key) := inferInstanceAs (Decidable (_ ∨ _))

/-- A query document that is a list of options. -/
def IsOptions (query : Document) : Prop := ∃ key ∈ modifiers, query.firstKey? = some key

instance (query : Document) : Decidable (IsOptions query) :=
  inferInstanceAs (Decidable (∃ key ∈ modifiers, _))

/-- The fields that the options of a query document become, in order. -/
def optionFields (query : Document) : Document :=
  query.filterMap fun f => (optionName? f.1).map fun name => (name, f.2)

/-- The filters of a query document, in order. -/
def filters (query : Document) : List Document :=
  query.filterMap fun f => if IsFilterKey f.1 then f.2.asDocument? else none

section

variable {key name : String} {v : Value} {rest : Document}

/-- `optionFields` of an option in front of others. -/
theorem optionFields_cons_of_some (h : optionName? key = some name) :
    optionFields ((key, v) :: rest) = (name, v) :: optionFields rest :=
  List.filterMap_cons_some (by simp [h])

/-- `optionFields` of a key that is no option in front of others. -/
theorem optionFields_cons_of_none (h : optionName? key = none) :
    optionFields ((key, v) :: rest) = optionFields rest :=
  List.filterMap_cons_none (by simp [h])

/-- `filters` of a filter in front of others. -/
theorem filters_cons_of_isFilterKey (h : IsFilterKey key) (d : Document) :
    filters ((key, .document d) :: rest) = d :: filters rest :=
  List.filterMap_cons_some (by simp [h, Value.asDocument?])

/-- `filters` of a key that is no filter in front of others. -/
theorem filters_cons_of_not (h : ¬ IsFilterKey key) : filters ((key, v) :: rest) = filters rest :=
  List.filterMap_cons_none (by simp [h])

end

/-- `optionName?` finds an entry of the table. -/
theorem mem_optionNames {key name : String} (h : optionName? key = some name) :
    (key, name) ∈ optionNames := by
  obtain ⟨before, after, heq, -⟩ := List.lookup_eq_some_iff.mp h
  rw [heq]
  exact List.mem_append_right _ List.mem_cons_self

/-- `optionName?` finds nothing for the filter. -/
theorem optionName?_of_isFilterKey {key : String} (h : IsFilterKey key) :
    optionName? key = none := by
  obtain rfl | rfl := h <;> decide

/-- No option is spelled both with and without a dollar sign. -/
structure SpelledOnce (query : Document) : Prop where
  nodup : (query.map (·.1)).Nodup
  once : ∀ key ∈ query.map (·.1), "$" ++ key ∉ query.map (·.1)

/-- `optionName?` gives two keys one name only if they are the same but for the dollar sign. -/
theorem eq_or_dollar_of_optionName? {key key' name : String} (h : optionName? key = some name)
    (h' : optionName? key' = some name) :
    key = key' ∨ key = "$" ++ key' ∨ key' = "$" ++ key := by
  have hall : ∀ a ∈ optionNames, ∀ b ∈ optionNames, a.2 = b.2 →
      a.1 = b.1 ∨ a.1 = "$" ++ b.1 ∨ b.1 = "$" ++ a.1 := by decide
  exact hall _ (mem_optionNames h) _ (mem_optionNames h') rfl

/-- `optionFields` of options that are spelled once have different names. -/
theorem nodup_optionFields {query : Document} (h : SpelledOnce query) :
    ((optionFields query).map (·.1)).Nodup := by
  have hnames : (optionFields query).map (·.1) = (query.map (·.1)).filterMap optionName? := by
    rw [optionFields, List.map_filterMap, List.filterMap_map]
    congr 1
    funext f
    cases hname : optionName? f.1 <;> simp [hname]
  rw [hnames, List.Nodup, List.pairwise_filterMap]
  refine List.Pairwise.imp_of_mem (fun {key key'} hkey hkey' hne name hname name' hname' heq =>
    ?_) h.nodup
  -- two keys of one name are the same, or differ in the dollar alone
  obtain heq | heq | heq := eq_or_dollar_of_optionName? hname (heq ▸ hname')
  · exact hne heq
  · exact h.once _ hkey' (heq ▸ hkey)
  · exact h.once _ hkey (heq ▸ hkey')

/-- `optionFields` have each option under its name. -/
theorem mem_optionFields {query : Document} {key name : String} {v : Value}
    (hmem : (key, v) ∈ query) (hname : optionName? key = some name) :
    (name, v) ∈ optionFields query :=
  List.mem_filterMap.mpr ⟨(key, v), hmem, by simp [hname]⟩

/-- `optionFields` have nothing else. -/
theorem exists_of_mem_optionFields {query : Document} {f : String × Value}
    (h : f ∈ optionFields query) :
    ∃ key, (key, f.2) ∈ query ∧ optionName? key = some f.1 := by
  obtain ⟨⟨key, v⟩, hmem, hf⟩ := List.mem_filterMap.mp h
  obtain ⟨name, hname, rfl⟩ := Option.map_eq_some_iff.mp hf
  exact ⟨key, hmem, hname⟩

namespace Options

/-! ### Reading -/

/-- What an option does to the options before it. -/
inductive Taken (o : Options) : String → Value → Options → Prop
  | filter {key : String} {d : Document} : IsFilterKey key →
      Taken o key (.document d) { o with filter := d }
  | field {key name : String} {v : Value} : optionName? key = some name →
      Taken o key v { o with extra := o.extra.insert name v }
  | explain {v : Value} : Taken o "$explain" v { o with explain := asksExplain v }

/-- `take` that succeeds does what `Taken` says. -/
theorem taken_of_take {o o' : Options} {key : String} {v : Value} (h : o.take key v = .ok o') :
    o.Taken key v o' := by
  unfold take at h
  split at h
  case h_1 => split at h <;> cases h; exact .filter (.inl rfl)
  case h_2 => split at h <;> cases h; exact .filter (.inr rfl)
  case h_16 => cases h; exact .explain
  case h_17 => cases h
  all_goals
    cases h
    exact .field (by decide)

/-- `take` for all options in turn inserts their fields, and keeps the last filter, which is a
document. -/
theorem of_foldlM_take {query : Document} {o o' : Options}
    (h : query.foldlM (fun (o : Options) f => o.take f.1 f.2) o = .ok o') :
    o'.extra = o.extra.insertAll (optionFields query) ∧
      o'.filter = (filters query).getLastD o.filter ∧
      ∀ key v, (key, v) ∈ query → IsFilterKey key → ∃ d, v = .document d := by
  -- by induction on the options, with what was taken before
  induction query generalizing o with
  | nil =>
    cases h
    exact ⟨rfl, rfl, nofun⟩
  | cons f rest ih =>
    obtain ⟨key, v⟩ := f
    rw [List.foldlM_cons] at h
    match htake : o.take key v with
    | .error e => simp [htake, bind, Except.bind] at h
    | .ok o₁ =>
      simp only [htake, bind, Except.bind] at h
      obtain ⟨hextra, hfilter, hdocuments⟩ := ih h
      have hall (hv : IsFilterKey key → ∃ d, v = .document d) (key' : String) (v' : Value)
          (hmem : (key', v') ∈ (key, v) :: rest)
          (hkey' : IsFilterKey key') : ∃ d, v' = .document d := by
        obtain heq | hmem := List.mem_cons.mp hmem
        · cases heq
          exact hv hkey'
        · exact hdocuments key' v' hmem hkey'
      cases taken_of_take htake with
      | filter hkey =>
        rename_i d
        refine ⟨?_, ?_, hall fun _ => ⟨d, rfl⟩⟩
        · rw [hextra, optionFields_cons_of_none (optionName?_of_isFilterKey hkey)]
        · rw [hfilter, filters_cons_of_isFilterKey hkey, List.getLastD_cons]
      | field hname =>
        rename_i name
        have hkey : ¬ IsFilterKey key := fun hkey => by
          simp [optionName?_of_isFilterKey hkey] at hname
        refine ⟨?_, ?_, hall fun h => absurd h hkey⟩
        · rw [hextra, optionFields_cons_of_some hname, Document.insertAll_cons]
        · rw [hfilter, filters_cons_of_not hkey]
      | explain =>
        have hkey : ¬ IsFilterKey "$explain" := by decide
        refine ⟨?_, ?_, hall fun h => absurd h hkey⟩
        · rw [hextra, optionFields_cons_of_none (by decide)]
        · rw [hfilter, filters_cons_of_not hkey]

/-- `settle` leaves the fields, and takes a request for an explanation out of the filter. -/
theorem settle_eq (o : Options) :
    o.settle.extra = o.extra ∧ o.settle.filter = o.filter.erase "$explain" := ⟨rfl, rfl⟩

/-- `ofDocument` of a document that is no list of options is all filter. -/
theorem ofDocument_of_not_isOptions {query : Document} (h : ¬ IsOptions query) :
    ofDocument query = .ok (settle ⟨query, [], false⟩) := by
  have hno : modifiers.contains (query.firstKey?.getD "") = false := by
    rw [Bool.eq_false_iff]
    intro hcontains
    rw [List.contains_iff_mem] at hcontains
    cases hkey : query.firstKey? with
    | none => exact absurd (hkey ▸ hcontains) (by decide)
    | some key => exact h ⟨key, by simpa [hkey] using hcontains, hkey⟩
  rw [ofDocument, if_neg (by simp only [hno]; decide)]
  rfl

/-- `ofDocument` of a list of options is `take` in turn, and `settle`. -/
theorem ofDocument_of_isOptions {query : Document} (h : IsOptions query) :
    ofDocument query = (query.foldlM (fun (o : Options) f => o.take f.1 f.2) empty).map settle := by
  obtain ⟨key, hkey, hfirst⟩ := h
  rw [ofDocument, hfirst, if_pos (by simpa using hkey)]
  cases query.foldlM (fun (o : Options) f => o.take f.1 f.2) empty <;> rfl

/-- `ofDocument` gives fields with names of options, whatever the query document is. -/
theorem exists_of_mem_extra {query : Document} {o : Options} (h : ofDocument query = .ok o) :
    ∀ f ∈ o.extra, ∃ key, optionName? key = some f.1 := by
  -- a filter by itself brings no fields
  by_cases hform : IsOptions query
  · rw [ofDocument_of_isOptions hform] at h
    match hfold : query.foldlM (fun (o : Options) f => o.take f.1 f.2) empty with
    | .error e => simp [hfold, Except.map] at h
    | .ok taken =>
      simp only [hfold, Except.map, Except.ok.injEq] at h
      subst h
      rw [(settle_eq taken).1, (of_foldlM_take hfold).1]
      refine Document.forall_mem_insertAll nofun fun f hf => ?_
      obtain ⟨key, -, hname⟩ := exists_of_mem_optionFields hf
      exact ⟨key, hname⟩
  · rw [ofDocument_of_not_isOptions hform] at h
    cases h
    exact nofun

end Options

end DocGateway.Legacy
