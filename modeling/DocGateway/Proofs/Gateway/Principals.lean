import DocGateway.Gateway.Basic
import DocGateway.Proofs.Gateway.Isolation
import DocGateway.Proofs.Wire.Framing
import DocGateway.Proofs.Wire.RoundTrip
import Mathlib.Data.Finset.Insert
import Mathlib.Data.List.Basic
/-!
# Who is logged in

Stages may log a client in under any number of identities, and these may repeat users and roles. A
client that asks who is logged in is told each user and each role once, in the order in which they
first come up among its identities. A logout takes all identities of the client that asks for it,
and nothing from any other connection.

## Key results

- `namesFirsts_distinct`: each name once, in the order in which the names first come up
- `connectionStatus_eq_collect`: the same answer, from one pass over the identities
- `Passage.exists_terminal`: what stages that leave the answer alone make of what the innermost
  layer does
- `receive_of_ne`: what arrives on one connection changes no other
- `connectionStatus_namesFirsts_and_logout`: the answers, and a logout before the whole gateway
-/

namespace DocGateway

open Bson (Document Value)

/-! ### Names in the order in which they come up -/

/-- A list has the items of another one, each once, in the order in which they first come up
there. -/
structure NamesFirsts (all firsts : List String) : Prop where
  mem_iff (name : String) : name ∈ firsts ↔ name ∈ all
  ordered : firsts.Pairwise fun a b => all.idxOf a < all.idxOf b

namespace ServerInfo

/-- `distinct` loses no name, and adds none. -/
theorem mem_distinct_iff {name : String} {names : List String} :
    name ∈ distinct names ↔ name ∈ names := by
  induction names with
  | nil => simp [distinct]
  | cons x xs ih =>
    simp only [distinct, List.mem_cons, List.mem_filter, ih, bne_iff_ne]
    by_cases h : name = x <;> simp [h]

/-- `distinct` gives each name once, in the order in which the names first come up. -/
theorem namesFirsts_distinct (names : List String) : NamesFirsts names (distinct names) where
  mem_iff _ := mem_distinct_iff
  ordered := by
    induction names with
    | nil => exact List.Pairwise.nil
    | cons x xs ih =>
      rw [distinct, List.pairwise_cons]
      constructor
      · -- the first name stands in front of all others
        intro b hb
        have hne : b ≠ x := by simpa using (List.mem_filter.mp hb).2
        rw [List.idxOf_cons_self, List.idxOf_cons_ne xs (Ne.symm hne)]
        omega
      · -- the others keep their order, one place further back
        have hfiltered := ih.filter (· != x)
        refine hfiltered.imp_of_mem ?_
        intro a b ha hb hlt
        have hane : a ≠ x := by simpa using (List.mem_filter.mp ha).2
        have hbne : b ≠ x := by simpa using (List.mem_filter.mp hb).2
        rw [List.idxOf_cons_ne xs (Ne.symm hane), List.idxOf_cons_ne xs (Ne.symm hbne)]
        omega

/-- An item of the list of users or of roles. -/
def principal (key name : String) : Value :=
  .document [(key, .string name), ("db", .string "admin")]

/-- The answer that lists these users and these roles. -/
def statusDocument (users roles : List String) : Document :=
  [("ok", .int32 1), ("authenticatedUsers", .array (users.map (principal "user"))),
    ("authenticatedUserRoles", .array (roles.map (principal "role")))]

/-- `connectionStatus` lists the `distinct` users of all identities, and the `distinct` roles. -/
theorem connectionStatus_eq (c : Client) :
    connectionStatus c =
      statusDocument (distinct (c.identities.map (·.user)))
        (distinct (c.identities.flatMap (·.roles))) := rfl

/-! ### One pass over the identities -/

/-- Names in the order in which they were found first, and the set of all that were seen. -/
structure Collection where
  found : List String
  seen : Finset String

namespace Collection

/-- Nothing is found. -/
def empty : Collection := ⟨[], ∅⟩

/-- Takes a name down, unless it was seen before. -/
def note (c : Collection) (name : String) : Collection :=
  if name ∈ c.seen then c else ⟨c.found ++ [name], insert name c.seen⟩

/-- `note` for names one after another finds those that are `distinct` and were not seen before. -/
theorem found_foldl_note (c : Collection) (names : List String) :
    (names.foldl note c).found = c.found ++ (distinct names).filter (· ∉ c.seen) := by
  induction names generalizing c with
  | nil => simp [distinct]
  | cons name names ih =>
    rw [List.foldl_cons, ih, distinct, note]
    by_cases hseen : name ∈ c.seen
    · -- what is left out for this name is left out as seen
      have hfilter : ((distinct names).filter (· != name)).filter (· ∉ c.seen) =
          (distinct names).filter (· ∉ c.seen) := by
        rw [List.filter_filter]
        refine List.filter_congr fun other _ => ?_
        by_cases hother : other = name <;> simp [hother, hseen]
      rw [if_pos hseen, List.filter_cons_of_neg (by simpa using hseen), hfilter]
    · have hfilter : (distinct names).filter (· ∉ insert name c.seen) =
          ((distinct names).filter (· != name)).filter (· ∉ c.seen) := by
        rw [List.filter_filter]
        refine List.filter_congr fun other _ => ?_
        by_cases hother : other = name <;> simp [hother]
      rw [if_neg hseen, List.filter_cons_of_pos (by simpa using hseen), hfilter,
        List.append_assoc, List.singleton_append]

/-- `note` from nothing on finds the `distinct` names. -/
theorem found_foldl_note_empty (names : List String) :
    (names.foldl note empty).found = distinct names := by
  rw [found_foldl_note]
  simp [empty]

end Collection

/-- Users and roles are collected in one loop over the identities, with a loop over the roles of
each identity inside, and a set of what was seen for either. -/
def collect (identities : List Identity) : Collection × Collection :=
  identities.foldl (fun (users, roles) identity =>
    (users.note identity.user, identity.roles.foldl Collection.note roles)) (.empty, .empty)

/-- The loop for users and that for roles have no part in each other. -/
theorem foldl_collect (identities : List Identity) (users roles : Collection) :
    identities.foldl (fun (users, roles) identity =>
        (users.note identity.user, identity.roles.foldl Collection.note roles)) (users, roles) =
      ((identities.map (·.user)).foldl Collection.note users,
        (identities.flatMap (·.roles)).foldl Collection.note roles) := by
  induction identities generalizing users roles with
  | nil => rfl
  | cons identity identities ih =>
    rw [List.foldl_cons, ih, List.map_cons, List.foldl_cons, List.flatMap_cons, List.foldl_append]

/-- `collect` finds the users and the roles of `connectionStatus`. -/
theorem connectionStatus_eq_collect (c : Client) :
    connectionStatus c =
      statusDocument (collect c.identities).1.found (collect c.identities).2.found := by
  rw [collect, foldl_collect, Collection.found_foldl_note_empty, Collection.found_foldl_note_empty,
    connectionStatus_eq]

/-- `connectionStatus` lists nobody if there are no identities. -/
theorem connectionStatus_of_nobody {c : Client} (h : c.identities = []) :
    connectionStatus c = statusDocument [] [] := by
  rw [connectionStatus_eq, h]
  rfl

end ServerInfo

/-! ### Stages that leave the answers alone -/

variable {σ : Type}

/-- A stage may log the client in on the way in. The command stays of its kind, and on the way out
nothing happens to the answer or to the client. -/
inductive Entry.KeepsAnswer (s : Scene σ) : Entry σ → Prop
  | stop (o : Outcome) (t : Scene σ) : KeepsAnswer s (.stop o t)
  | pass {t : Scene σ} {leave : Answer → Scene σ → Outcome × Scene σ}
      (hkind : t.request.command.kind = s.request.command.kind)
      (hleave : ∀ a u, (leave a u).1 = .answered a ∧ (leave a u).2.client = u.client) :
      KeepsAnswer s (.pass t leave)

/-- A stage that leaves the answer alone in every scene. -/
def Stage.KeepsAnswer (stage : Stage σ) : Prop := ∀ s, (stage.enter s).KeepsAnswer s

/-- A stage that does not log anyone in on the way in. -/
def Stage.KeepsClient (stage : Stage σ) : Prop :=
  ∀ s t leave, stage.enter s = .pass t leave → t.client = s.client

/-- A `BuiltIn` stage leaves the answer alone. -/
theorem BuiltIn.keepsAnswer {stage : Stage σ} (h : BuiltIn stage) : stage.KeepsAnswer := by
  intro s
  have hleave (a : Answer) (u : Scene σ) : (Outcome.answered a, u).1 = .answered a ∧
      (Outcome.answered a, u).2.client = u.client :=
    ⟨rfl, rfl⟩
  -- only two of the stages answer by themselves, and only one acts on the way out
  cases h with
  | defaults name c | noHint name | writeConcern name c => exact .pass rfl hleave
  | commandFilter name c =>
    simp only [CommandFilter.stage]
    split
    · exact .stop _ _
    · exact .pass rfl hleave
  | inLimit name hlimit =>
    simp only [InLimit.stage]
    split
    · exact .pass rfl hleave
    · exact .stop _ _
  | slowLog name c =>
    apply Entry.KeepsAnswer.pass rfl
    intro a u
    dsimp only
    split <;> exact ⟨rfl, rfl⟩

/-- A `BuiltIn` stage logs no one in. -/
theorem BuiltIn.keepsClient {stage : Stage σ} (h : BuiltIn stage) : stage.KeepsClient := by
  intro s t leave henter
  cases h with
  | defaults name c | noHint name | writeConcern name c =>
    injection henter with ht
    rw [← ht]
    rfl
  | commandFilter name c =>
    simp only [CommandFilter.stage] at henter
    split at henter
    · cases henter
    · injection henter with ht
      rw [← ht]
  | inLimit name hlimit =>
    simp only [InLimit.stage] at henter
    split at henter
    · injection henter with ht
      rw [← ht]
    · cases henter
  | slowLog name c =>
    injection henter with ht
    rw [← ht]

/-- `ofStage` adds no event of the innermost layer. -/
theorem Passage.mem_events_ofStage_iff {position : Nat} {name : String} {outcome : Outcome}
    {scene : Scene σ} {inside : List LayerEvent} :
    .terminal ∈ (ofStage position name outcome scene inside).events ↔ .terminal ∈ inside := by
  cases outcome <;> simp [ofStage]

/-- `run` that comes to the innermost layer ends with the answer and the client of that layer. -/
theorem Passage.exists_terminal {terminal : Terminal σ} {stages : List (Stage σ)}
    (hstages : ∀ stage ∈ stages, stage.KeepsAnswer)
    (cancelled : Cancellation) (position : Nat) {s : Scene σ}
    (hcomes : .terminal ∈ (run terminal cancelled position stages s).events) :
    ∃ t, ((∀ stage ∈ stages, stage.KeepsClient) → t.client = s.client) ∧
      t.request.command.kind = s.request.command.kind ∧
      (run terminal cancelled position stages s).outcome = (terminal t).1 ∧
      (run terminal cancelled position stages s).scene.client = (terminal t).2.client := by
  -- by induction on the stages: each hands the kind inwards, and the answer and the client outwards
  induction stages generalizing position s with
  | nil =>
    rw [run] at hcomes ⊢
    split at hcomes
    · cases hcomes
    · rename_i halive
      rw [if_neg halive]
      exact ⟨s.tick, fun _ => rfl, rfl, rfl, rfl⟩
  | cons stage stages ih =>
    obtain ⟨hstage, hstages⟩ := List.forall_mem_cons.mp hstages
    rw [run] at hcomes ⊢
    split at hcomes
    · cases hcomes
    · rename_i halive
      rw [if_neg halive]
      have henter := hstage s.tick
      cases he : stage.enter s.tick with
      | stop o t =>
        -- a stage that answers by itself comes to no other layer
        rw [he] at hcomes
        cases mem_events_ofStage_iff.mp hcomes
      | pass t leave =>
        rw [he] at henter hcomes
        cases henter with
        | pass hkind hleave =>
          have hinside : .terminal ∈ (run terminal cancelled (position + 1) stages t).events := by
            dsimp only at hcomes
            split at hcomes
            · exact mem_events_ofStage_iff.mp hcomes
            · exact mem_events_ofStage_iff.mp hcomes
          obtain ⟨u, huclient, hukind, houtcome, hleft⟩ := ih hstages (position + 1) hinside
          have hclient (hkeep : ∀ stage' ∈ stage :: stages, stage'.KeepsClient) :
              u.client = s.client := by
            obtain ⟨hhead, htail⟩ := List.forall_mem_cons.mp hkeep
            exact (huclient htail).trans (hhead s.tick t leave he)
          refine ⟨u, hclient, hukind.trans hkind, ?_⟩
          dsimp only
          split
          · rename_i a ha
            rw [outcome_ofStage, scene_ofStage, (hleave a _).1, (hleave a _).2, ← ha]
            exact ⟨houtcome, hleft⟩
          · rw [outcome_ofStage, scene_ofStage]
            exact ⟨houtcome, hleft⟩

/-- `run` that is not cancelled comes to the innermost layer, unless a stage answers by itself. -/
theorem Passage.terminal_mem_events {terminal : Terminal σ} {stages : List (Stage σ)}
    (hpass : ∀ stage ∈ stages, ∀ s, ∃ t leave, stage.enter s = .pass t leave) (position : Nat)
    (s : Scene σ) :
    .terminal ∈ (run terminal (fun _ => false) position stages s).events := by
  -- by induction on the stages: none of them stops the request
  induction stages generalizing position s with
  | nil =>
    rw [run, if_neg Bool.false_ne_true]
    exact List.mem_singleton.mpr rfl
  | cons stage stages ih =>
    obtain ⟨hstage, hstages⟩ := List.forall_mem_cons.mp hpass
    obtain ⟨t, leave, henter⟩ := hstage s.tick
    have hinside := ih hstages (position + 1) t
    rw [run, if_neg Bool.false_ne_true, henter]
    dsimp only
    split
    · exact mem_events_ofStage_iff.mpr hinside
    · exact mem_events_ofStage_iff.mpr hinside

namespace Gateway

open Wire (Message Stream)

/-! ### Commands of a client -/

namespace Session

variable {v : Service σ} {s : Session σ} {d : Document} {command : Command}

/-- `dispatch` leaves the client that the pipeline does. -/
theorem client_dispatch (h : v.registry.parse d = .ok command) :
    (s.dispatch v d).2.client = (s.passage v command).scene.client := by
  have hsituation : (s.dispatch v d).2.situation = (s.passed v command).situation := by
    rw [s.dispatch_of_parsed v h, situation_settle]
  exact congrArg Prod.fst hsituation

/-- `dispatch` that comes to the innermost layer ends with the answer and the client of that
layer. -/
theorem exists_dispatch (hstages : ∀ stage ∈ v.pipeline.stages, stage.KeepsAnswer)
    (h : v.registry.parse d = .ok command)
    (hcomes : .terminal ∈ (s.passage v command).events) :
    ∃ t, ((∀ stage ∈ v.pipeline.stages, stage.KeepsClient) → t.client = s.client) ∧
      t.request.command.kind = command.kind ∧
      (s.dispatch v d).1 = endingOf (v.pipeline.terminal t).1 ∧
      (s.dispatch v d).2.client = (v.pipeline.terminal t).2.client := by
  obtain ⟨t, hclient, hkind, houtcome, hleft⟩ := Passage.exists_terminal hstages _ 0 hcomes
  refine ⟨t, hclient, hkind, ?_, ?_⟩
  · rw [s.ending_dispatch v (s.outcome?_of_parsed v h), ← houtcome]
    rfl
  · rw [client_dispatch h, ← hleft]
    rfl

variable {i : ServerInfo}

/-- `dispatch` of `connectionStatus` tells the client who is logged in by now. -/
theorem dispatch_of_connectionStatus (hterminal : v.pipeline.terminal = i.terminal)
    (hstages : ∀ stage ∈ v.pipeline.stages, stage.KeepsAnswer)
    (h : v.registry.parse d = .ok command)
    (hcomes : .terminal ∈ (s.passage v command).events) (hkind : command.kind = .connectionStatus) :
    (s.dispatch v d).1 = .done (ServerInfo.connectionStatus (s.dispatch v d).2.client) ∧
      ((∀ stage ∈ v.pipeline.stages, stage.KeepsClient) →
        (s.dispatch v d).2.client = s.client) := by
  obtain ⟨t, hclient, htkind, hending, hleft⟩ := s.exists_dispatch hstages h hcomes
  -- the innermost layer tells who the client is in the scene that comes to it
  have htold : i.terminal t = (.response (ServerInfo.connectionStatus t.client), t) := by
    rw [ServerInfo.terminal, htkind, hkind]
  rw [hterminal, htold] at hending hleft
  rw [hending, hleft]
  exact ⟨rfl, hclient⟩

/-- `dispatch` of `logout` leaves nobody logged in. -/
theorem identities_dispatch_of_logout (hterminal : v.pipeline.terminal = i.terminal)
    (hstages : ∀ stage ∈ v.pipeline.stages, stage.KeepsAnswer)
    (h : v.registry.parse d = .ok command)
    (hcomes : .terminal ∈ (s.passage v command).events) (hkind : command.kind = .logout) :
    (s.dispatch v d).2.client.identities = [] := by
  obtain ⟨t, -, htkind, -, hleft⟩ := s.exists_dispatch hstages h hcomes
  have htold : i.terminal t = (.response ServerInfo.plainOk,
      { t with client := t.client.logout }) := by
    rw [ServerInfo.terminal, htkind, hkind]
  rw [hleft, hterminal, htold]
  rfl

end Session

/-! ### Connections -/

/-- `serveSome` of an empty stream waits. -/
private theorem serveSome_empty (v : Service σ) (n : Nat) (s : Session σ) :
    serveSome v n s .empty = ⟨[], .waiting, .empty, s⟩ := by
  cases n <;> rfl

/-- `serve` of a stream that holds one message is `handle` of that message. -/
private theorem session_serve {v : Service σ} {s : Session σ} {stream : Stream} {m : Message}
    (h : stream.next = (.ok (some m), .empty)) : (serve v s stream).session = (s.handle v m).2 := by
  -- the stream is empty after the one message, so that nothing more is served
  rw [serve, serveSome, h]
  dsimp only
  split
  · rename_i hhandle
    rw [serveSome_empty, hhandle]
  · rename_i hhandle
    rw [hhandle]
    split
    · rw [serveSome_empty]
      rfl
    · rfl
  · rename_i hhandle
    rw [hhandle]
  · rename_i hhandle
    rw [hhandle]
  · rename_i hhandle
    rw [hhandle]

variable {g : Gateway σ}

/-- `forget` takes one connection. -/
theorem connection?_forget (id other : UInt64) :
    (g.forget id).connection? other = if other = id then none else g.connection? other := by
  change (g.connections.filter (·.handle.id != id)).find? (·.handle.id == other) = _
  rw [List.find?_filter]
  split
  · rename_i heq
    rw [List.find?_eq_none]
    intro c _
    simp [heq]
  · rename_i hne
    rw [connection?]
    congr 1
    funext c
    -- a connection with another number is looked up as before
    by_cases h : c.handle.id = other
    · simp [h, hne]
    · simp [h]

/-- `put` leaves the other connections. -/
theorem connection?_put {c : Connection} {other : UInt64} (h : other ≠ c.handle.id) :
    (g.put c).connection? other = g.connection? other := by
  simp only [put, connection?]
  induction g.connections with
  | nil => rfl
  | cons d rest ih =>
    rw [List.map_cons, List.find?_cons, List.find?_cons, ih]
    by_cases hd : d.handle.id = c.handle.id
    · -- neither the connection nor the one in its place is looked for
      have hput : (c.handle.id == other) = false := by simpa using Ne.symm h
      simp [hd, hput]
    · simp [hd]

/-- `put` gives a connection the state that it puts. -/
theorem connection?_put_self {c c' : Connection} {id : UInt64} (hid : c.handle.id = id)
    (h : (g.put c).connection? id = some c') : c' = c := by
  have hfound := List.mem_of_find?_eq_some h
  have hid' := List.find?_some h
  obtain ⟨d, -, hd⟩ := List.mem_map.mp hfound
  split at hd
  · exact hd.symm
  · rename_i hne
    rw [← hd, ← hid] at hid'
    exact absurd hid' hne

/-- `connection?` finds a connection by its id. -/
theorem id_of_connection? {id : UInt64} {c : Connection} (h : g.connection? id = some c) :
    c.handle.id = id := by
  simpa using List.find?_some h

/-- `receive` on one connection changes no other. -/
theorem receive_of_ne {id other : UInt64} (h : other ≠ id) (bytes : List UInt8) :
    (g.receive id bytes).2.connection? other = g.connection? other := by
  rw [receive]
  split
  · rfl
  · rename_i c hc
    -- only the connection that the bytes came on is put back, or forgotten
    have hother : other ≠ c.handle.id := by
      rw [id_of_connection? hc]
      exact h
    split
    · rfl
    · dsimp only
      split
      · exact connection?_put hother
      · exact connection?_put hother
      · rw [connection?_forget, if_neg h]
        rfl

/-- `receive` of a message leaves the client that `handle` does, if the connection has not ended. -/
theorem client_of_receive {id : UInt64} {bytes : List UInt8} {c c' : Connection} {m : Message}
    (hc : g.connection? id = some c)
    (hstalled : c.stalled = false) (hnext : (c.stream.extend bytes).next = (.ok (some m), .empty))
    (hc' : (g.receive id bytes).2.connection? id = some c') :
    c'.client = (Session.handle g.service ⟨c.client, g.shared⟩ m).2.client := by
  have hid := id_of_connection? hc
  simp only [receive, hc, hstalled, Bool.false_eq_true, ↓reduceIte] at hc'
  rw [← session_serve hnext]
  split at hc'
  · rw [connection?_put_self (by exact hid) hc']
  · rw [connection?_put_self (by exact hid) hc']
  · rw [connection?_forget, if_pos rfl] at hc'
    cases hc'

/-- Some bytes complete a message on a connection, of whatever form, that asks for a logout; and the
logout comes to the innermost layer. -/
def LogsOut (g : Gateway σ) (id : UInt64) (bytes : List UInt8) : Prop :=
  ∃ c m d command, g.connection? id = some c ∧ c.stalled = false ∧
    (c.stream.extend bytes).next = (.ok (some m), .empty) ∧
    commandOf m.body.unwrap.2 = .ok d ∧ g.service.registry.parse d = .ok command ∧
    command.kind = .logout ∧
    .terminal ∈
      ((Session.ready ⟨c.client, g.shared⟩ m.body.unwrap.2).passage g.service command).events

/-- `connectionStatus` tells a client each user once and each role once of all its identities, those
included that a stage has just logged it in under, in the order in which they first come up
(`NamesFirsts`). After a logout of one connection (`LogsOut`) nobody is logged in there, and every
other connection is what it was. -/
theorem connectionStatus_namesFirsts_and_logout {v : Service σ} {i : ServerInfo}
    (hterminal : v.pipeline.terminal = i.terminal)
    (hstages : ∀ stage ∈ v.pipeline.stages, stage.KeepsAnswer) :
    (∀ (s : Session σ) d command, v.registry.parse d = .ok command →
      .terminal ∈ (s.passage v command).events →
      (command.kind = .connectionStatus →
        (∃ users roles, (s.dispatch v d).1 = .done (ServerInfo.statusDocument users roles) ∧
          NamesFirsts ((s.dispatch v d).2.client.identities.map (·.user)) users ∧
          NamesFirsts ((s.dispatch v d).2.client.identities.flatMap (·.roles)) roles) ∧
        ((∀ stage ∈ v.pipeline.stages, stage.KeepsClient) → (s.dispatch v d).2.client = s.client)) ∧
      (command.kind = .logout → ServerInfo.connectionStatus (s.dispatch v d).2.client =
        ServerInfo.statusDocument [] [])) ∧
    ∀ (g : Gateway σ) id bytes, g.service = v →
      (∀ other, other ≠ id → (g.receive id bytes).2.connection? other = g.connection? other) ∧
      (g.LogsOut id bytes → ∀ c, (g.receive id bytes).2.connection? id = some c →
        ServerInfo.connectionStatus c.client = ServerInfo.statusDocument [] []) := by
  constructor
  · intro s d command hparse hcomes
    constructor
    · intro hkind
      obtain ⟨htold, hclient⟩ :=
        s.dispatch_of_connectionStatus hterminal hstages hparse hcomes hkind
      rw [ServerInfo.connectionStatus_eq] at htold
      exact ⟨⟨_, _, htold, ServerInfo.namesFirsts_distinct _, ServerInfo.namesFirsts_distinct _⟩,
        hclient⟩
    · intro hkind
      exact ServerInfo.connectionStatus_of_nobody
        (s.identities_dispatch_of_logout hterminal hstages hparse hcomes hkind)
  · intro g id bytes hservice
    constructor
    · intro other hother
      exact receive_of_ne hother bytes
    · intro ⟨c, m, d, command, hc, hstalled, hnext, hd, hparse, hkind, hcomes⟩ c' hc'
      rw [hservice] at hparse hcomes
      -- the message leaves the client that its command leaves
      have hhandled : (Session.handle v ⟨c.client, g.shared⟩ m).2.client.identities = [] := by
        have hsituation := (Session.after_handle v ⟨c.client, g.shared⟩ m).1
        rw [Session.situation_handleBody, hd] at hsituation
        have hleft : (Session.handle v ⟨c.client, g.shared⟩ m).2.client = _ :=
          congrArg Prod.fst hsituation
        rw [hleft]
        exact Session.identities_dispatch_of_logout hterminal hstages hparse hcomes hkind
      rw [client_of_receive hc hstalled hnext hc', hservice]
      exact ServerInfo.connectionStatus_of_nobody hhandled

/-- What a gateway with one stage answers with. -/
private def hinted : Service Unit where
  registry := .standard
  pipeline := ⟨[HintRemoval.stage "hints"], ServerInfo.terminal ⟨"4.0", "gateway", 30, []⟩⟩

/-- Two principals with three identities. -/
private def twoPrincipals : Client where
  addr := none
  identities :=
    [⟨"scram", "alice", ["read", "write"]⟩, ⟨"x509", "alice", ["write", "admin"]⟩,
      ⟨"scram", "bob", []⟩]
  sidecar := .empty

/-- A gateway with two connections of these principals. -/
private def twoConnections : Gateway Unit :=
  { Gateway.start .standard hinted () with
    connections :=
      [1, 2].map fun id => ⟨.accept id (.loopback 27017) 0, twoPrincipals, .empty, false⟩ }

/-- `connectionStatus` lists a role of an identity whose user was listed before, and a logout is
only that of the connection that asks for it. -/
theorem connectionStatus_namesFirsts_and_logout_twoPrincipals :
    let question : Document := [("connectionStatus", .int32 1), ("$db", .string "admin")]
    let bytes : List UInt8 := [53, 0, 0, 0, 7, 0, 0, 0, 0, 0, 0, 0, 221, 7, 0, 0, 0, 0, 0, 0, 0,
      32, 0, 0, 0, 16, 108, 111, 103, 111, 117, 116, 0, 1, 0, 0, 0, 2, 36, 100, 98, 0, 6, 0, 0, 0,
      97, 100, 109, 105, 110, 0, 0]
    let s : Session Unit := ⟨twoPrincipals, twoConnections.shared⟩
    (hinted.pipeline.terminal = ServerInfo.terminal ⟨"4.0", "gateway", 30, []⟩ ∧
        ∀ stage ∈ hinted.pipeline.stages, stage.KeepsAnswer ∧ stage.KeepsClient) ∧
      (∃ command, hinted.registry.parse question = .ok command ∧
        .terminal ∈ (s.passage hinted command).events ∧
        command.kind = .connectionStatus) ∧
      (s.dispatch hinted question).1 =
        .done (ServerInfo.statusDocument ["alice", "bob"] ["read", "write", "admin"]) ∧
      twoConnections.LogsOut 1 bytes ∧
      (∀ c, (twoConnections.receive 1 bytes).2.connection? 1 = some c →
        ServerInfo.connectionStatus c.client = ServerInfo.statusDocument [] []) ∧
      (twoConnections.receive 1 bytes).2.connection? 2 = twoConnections.connection? 2 := by
  intro question bytes s
  have hstages : ∀ stage ∈ hinted.pipeline.stages, stage.KeepsAnswer ∧ stage.KeepsClient := by
    intro stage h
    rw [List.mem_singleton.mp h]
    exact ⟨(BuiltIn.noHint "hints").keepsAnswer, (BuiltIn.noHint "hints").keepsClient⟩
  -- no stage of this gateway stops a command
  have hcomes (s : Session Unit) (h : s.shared.cancelled = fun _ => false) (command : Command) :
      .terminal ∈ (s.passage hinted command).events := by
    rw [Session.passage, h]
    apply Passage.terminal_mem_events
    intro stage hstage s
    rw [List.mem_singleton.mp hstage]
    exact ⟨_, _, rfl⟩
  have hlogsOut : twoConnections.LogsOut 1 bytes := by
    let farewell : Document := [("logout", .int32 1), ("$db", .string "admin")]
    let m : Message := ⟨7, 0, .msg ⟨⟨0⟩, [.body farewell]⟩⟩
    have hset : m.body.isSettled = true := by rfl
    have hwritable : Bson.Document.isWritable farewell = true := by
      simp [farewell, Bson.Document.isWritable, Bson.fieldsWritable, Bson.Value.isWritable,
        Bson.isTerminable]
    have hencode : m.encode = .ok bytes :=
      (Wire.encode_plain_eq_ok_iff (by decide)).mpr
        ⟨by simpa [m, Wire.Body.documents, Wire.MsgSection.documents] using hwritable,
          by decide +kernel,
          by decide +kernel⟩
    have hdecode : Message.decode bytes = .ok m := Wire.decode_of_encode hset hencode
    have hnext : (Stream.extend .empty bytes).next = (.ok (some m), .empty) := by
      have htake : bytes.take (Wire.frameSize bytes) = bytes := by decide
      have hdrop : bytes.drop (Wire.frameSize bytes) = [] := by decide
      rw [Stream.next_of_frame (by decide) (by decide) (by decide)]
      change (some <$> Message.decode (bytes.take (Wire.frameSize bytes)),
        Stream.mk (bytes.drop (Wire.frameSize bytes))) = _
      rw [htake, hdrop, hdecode]
      rfl
    exact ⟨_, m, farewell, ⟨.logout, farewell⟩, rfl, rfl, hnext, by rfl, by rfl, rfl,
      hcomes _ rfl _⟩
  obtain ⟨hsessions, hgateways⟩ :=
    connectionStatus_namesFirsts_and_logout (v := hinted) rfl fun stage h => (hstages stage h).1
  obtain ⟨hothers, hown⟩ := hgateways twoConnections 1 bytes rfl
  have hparse : hinted.registry.parse question = .ok ⟨.connectionStatus, question⟩ := by rfl
  have hclient :=
    ((hsessions s question _ hparse (hcomes s rfl _)).1 rfl).2 fun stage h => (hstages stage h).2
  have htold :=
    (s.dispatch_of_connectionStatus rfl (fun stage h => (hstages stage h).1) hparse
      (hcomes s rfl _) rfl).1
  rw [hclient] at htold
  exact ⟨⟨rfl, hstages⟩, ⟨⟨.connectionStatus, question⟩, hparse, hcomes s rfl _, rfl⟩, htold,
    hlogsOut, hown hlogsOut,
    hothers 2 (by decide)⟩

end Gateway

end DocGateway
