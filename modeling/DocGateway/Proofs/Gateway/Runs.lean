import DocGateway.Gateway.Drain
import DocGateway.Proofs.Gateway.Alone
/-!
# A gateway at work is traffic

Whatever happens to a gateway, from its start to its end, does to the cache what some traffic does,
and nothing is made up for that. So all that holds of traffic holds of the cache of a gateway.

## Key results

- `exists_reaches_serve`: what has arrived on one connection
- `exists_reaches_occur`: one thing that happens to a gateway
- `exists_reaches_play`: all that happens to it
-/

namespace DocGateway

open Wire (Message Stream)

namespace Gateway

/-! ### What happens to a gateway -/

/-- Something that happens to a gateway. -/
inductive Occurrence where
  /-- A client connects. -/
  | accept (addr : SocketAddress)
  /-- Bytes of a client arrive. -/
  | receive (id : UInt64) (bytes : List UInt8)
  /-- A client hangs up. -/
  | hangUp (id : UInt64)
  /-- The cursors are looked through. -/
  | reap
  /-- Time passes. -/
  | wait (milliseconds : Nat)
  /-- The gateway is shut down. -/
  | shutdown (deadline : Option Nat)

variable {σ : Type}

/-- Lets something happen. -/
def occur (g : Gateway σ) : Occurrence → Gateway σ
  | .accept addr => (g.accept addr).2
  | .receive id bytes => (g.receive id bytes).2
  | .hangUp id => g.hangUp id
  | .reap => g.reap
  | .wait ms => g.wait ms
  | .shutdown deadline => (g.shutdown deadline).2

/-- Lets things happen one after another. -/
def play (g : Gateway σ) (occurrences : List Occurrence) : Gateway σ := occurrences.foldl occur g

variable {v : Service σ} {allowed : Access → Prop} {t : Traffic}

namespace Traffic

/-! ### Messages -/

/-- What `handle` does to the cache, traffic does. -/
theorem exists_reaches_handle {s : Session σ} (hv : AccessesOnly v allowed) (ht : t.IsOf s.shared)
    (m : Message) :
    ∃ t', t.Reaches v allowed t' ∧ t'.IsOf (s.handle v m).2.shared := by
  have hof : t.IsOf (s.count (·.message m.body.opcode.name)).shared := ⟨ht.cursors, ht.now⟩
  obtain ⟨t', hreaches, hof, -⟩ := exists_reaches_handleBody hv hof m.body.unwrap.2
  obtain ⟨ending, s', h⟩ : ∃ ending s',
      (s.count (·.message m.body.opcode.name)).handleBody v m.body.unwrap.2 =
      (ending, s') := ⟨_, _, rfl⟩
  rw [h] at hof
  refine ⟨t', hreaches, ?_⟩
  -- what is made of the ending takes no action
  match ending, h with
  | .done (some reply), h =>
    rw [s.handle_of_reply v h]
    exact ⟨hof.cursors, hof.now⟩
  | .done none, h | .failed e, h | .crashed, h | .stalled, h =>
    rw [s.handle_of_none v rfl h]
    exact hof

/-- What `serveSome` does to the cache, traffic does. -/
theorem exists_reaches_serveSome {s : Session σ} (hv : AccessesOnly v allowed)
    (ht : t.IsOf s.shared) (n : Nat)
    (stream : Stream) :
    ∃ t', t.Reaches v allowed t' ∧ t'.IsOf (serveSome v n s stream).session.shared := by
  -- by induction on the messages that may still be taken; each starts where the one before ended
  induction n generalizing s t stream with
  | zero => exact ⟨t, .refl, ht⟩
  | succ n ih =>
    rw [serveSome]
    split
    · exact ⟨t, .refl, ht⟩
    · exact ⟨t, .refl, ht⟩
    · rename_i m rest _
      obtain ⟨t', hreaches, hof⟩ := exists_reaches_handle hv ht m
      split <;> rename_i hhandle <;> rw [hhandle] at hof
      · obtain ⟨t'', hrest, hof'⟩ := ih hof rest
        exact ⟨t'', hreaches.trans hrest, hof'⟩
      · split
        · obtain ⟨t'', hrest, hof'⟩ := ih hof rest
          exact ⟨t'', hreaches.trans hrest, hof'⟩
        · exact ⟨t', hreaches, hof⟩
      · exact ⟨t', hreaches, hof⟩
      · exact ⟨t', hreaches, hof⟩
      · exact ⟨t', hreaches, hof⟩

/-- What `serve` does to the cache, traffic does. -/
theorem exists_reaches_serve {s : Session σ} (hv : AccessesOnly v allowed) (ht : t.IsOf s.shared)
    (stream : Stream) :
    ∃ t', t.Reaches v allowed t' ∧ t'.IsOf (serve v s stream).session.shared :=
  exists_reaches_serveSome hv ht _ stream

/-! ### Connections -/

/-- A gateway works with a service, and the cache and the time are those that it shares. -/
structure IsAt (t : Traffic) (v : Service σ) (g : Gateway σ) : Prop where
  service : g.service = v
  isOf : t.IsOf g.shared

variable {g : Gateway σ}

/-- `IsAt` is kept by `forget`. -/
theorem IsAt.forget (ht : t.IsAt v g) (id : UInt64) : t.IsAt v (g.forget id) :=
  ⟨ht.service, ht.isOf.cursors, ht.isOf.now⟩

/-- `IsAt` is kept by `closeIdle`. -/
theorem IsAt.closeIdle (ht : t.IsAt v g) : t.IsAt v g.closeIdle := by
  refine List.foldlRecOn (motive := t.IsAt v) _ _ ht fun g ht c _ => ?_
  rw [close]
  split
  · exact ⟨ht.service, ht.isOf⟩
  · exact ht.forget _

/-- `IsAt` is kept by `cancelAll`. -/
theorem IsAt.cancelAll (ht : t.IsAt v g) : t.IsAt v g.cancelAll :=
  List.foldlRecOn (motive := t.IsAt v) _ _ ⟨ht.service, ht.isOf.cursors,
    ht.isOf.now⟩ fun _ ht c _ => ht.forget c.handle.id

/-- What `wait` does, the passing of time does in traffic. -/
theorem reaches_wait (allowed : Access → Prop) (ht : t.IsAt v g) (ms : Nat) :
    t.Reaches v allowed (t.step (.pass ms)) ∧ (t.step (.pass ms)).IsAt v (g.wait ms) := by
  refine ⟨.of_step (.pass ms) rfl, ht.service, ht.isOf.cursors, ?_⟩
  rw [wait, ← ht.isOf.now]
  rfl

/-- What `receive` does to the cache, traffic does. -/
theorem exists_reaches_receive (hv : AccessesOnly v allowed) (ht : t.IsAt v g) (id : UInt64)
    (bytes : List UInt8) :
    ∃ t', t.Reaches v allowed t' ∧ t'.IsAt v (g.receive id bytes).2 := by
  obtain ⟨rfl, ht⟩ := ht
  rw [receive]
  split
  · exact ⟨t, .refl, rfl, ht⟩
  · rename_i c _
    split
    · exact ⟨t, .refl, rfl, ht⟩
    · obtain ⟨t', hreaches, hof⟩ :=
        exists_reaches_serve (s := ⟨c.client, g.shared⟩) hv ht (c.stream.extend bytes)
      refine ⟨t', hreaches, ?_⟩
      dsimp only
      split
      · exact ⟨rfl, hof⟩
      · exact ⟨rfl, hof⟩
      -- a connection that ends is forgotten, and the cache is not told
      · exact ⟨rfl, hof.cursors, hof.now⟩

/-- What `drainWithin` does, the passing of time does in traffic. -/
theorem exists_reaches_drainWithin (allowed : Access → Prop) (ht : t.IsAt v g) (n : Nat)
    (left : Option Nat) :
    ∃ t', t.Reaches v allowed t' ∧ t'.IsAt v (drainWithin n left g).2 := by
  -- by induction on the looks at the connections; time passes between two of them
  induction n generalizing g t left with
  | zero => exact ⟨t, .refl, ht⟩
  | succ n ih =>
    have hwait := reaches_wait allowed ht.closeIdle
    cases left with
    | some ms =>
      simp only [drainWithin]
      split
      · exact ⟨t, .refl, ht.closeIdle⟩
      · split
        · exact ⟨_, hwait ms⟩
        · obtain ⟨hpass, hat⟩ := hwait g.closeIdle.settings.pollInterval
          obtain ⟨t', hreaches, hat'⟩ := ih hat (some _)
          exact ⟨t', hpass.trans hreaches, hat'⟩
    | none =>
      simp only [drainWithin]
      split
      · exact ⟨t, .refl, ht.closeIdle⟩
      · obtain ⟨hpass, hat⟩ := hwait g.closeIdle.settings.pollInterval
        obtain ⟨t', hreaches, hat'⟩ := ih hat none
        exact ⟨t', hpass.trans hreaches, hat'⟩

/-! ### Gateways -/

/-- What `occur` does to the cache, traffic does, whatever happens. -/
theorem exists_reaches_occur (hv : AccessesOnly v allowed) (ht : t.IsAt v g) (o : Occurrence) :
    ∃ t', t.Reaches v allowed t' ∧ t'.IsAt v (g.occur o) := by
  cases o with
  | accept addr =>
    refine ⟨t, .refl, ?_⟩
    rw [occur, accept]
    split
    · exact ht
    · exact ⟨ht.service, ht.isOf.cursors, ht.isOf.now⟩
  | receive id bytes => exact exists_reaches_receive hv ht id bytes
  | hangUp id =>
    refine ⟨t, .refl, ?_⟩
    rw [occur, hangUp]
    split
    · split
      · exact ht
      · exact ht.forget id
    · exact ht
  | reap =>
    obtain ⟨rfl, ht⟩ := ht
    rw [occur, reap]
    split
    · obtain ⟨t', hreaches, hof, -⟩ := exists_reaches_reap hv ht
      exact ⟨t', hreaches, rfl, hof⟩
    · exact ⟨t, .refl, rfl, ht⟩
  | wait ms => exact ⟨_, reaches_wait allowed ht ms⟩
  -- connections are closed and time passes, which leaves the cache to itself
  | shutdown deadline =>
    have hclosed : t.IsAt v { g with ready := false } := ⟨ht.service, ht.isOf⟩
    obtain ⟨t', hreaches, hat⟩ :=
      exists_reaches_drainWithin allowed hclosed (lookCount g.settings deadline) deadline
    have hstopped : t'.IsAt v
        { (drainWithin (lookCount g.settings deadline) deadline { g with ready := false }).2 with
      reaping := false } := ⟨hat.service, hat.isOf⟩
    refine ⟨t', hreaches, ?_⟩
    simp only [occur, shutdown]
    split
    · exact hstopped
    · split
      · exact hstopped.cancelAll
      · exact hat

/-- `IsAt` holds of a gateway to which nothing has happened. -/
theorem isAt_start (settings : Settings) (v : Service σ) (own : σ) :
    (Traffic.start settings.cursorTimeout).IsAt v (.start settings v own) := ⟨rfl, rfl, rfl⟩

/-- What `play` does to the cache, traffic does, however much happens. -/
theorem exists_reaches_play (hv : AccessesOnly v allowed) (ht : t.IsAt v g)
    (occurrences : List Occurrence) :
    ∃ t', t.Reaches v allowed t' ∧ t'.IsAt v (g.play occurrences) := by
  induction occurrences generalizing t g with
  | nil => exact ⟨t, .refl, ht⟩
  | cons o occurrences ih =>
    obtain ⟨t', hreaches, hat⟩ := exists_reaches_occur hv ht o
    obtain ⟨t'', hrest, hat'⟩ := ih hat
    exact ⟨t'', hreaches.trans hrest, hat'⟩

end Traffic

end Gateway

end DocGateway
