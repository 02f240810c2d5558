import DocGateway.Gateway.Session
import DocGateway.Legacy.Request
/-!
# Expired cursors

A cursor that was left alone for too long is closed on the server too: the gateway itself sends the
command for it, one for each cursor.
-/

namespace DocGateway.Gateway

namespace Shared

variable {σ : Type}

/-- Carries out the command that closes one cursor, and says whether it ended. -/
def killExpired (v : Service σ) (s : Shared σ) (id : Int64) : Bool × Shared σ :=
  let session : Session σ := ⟨s.internalClient, { s with metrics := s.metrics.cursorExpired }⟩
  let (ending, session) := session.dispatch v (Legacy.killCursorsCommand [id])
  let s := { session.shared with internalClient := session.client }
  match ending with
  | .done _ | .failed _ => (true, { s with cursors := s.cursors.close id })
  | .crashed | .stalled => (false, s)

/-- Closes some cursors, one after another, up to one whose command does not end. -/
def killAllExpired (v : Service σ) (s : Shared σ) : List Int64 → Bool × Shared σ
  | [] => (true, s)
  | id :: ids =>
    match s.killExpired v id with
    | (true, s) => s.killAllExpired v ids
    | (false, s) => (false, s)

/-- Looks for expired cursors and closes them, and says whether all of it ended. -/
def reap (v : Service σ) (s : Shared σ) : Bool × Shared σ :=
  let (ids, cursors) := s.cursors.reapExpired s.now
  { s with cursors }.killAllExpired v ids

end Shared

end DocGateway.Gateway
