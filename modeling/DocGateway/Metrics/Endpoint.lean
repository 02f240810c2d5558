import DocGateway.Metrics.Exposition
/-!
# The health and metrics endpoint

Requests are told apart by path alone: metrics are shown as text, the health of the gateway as a
status, and any other path is not found.
-/

namespace DocGateway

/-- An answer of the endpoint. -/
structure EndpointResponse where
  status : Nat
  contentType : Option String
  lines : List String
deriving DecidableEq, Repr

namespace EndpointResponse

/-- A short text. -/
def text (status : Nat) (line : String) : EndpointResponse := ⟨status, none, [line]⟩

/-- The path of a request target, which ends where its query begins. -/
def pathOf (target : String) : String := String.ofList (target.toList.takeWhile (· != '?'))

/-- The answer to a request. -/
def answer (m : Metrics) (ready : Bool) (target : String) : EndpointResponse :=
  match pathOf target with
  | "/metrics" => ⟨200, some "text/plain; version=0.0.4; charset=utf-8", m.lines⟩
  | "/health" | "/healthz" => if ready then text 200 "OK" else text 503 "NOT READY"
  | _ => text 404 "Not Found"

end EndpointResponse

end DocGateway
