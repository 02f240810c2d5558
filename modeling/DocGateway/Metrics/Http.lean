import DocGateway.Metrics.Endpoint
/-!
# Requests to the endpoint

The endpoint speaks as much of the hypertext transfer protocol as it needs: of a request it reads
the target, and it closes the connection after its answer.
-/

namespace DocGateway.EndpointResponse

/-- Whether the head of a request is complete: an empty line ends it. -/
def isComplete (head : String) : Bool := 1 < (head.splitOn "\r\n\r\n").length

/-- The target of a request, the second word of its head. -/
def target? (head : String) : Option String :=
  match head.splitOn " " with
  | _ :: target :: _ => some target
  | _ => none

/-- The words for a status. -/
def reason (status : Nat) : String :=
  match status with
  | 200 => "OK"
  | 404 => "Not Found"
  | 503 => "Service Unavailable"
  | _ => "Internal Server Error"

/-- The text of the body. Lines of metrics end with a line break, a short text does not. -/
def body (r : EndpointResponse) : String :=
  if r.contentType.isSome then String.join (r.lines.map (· ++ "\n")) else "\n".intercalate r.lines

/-- The text of an answer. -/
def render (r : EndpointResponse) : String :=
  let contentType := (r.contentType.map fun t => "content-type: " ++ t ++ "\r\n").getD ""
  "HTTP/1.1 " ++ toString r.status ++ " " ++ reason r.status ++ "\r\n" ++ contentType ++
    "content-length: " ++ toString r.body.utf8ByteSize ++ "\r\nconnection: close\r\n\r\n" ++ r.body

end DocGateway.EndpointResponse
