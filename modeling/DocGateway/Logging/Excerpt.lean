import DocGateway.Bson.ExtendedJson
/-!
# Documents in the log

A document is logged as extended JSON of limited length. A text that is too long is cut after the
last character that ends within the limit, and an ellipsis shows that it was cut.
-/

namespace DocGateway.Excerpt

open Bson (Document)

/-- The limit, in bytes, that holds unless another one is set. -/
def defaultLimit : Nat := 1024

/-- What is written after a text that was cut. -/
def ellipsis : String := "..."

/-- The longest run of first characters that takes at most `limit` bytes. -/
def fitting (limit : Nat) : List Char → List Char
  | [] => []
  | c :: cs => if c.utf8Size ≤ limit then c :: fitting (limit - c.utf8Size) cs else []

/-- A text of at most `limit` bytes, else what fits of it and an ellipsis. Zero stands for no
limit. -/
def truncate (s : String) (limit : Nat) : String :=
  if limit = 0 ∨ s.utf8ByteSize ≤ limit then s
  else String.ofList (fitting limit s.toList) ++ ellipsis

/-- A document as it is logged. -/
def ofDocument (d : Document) (limit : Nat) : String :=
  truncate (Bson.ExtendedJson.document d) limit

end DocGateway.Excerpt
