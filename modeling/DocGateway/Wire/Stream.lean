import DocGateway.Wire.Decode
/-!
# Messages from a stream of bytes

Bytes arrive in pieces of any size. `Stream.next` takes the first message off what has arrived, once
all of it is there. A length that cannot frame a message stays where it is, so that every later call
fails in the same way; a frame whose body cannot be read is taken off all the same.
-/

namespace DocGateway.Wire

/-- The bytes that have arrived and are not yet taken off. -/
structure Stream where
  buffer : List UInt8
deriving DecidableEq, Repr, Inhabited

namespace Stream

/-- Nothing has arrived. -/
def empty : Stream := ⟨[]⟩

/-- More bytes arrive. -/
def extend (s : Stream) (bs : List UInt8) : Stream := ⟨s.buffer ++ bs⟩

/-- The number of bytes that have arrived and are not yet taken off. -/
def buffered (s : Stream) : Nat := s.buffer.length

/-- Whether part of a message has arrived. -/
def hasPartial (s : Stream) : Bool := !s.buffer.isEmpty

/-- Takes off the next message, if all of it has arrived. -/
def next (s : Stream) : Except WireError (Option Message) × Stream :=
  match Header.peek s.buffer with
  | .error e => (.error e, s)
  | .ok none => (.ok none, s)
  | .ok (some h) =>
    match Slice.split? h.size s.buffer with
    | none => (.ok none, s)
    | some (frame, rest) => (some <$> Message.decode frame, ⟨rest⟩)

end Stream

end DocGateway.Wire
