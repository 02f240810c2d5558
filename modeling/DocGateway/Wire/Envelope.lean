import DocGateway.Compression.Codec
import DocGateway.Wire.Error
/-!
# Payloads of envelopes

An envelope declares how many bytes its payload expands to. `expand` gives exactly that many bytes
or fails.
-/

namespace DocGateway.Wire

/-- The failure of a payload that is malformed. -/
def malformed (c : Compressor) : WireError := .compression c.name none

/-- Fails if the payload announces at its start that it expands to another number of bytes than
declared. -/
def checkAnnounced (c : Compressor) (payload : List UInt8) (declared : Int32) :
    Except WireError Unit :=
  match c with
  | .snappy =>
    match Snappy.announced? payload with
    | none => .error (malformed c)
    | some n =>
      if (n : Int) = declared.toInt then .ok () else .error (.uncompressedSizeMismatch declared n)
  | _ => .ok ()

/-- The bytes that a payload expands to, if they are as many as declared. -/
def expand (c : Compressor) (payload : List UInt8) (declared : Int32) :
    Except WireError (List UInt8) := do
  if declared.toInt < 0 ∨ (maxMessageSize : Int) < declared.toInt then
    .error (.invalidMessageLength declared)
  let size := declared.toInt.toNat
  checkAnnounced c payload declared
  match c.decompress? size payload with
  | none => .error (malformed c)
  | some plain =>
    if plain.length = size then .ok plain
    else .error (.uncompressedSizeMismatch declared plain.length)

end DocGateway.Wire
