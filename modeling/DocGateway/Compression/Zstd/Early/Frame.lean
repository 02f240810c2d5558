import DocGateway.Compression.Zstd.Early.Sequences
/-!
# Frames of early editions

Each block starts with three bytes, which give its kind and its size. In all but the last of these
editions a block without bytes ends the frame, whatever its kind. A checksum is not looked at.
-/

namespace DocGateway.Zstd.Early

/-- What is carried from block to block: the output, the last offsets, and the code and the tables
used last. All but the output matters in the last edition only. -/
structure FrameState where
  out : Array UInt8
  recent : Zstd.Sequences.Recent
  code : Option HuffmanCode
  tables : Option (PerField FseTable)
deriving Repr

namespace Frame

/-- A compressed block has fewer bytes than this from the fifth edition on. -/
def maxBlockSize : Nat := 131072

/-- Carries out a compressed block. -/
def compressed? (e : Edition) (start limit : Nat) (body : List UInt8) (s : FrameState) :
    Option FrameState := do
  if 5 ≤ e.number ∧ maxBlockSize ≤ body.length then none
  let literals ← Literals.decode? e (limit - s.out.size) s.code body
  let crowded := e = .first ∧ ¬ literals.standInBlock
  let (p, tables) ← Sequences.decode? e s.tables start limit crowded ⟨s.out, literals.bytes,
      ⟨0, 0⟩, s.recent⟩
    literals.rest
  some (if e = .seventh then ⟨p.out, p.recent, literals.code, tables⟩ else { s with out := p.out })

/-- Puts out some bytes. -/
def put? (limit : Nat) (bytes : List UInt8) (s : FrameState) : Option FrameState :=
  if limit < s.out.size + bytes.length then none else some { s with out := s.out ++ bytes }

/-- Carries out blocks up to the one that ends the frame. Only the last edition has repeated
bytes. -/
def blocks? (e : Edition) (start limit : Nat) :
    Nat → List UInt8 → FrameState → Option (Array UInt8 × List UInt8)
  | 0, _, _ => none
  | fuel + 1, bytes, s => do
    let (head, rest) ← Slice.split? 3 bytes
    let head := bigEndian head
    let size := head % 1 <<< 19
    match head >>> 22 with
    | 3 => some (s.out, rest)
    | 2 =>
      let (byte, rest) ← Slice.split? 1 rest
      if e ≠ .seventh ∨ limit < s.out.size + size then none
      blocks? e start limit fuel rest (← put? limit (byte.flatMap (List.replicate size)) s)
    | kind =>
      let (body, rest) ← Slice.split? size rest
      if size = 0 ∧ e ≠ .seventh then some (s.out, rest)
      else
        let s ← if kind = 1 then put? limit body s else compressed? e start limit body s
        blocks? e start limit fuel rest s

/-- Carries out the frame behind the magic bytes, and gives the output and what follows the frame.
The output must have the size that the frame says it has. -/
def decode? (e : Edition) (limit : Nat) (out : Array UInt8) (bytes : List UInt8) :
    Option (Array UInt8 × List UInt8) := do
  let start := out.size
  let (size, rest) ← e.header? bytes
  let (out, rest) ← blocks? e start limit rest.length rest ⟨out, .start, none, none⟩
  if size.getD (out.size - start) = out.size - start then some (out, rest) else none

end Frame

end DocGateway.Zstd.Early
