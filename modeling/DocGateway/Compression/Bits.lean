/-!
# Bits of a byte string, low bits first

A source of bits is a byte string of whose first byte some bits have been taken. Numbers are read
with their least significant bit first; the bits of a prefix code come one at a time. A reader that
stops tells whether it ran out of bits or met bits that mean nothing.
-/

namespace DocGateway

/-- A byte string, and the number of bits taken of its first byte. -/
structure Bits where
  bytes : List UInt8
  taken : Nat
deriving DecidableEq, Repr, Inhabited

/-- Why nothing could be read: the bits end too early, or they are wrong whatever comes after
them. -/
inductive Shortfall where
  | starved | corrupt
deriving DecidableEq, Repr

/-- A reader of bits. -/
abbrev BitReader (α : Type) := StateT Bits (Except Shortfall) α

namespace Bits

/-- Stops at bits that mean nothing. -/
def corrupt {α : Type} : BitReader α := fun _ => .error .corrupt

/-- The next bit. -/
def bit : BitReader Nat := fun s =>
  match s.bytes with
  | [] => .error .starved
  | b :: rest =>
    let value := b.toNat >>> s.taken % 2
    .ok (value, if s.taken = 7 then ⟨rest, 0⟩ else ⟨s.bytes, s.taken + 1⟩)

/-- A number of `n` bits. -/
def number : Nat → BitReader Nat
  | 0 => pure 0
  | n + 1 => do
    let low ← bit
    let high ← number n
    pure (low + 2 * high)

/-- Drops the bits that are left of a byte begun. -/
def align : BitReader Unit := fun s => .ok ((), if s.taken = 0 then s else ⟨s.bytes.drop 1, 0⟩)

/-- A byte, where none is begun. -/
def byte : BitReader UInt8 := fun s =>
  match s.bytes with
  | [] => .error .starved
  | b :: rest => .ok (b, ⟨rest, 0⟩)

/-- A little-endian number of `n` bytes, where none is begun. -/
def word : Nat → BitReader Nat
  | 0 => pure 0
  | n + 1 => do
    let low ← byte
    let high ← word n
    pure (low.toNat + 256 * high)

/-- A result that may be missing, for bits that mean nothing. -/
def require {α : Type} : Option α → BitReader α
  | some x => pure x
  | none => corrupt

/-- What a reader reads at the start of some bytes, and the bytes that it leaves, without a byte
begun. -/
def readWhole? {α : Type} (reader : BitReader α) (bytes : List UInt8) : Option (α × List UInt8) :=
  match reader.run ⟨bytes, 0⟩ with
  | .ok (x, rest) => some (x, if rest.taken = 0 then rest.bytes else rest.bytes.drop 1)
  | .error _ => none

end Bits

end DocGateway
