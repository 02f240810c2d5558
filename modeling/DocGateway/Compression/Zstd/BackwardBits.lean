/-!
# Bits of a byte string, last bits first

Some streams are written forwards and read backwards: from the last byte on, the most significant
bit first. The highest bit set in the last byte marks the end and does not count. Reading on past
the start gives zeros; how many were lent so is kept, and a stream must have been read to its start
without any.
-/

namespace DocGateway.Zstd

/-- The bits that are left, in the order of reading, and how many zeros were lent. -/
structure BackwardBits where
  bits : List Bool
  lent : Nat
deriving DecidableEq, Repr, Inhabited

/-- A reader of backward bits. It never fails. -/
abbrev BackwardReader (α : Type) := StateM BackwardBits α

namespace BackwardBits

/-- The bits of a byte, the most significant first. -/
def ofByte (b : UInt8) : List Bool := (List.range 8).map fun i => b.toNat.testBit (7 - i)

/-- The stream in some bytes, unless they hold no end mark. -/
def ofBytes? (bytes : List UInt8) : Option BackwardBits :=
  match bytes.reverse with
  | [] => none
  | last :: rest =>
    if last = 0 then none
    else
      let marked := (ofByte last).dropWhile (! ·)
      some ⟨marked.drop 1 ++ rest.flatMap ofByte, 0⟩

/-- The number of `n` bits that comes next, which is not taken. -/
def peek (s : BackwardBits) (n : Nat) : Nat :=
  let present := s.bits.take n
  present.foldl (fun value b => 2 * value + b.toNat) 0 <<< (n - present.length)

/-- Takes `n` bits. -/
def skip (s : BackwardBits) (n : Nat) : BackwardBits :=
  let present := (s.bits.take n).length
  ⟨s.bits.drop n, s.lent + (n - present)⟩

/-- Whether the stream was read to its start, and no further. -/
def finished (s : BackwardBits) : Bool := s.bits.isEmpty ∧ s.lent = 0

/-- Reads a number of `n` bits. -/
def number (n : Nat) : BackwardReader Nat := fun s => (s.peek n, s.skip n)

end BackwardBits

end DocGateway.Zstd
