import DocGateway.Bytes.LittleEndian
import DocGateway.Bytes.Slice
import DocGateway.Compression.History
import DocGateway.Compression.Zstd.Fse
/-!
# Sequences of a block

After its literals a block has a list of sequences: take so many literals, then copy so many bytes
from so far back. The three numbers are each coded with a table of states and extra bits, all in one
stream that is read backwards.
-/

namespace DocGateway.Zstd

/-- Three things, one for each number of a sequence. -/
structure PerField (α : Type) where
  literals : α
  offset : α
  length : α
deriving Repr, Inhabited

namespace Sequences

/-! ### Codes -/

/-- The numbers of literals that the codes start from, with their extra bits. -/
def literalsCodes : Array (Nat × Nat) :=
  #[(0, 0), (1, 0), (2, 0), (3, 0), (4, 0), (5, 0), (6, 0), (7, 0), (8, 0), (9, 0),
    (10, 0), (11, 0), (12, 0), (13, 0), (14, 0), (15, 0), (16, 1), (18, 1), (20, 1), (22, 1),
    (24, 2), (28, 2), (32, 3), (40, 3), (48, 4), (64, 6), (128, 7), (256, 8), (512, 9), (1024, 10),
    (2048, 11), (4096, 12), (8192, 13), (16384, 14), (32768, 15), (65536, 16)]

/-- The lengths of copies that the codes start from, with their extra bits. -/
def lengthCodes : Array (Nat × Nat) :=
  (Array.range 32).map (fun n => (n + 3, 0)) ++
  #[(35, 1), (37, 1), (39, 1), (41, 1), (43, 2), (47, 2), (51, 3), (59, 3), (67, 4),
    (83, 4), (99, 5), (131, 7), (259, 8), (515, 9), (1027, 10), (2051, 11), (4099, 12), (8195, 13),
    (16387, 14), (32771, 15), (65539, 16)]

/-- Shares written as numbers, a negative one being less than one. -/
def shares (ns : List Int) : List FseShare :=
  ns.map fun n => if n < 0 then .belowOne else .states n.toNat

/-- The shares of the tables that need no description. -/
def predefinedShares : PerField (List FseShare) where
  literals := shares
    [4, 3, 2, 2, 2, 2, 2, 2, 2, 2, 2, 2, 2, 1, 1, 1, 2, 2, 2, 2, 2, 2, 2, 2, 2, 3, 2, 1, 1, 1, 1, 1,
      -1, -1, -1, -1]
  offset := shares
    [1, 1, 1, 1, 1, 1, 2, 2, 2, 1, 1, 1, 1, 1, 1, 1, 1, 1, 1, 1, 1, 1, 1, 1, -1, -1, -1, -1, -1]
  length := shares
    [1, 4, 3, 2, 2, 2, 2, 2, 2, 1, 1, 1, 1, 1, 1, 1, 1, 1, 1, 1, 1, 1, 1, 1, 1, 1, 1, 1, 1, 1, 1, 1,
      1, 1, 1, 1, 1, 1, 1, 1, 1, 1, 1, 1, 1, 1, -1, -1, -1, -1, -1, -1, -1]

/-- The tables that need no description. -/
def predefined : PerField FseTable where
  literals := Fse.table 6 predefinedShares.literals
  offset := Fse.table 5 predefinedShares.offset
  length := Fse.table 6 predefinedShares.length

/-! ### Tables of a block -/

/-- How many sequences there are, and what follows that number. -/
def count? : List UInt8 → Option (Nat × List UInt8)
  | [] => none
  | b :: rest =>
    let n := b.toNat
    if n < 128 then some (n, rest)
    else if n < 255 then do
      let (low, rest) ← Slice.split? 1 rest
      some ((n - 128) * 256 + LittleEndian.decode low, rest)
    else do
      let (more, rest) ← Slice.split? 2 rest
      some (LittleEndian.decode more + 0x7F00, rest)

/-- One of the tables of a block, and what follows its description: it is predefined, constant,
described, or the last one that was used. It has at most `symbols` symbols and an accuracy of at
most `limit`. -/
def table? (mode symbols limit : Nat) (predefined : FseTable) (known : Option FseTable)
    (bytes : List UInt8) : Option (FseTable × List UInt8) := do
  match mode with
  | 0 => some (predefined, bytes)
  | 1 =>
    let (symbol, rest) ← Slice.split? 1 bytes
    let symbol := LittleEndian.decode symbol
    if symbols ≤ symbol then none else some (Fse.constant symbol, rest)
  | 2 =>
    Bits.readWhole? (Fse.readTable symbols limit) bytes
  | _ => known.map (·, bytes)

/-- The tables of a block, and the stream behind them. -/
def tables? (known : Option (PerField FseTable)) (bytes : List UInt8) :
    Option (PerField FseTable × List UInt8) := do
  let (modes, rest) ← Slice.split? 1 bytes
  let modes := LittleEndian.decode modes
  if modes % 4 ≠ 0 then none
  let (literals, rest) ← table? (modes / 64) 36 9 predefined.literals (known.map (·.literals)) rest
  let (offset, rest) ← table? (modes / 16 % 4) 32 8 predefined.offset (known.map (·.offset)) rest
  let (length, rest) ← table? (modes / 4 % 4) 53 9 predefined.length (known.map (·.length)) rest
  some (⟨literals, offset, length⟩, rest)

/-! ### Offsets -/

/-- The three last offsets of a frame, the latest first. -/
structure Recent where
  first : Nat
  second : Nat
  third : Nat
deriving DecidableEq, Repr

/-- The offsets at the start of a frame. -/
def Recent.start : Recent := ⟨1, 4, 8⟩

/-- The offset that a number stands for, and the last offsets after it. The numbers 1 to 3 name one
of the last offsets, and when no literals come before the copy, the one after that; the last of
these is then the latest but one byte. -/
def Recent.resolve? (r : Recent) (value : Nat) (literals : Nat) : Option (Nat × Recent) :=
  if 3 < value then some (value - 3, ⟨value - 3, r.first, r.second⟩)
  else
    match value - 1 + (if literals = 0 then 1 else 0) with
    | 0 => some (r.first, r)
    | 1 => some (r.second, ⟨r.second, r.first, r.third⟩)
    | 2 => some (r.third, ⟨r.third, r.first, r.second⟩)
    | _ => if r.first = 1 then none else some (r.first - 1, ⟨r.first - 1, r.first, r.second⟩)

/-! ### Carrying sequences out -/

/-- Literals that are held where the output will come to be: where the next one is, and how many
there are. Those that the output has overwritten are lost, and the output is read instead. -/
structure Held where
  place : Nat
  count : Nat
deriving DecidableEq, Repr

/-- The output so far, the literals that are left, those of them that are held in the way of the
output, and the last offsets. -/
structure Progress where
  out : Array UInt8
  literals : List UInt8
  held : Held
  recent : Recent
deriving Repr

/-- Puts out held literals one by one, of which the first is at a place. -/
def putHeld (out : Array UInt8) : (place : Nat) → List UInt8 → Array UInt8
  | _, [] => out
  | place, l :: ls => putHeld (out.push (out[place]?.getD l)) (place + 1) ls

/-- Puts out literals. Held ones must not be overwritten while they are read, unless they are the
last ones held. -/
def putLiterals? (n : Nat) (p : Progress) : Option Progress := do
  let ⟨place, count⟩ := p.held
  if n ≤ count ∧ place < p.out.size ∧ p.out.size < place + n then none
  let (taken, literals) ← Slice.split? n p.literals
  let out := putHeld p.out place (taken.take count) ++ taken.drop count
  some { p with out, literals, held := ⟨place + n, count - n⟩ }

/-- Puts out the literals that are left. -/
def putRest (p : Progress) : Progress :=
  let ⟨place, count⟩ := p.held
  let held := (p.literals.take count).zipIdx.map fun (l, i) => p.out[place + i]?.getD l
  { p with out := p.out ++ held ++ p.literals.drop count, literals := [], held := ⟨0, 0⟩ }

/-- Takes `literals` literals and copies `length` bytes from `value`'s offset. The output grows to
`limit` bytes at most, and a copy reaches back to `start` at most. -/
def perform? (start limit : Nat) (literals value length : Nat) (p : Progress) :
    Option Progress := do
  if limit < p.out.size + literals + length then none
  let p ← putLiterals? literals p
  let (offset, recent) ← p.recent.resolve? value literals
  if p.out.size < start + offset then none
  some { p with out := ← History.copy? p.out offset length, recent }

/-- Reads the numbers of one sequence from its states: literals, offset value and length. -/
def read (t : PerField FseTable) (states : PerField Nat) : BackwardReader (Nat × Nat × Nat) := do
  let offsetCode := t.offset.symbol states.offset
  let (lengthBase, lengthBits) := lengthCodes[t.length.symbol states.length]?.getD (0, 0)
  let (literalsBase, literalsBits) := literalsCodes[t.literals.symbol states.literals]?.getD (0, 0)
  let offset ← BackwardBits.number offsetCode
  let length ← BackwardBits.number lengthBits
  let literals ← BackwardBits.number literalsBits
  pure (literalsBase + literals, 1 <<< offsetCode + offset, lengthBase + length)

/-- The states after these. -/
def advance (t : PerField FseTable) (states : PerField Nat) : BackwardReader (PerField Nat) := do
  let literals ← t.literals.next states.literals
  let length ← t.length.next states.length
  let offset ← t.offset.next states.offset
  pure ⟨literals, offset, length⟩

/-- Carries out `n` sequences, of which the first is at these states. The stream must then be at its
start. -/
def run? (t : PerField FseTable) (start limit : Nat) :
    Nat → PerField Nat → BackwardBits → Progress → Option Progress
  | 0, _, _, _ => none
  | n + 1, states, bits, p => do
    let ((literals, value, length), bits) := (read t states).run bits
    let p ← perform? start limit literals value length p
    if n = 0 then (if bits.finished then some p else none)
    else
      let (states, bits) := (advance t states).run bits
      run? t start limit n states bits p

/-- Carries out the sequences of a block, and puts out the literals that they leave. The tables are
kept for the next block. -/
def decode? (known : Option (PerField FseTable)) (start limit : Nat) (p : Progress)
    (bytes : List UInt8) : Option (Progress × Option (PerField FseTable)) := do
  let (n, rest) ← count? bytes
  let (p, tables) ←
    if n = 0 then (if rest.isEmpty then some (p, known) else none)
    else do
      let (t, rest) ← tables? known rest
      let bits ← BackwardBits.ofBytes? rest
      let (literals, bits) := t.literals.start.run bits
      let (offset, bits) := t.offset.start.run bits
      let (length, bits) := t.length.start.run bits
      some (← run? t start limit n ⟨literals, offset, length⟩ bits p, some t)
  let p := putRest p
  if limit < p.out.size then none else some (p, tables)

end Sequences

end DocGateway.Zstd
