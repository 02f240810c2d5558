import DocGateway.Compression.Zstd.Early.Extras
import DocGateway.Compression.Zstd.Early.Literals
import DocGateway.Compression.Zstd.Sequences
/-!
# Sequences of early editions

In the two last of these editions a sequence has the codes of today. Before that the number of
literals and the length are codes themselves, with extensions, and an offset is the last one or new.
The stream is read through a window; from the fifth edition on it does not matter where the stream
ends, if only all sequences begin within it.
-/

namespace DocGateway.Zstd.Early

namespace Sequences

open Zstd.Sequences (Progress Recent lengthCodes literalsCodes putLiterals? putRest)

/-! ### Tables -/

/-- How a table is given. -/
inductive TableForm where
  | plain | constant | described | kept
deriving DecidableEq, Repr

/-- The form of a table, by two bits. -/
def tableForm (e : Edition) (mode : Nat) : TableForm :=
  match (if e.number ≤ 4 then mode + 3 else mode) % 4 with
  | 0 => .plain
  | 1 => .constant
  | 2 => if e.number ≤ 4 then .described else .kept
  | _ => .described

/-- The table of all numbers of so many bits, in which any number may follow any other. -/
def uniform (bits : Nat) : FseTable :=
  ⟨bits, (Array.range (1 <<< bits)).map fun symbol => ⟨symbol, 0, bits⟩⟩

/-- The tables that need no description. -/
def plain (e : Edition) : PerField FseTable :=
  if e.number ≤ 5 then ⟨uniform 6, uniform 5, uniform 7⟩ else Zstd.Sequences.predefined

/-- The symbols that tables may have. -/
def symbols (e : Edition) : PerField Nat := if e.number ≤ 5 then ⟨64, 32, 128⟩ else ⟨36, 29, 53⟩

/-- The largest accuracies of tables. -/
def limits (e : Edition) : PerField Nat := if e.number ≤ 5 then ⟨10, 9, 10⟩ else ⟨9, 8, 9⟩

/-- The tables of one symbol. Up to the fifth edition numbers of literals and lengths may be larger
than other tables allow, and of an offset five bits count. -/
def constant? (e : Edition) (field : PerField Nat → Nat) (symbol : Nat) : Option FseTable :=
  if e.number ≤ 5 then some (Fse.constant (symbol % field ⟨256, 32, 256⟩))
  else if symbol < field (symbols e) then some (Fse.constant symbol)
  else none

/-- One of the tables of a block, and what follows its description. -/
def table? (e : Edition) (mode : Nat) (field : {α : Type} → PerField α → α)
    (known : Option (PerField FseTable))
    (bytes : List UInt8) : Option (FseTable × List UInt8) := do
  match tableForm e mode with
  | .plain => some (field (plain e), bytes)
  | .constant =>
    let (symbol, rest) ← Slice.split? 1 bytes
    some (← constant? e field (LittleEndian.decode symbol), rest)
  | .described => readTable? (field (symbols e)) (field (limits e)) bytes
  | .kept => known.map fun t => (field t, bytes)

/-- The tables of a block, by the byte that says how they are given, and the stream behind them. -/
def tables? (e : Edition) (modes : Nat) (known : Option (PerField FseTable)) (bytes : List UInt8) :
    Option (PerField FseTable × List UInt8) := do
  let (literals, rest) ← table? e (modes / 64) PerField.literals known bytes
  let (offset, rest) ← table? e (modes / 16 % 4) PerField.offset known rest
  let (length, rest) ← table? e (modes / 4 % 4) PerField.length known rest
  some (⟨literals, offset, length⟩, rest)

/-! ### Heads -/

/-- How many sequences there are, and what follows that number. -/
def count? (e : Edition) (bytes : List UInt8) : Option (Nat × List UInt8) := do
  if e.number ≤ 4 then
    if bytes.length < 5 then none
    let (count, rest) ← Slice.split? 2 bytes
    some (LittleEndian.decode count, rest)
  else if e = .fifth then
    let (head, rest) ← Slice.split? 1 bytes
    let head := LittleEndian.decode head
    if head < 128 then some (head, rest)
    else
      let (low, rest) ← Slice.split? 1 rest
      some ((head - 128) * 256 + LittleEndian.decode low, rest)
  else Zstd.Sequences.count? bytes

/-- Up to the fifth edition, what stands before the tables: the byte that says how they are given,
and extensions, the number of which takes nine bits or sixteen. Three bytes must follow. -/
def extras? (bytes : List UInt8) : Option (Nat × Extras × List UInt8) := do
  let (head, _) ← Slice.split? 2 bytes
  let head := bigEndian head
  let (count, place) ←
    if head / 512 % 2 = 1 then do
      let (count, _) ← Slice.split? 2 (bytes.drop 1)
      some (bigEndian count, 3)
    else some (head % 512, 2)
  let rest := bytes.drop (place + count)
  if rest.length < 3 then none
  some (head / 256, ⟨bytes.toArray, place, place + count⟩, rest)

/-- How the tables are given, the extensions, if any, and what follows. -/
def modes? (e : Edition) (bytes : List UInt8) : Option (Nat × Extras × List UInt8) :=
  if e.number ≤ 5 then extras? bytes
  else if bytes.length < 4 then none
  else do
    let (modes, rest) ← Slice.split? 1 bytes
    some (LittleEndian.decode modes, default, rest)

/-! ### Reading sequences -/

/-- What reading sequences needs: the stream, extensions, the states, and the last offsets. Up to
the fifth edition the second of these is the one that stands for the last when no literals are
taken. -/
structure Reading where
  window : Window
  extras : Extras
  states : PerField Nat
  recent : Recent

/-- A reader of sequences. It never fails. -/
abbrev SequenceReader (α : Type) := StateM Reading α

/-- The numbers of a sequence: literals to take, and how far back and how much to copy. -/
structure Numbers where
  literals : Nat
  offset : Nat
  length : Nat
deriving DecidableEq, Repr

/-- Reads a number of `n` bits. -/
def number (n : Nat) : SequenceReader Nat :=
  fun r => (r.window.peek n, { r with window := r.window.skip n })

/-- Extends a number if it is the `largest`. -/
def extend (e : Edition) (forced : Bool) (largest n : Nat) : SequenceReader Nat := fun r =>
  let (n, extras) := (Extras.extend e forced largest n).run r.extras
  (n, { r with extras })

/-- Moves on the state of the numbers of literals. -/
def advanceLiterals (t : PerField FseTable) : SequenceReader Unit := do
  let s := t.literals.get (← get).states.literals
  let low ← number s.width
  modify fun r => { r with states := { r.states with literals := s.base + low } }

/-- Moves on the state of the offsets. -/
def advanceOffset (t : PerField FseTable) : SequenceReader Unit := do
  let s := t.offset.get (← get).states.offset
  let low ← number s.width
  modify fun r => { r with states := { r.states with offset := s.base + low } }

/-- Moves on the state of the lengths. -/
def advanceLength (t : PerField FseTable) : SequenceReader Unit := do
  let s := t.length.get (← get).states.length
  let low ← number s.width
  modify fun r => { r with states := { r.states with length := s.base + low } }

/-- Reads the states that the first sequence has. -/
def begin (t : PerField FseTable) : SequenceReader Unit := do
  let literals ← number t.literals.accuracy
  let offset ← number t.offset.accuracy
  let length ← number t.length.accuracy
  modify fun r => { r with states := ⟨literals, offset, length⟩ }

/-- The smallest offset of a code. From the second edition on the codes for very large ones are not
in use. -/
def offsetBase (e : Edition) (code : Nat) : Nat :=
  if e ≠ .first ∧ 26 < code then 1 else 1 <<< (code - 1)

/-- Reads a sequence whose codes are numbers, up to the fifth edition. Code zero is for the last
offset. -/
def readPlain (e : Edition) (t : PerField FseTable) : SequenceReader Numbers := do
  let ⟨_, _, states, recent⟩ ← get
  let code := t.offset.symbol states.offset
  let symbol := t.literals.symbol states.literals
  if e ≠ .fifth then
    advanceLiterals t
    advanceOffset t
  let literals ← extend e true 63 symbol
  let low ← number (code - 1)
  if e = .fifth then
    advanceOffset t
    advanceLiterals t
  let offset :=
    if code ≠ 0 then offsetBase e code + low else if symbol ≠ 0 then recent.first else recent.second
  advanceLength t
  let length ← extend e false 127 (t.length.symbol states.length)
  let second := if e.number ≤ 3 ∨ code ≠ 0 ∨ literals = 0 then recent.first else recent.second
  modify fun r => { r with recent := { recent with first := offset, second } }
  return ⟨literals, offset, length + 4⟩

/-- The offset that a number stands for, and the last offsets after it. The numbers 1 to 3 name one
of the last offsets; when no literals come before the copy, the first two change places. -/
def resolve (r : Recent) (value : Nat) (literals : Nat) : Nat × Recent :=
  if 3 < value then (value - 3, ⟨value - 3, r.first, r.second⟩)
  else
    match (if literals = 0 ∧ value ≤ 2 then 2 - value else value - 1) with
    | 0 => (r.first, r)
    | 1 => (r.second, ⟨r.second, r.first, r.third⟩)
    | _ => (r.third, ⟨r.third, r.first, r.second⟩)

/-- Slides the window if so many bits were taken that the next states might not be in it. -/
def slideAfter (bits : Nat) : SequenceReader Unit :=
  modify fun r => if 31 < bits then { r with window := r.window.slide.1 } else r

/-- Reads a sequence whose codes are those of today. -/
def readCoded (t : PerField FseTable) : SequenceReader Numbers := do
  let ⟨_, _, states, recent⟩ ← get
  let offsetCode := t.offset.symbol states.offset
  let (lengthBase, lengthBits) := lengthCodes[t.length.symbol states.length]?.getD (0, 0)
  let (literalsBase, literalsBits) := literalsCodes[t.literals.symbol states.literals]?.getD (0, 0)
  let value := 1 <<< offsetCode + (← number offsetCode)
  let length := lengthBase + (← number lengthBits)
  let literals := literalsBase + (← number literalsBits)
  slideAfter (offsetCode + lengthBits + literalsBits)
  advanceLiterals t
  advanceLength t
  advanceOffset t
  let (offset, recent) := resolve recent value literals
  modify fun r => { r with recent }
  return ⟨literals, offset, length⟩

/-! ### Carrying sequences out -/

/-- Takes literals and copies. The output grows to `limit` bytes at most and has eight bytes left
after the literals, and a copy reaches back to `start` at most. -/
def perform? (start limit : Nat) (s : Numbers) (p : Progress) : Option Progress := do
  if limit < p.out.size + s.literals + max s.length 8 then none
  let p ← putLiterals? s.literals p
  if p.out.size < start + s.offset then none
  some { p with out := ← History.copy? p.out s.offset s.length }

/-- Whether a copy keeps clear of literals that stand at the end of the room. -/
def isClear (limit : Nat) (s : Numbers) (p : Progress) : Bool :=
  p.out.size + s.length + p.literals.length ≤ limit

/-- Carries out `n` sequences. Where `crowded` holds, the literals stand at the end of the room. -/
def run? (e : Edition) (t : PerField FseTable) (start limit : Nat) (crowded : Bool) :
    Nat → Reading → Progress → Option Progress
  | 0, r, p =>
    if 5 ≤ e.number ∨ r.window.slide.1.isSpent then some { p with recent := r.recent } else none
  | n + 1, r, p => do
    let (window, supply) := r.window.slide
    if supply = .overdrawn then none
    let (s, r) := (if e.number ≤ 5 then readPlain e t else readCoded t).run { r with window }
    if crowded ∧ ¬ isClear limit s p then none
    run? e t start limit crowded n r (← perform? start limit s p)

/-- The last offsets at the start of a block. In the last edition those of the block before are
kept. -/
def recentAtStart (e : Edition) (known : Recent) : Recent :=
  match e with
  | .first | .second => ⟨0, 1, 0⟩
  | .third | .fourth => ⟨4, 4, 0⟩
  | .fifth | .sixth => ⟨1, 1, 1⟩
  | .seventh => known

/-- Carries out the sequences of a block, and puts out the literals that they leave. -/
def decode? (e : Edition) (known : Option (PerField FseTable)) (start limit : Nat) (crowded : Bool)
    (p : Progress) (bytes : List UInt8) :
    Option (Progress × Option (PerField FseTable)) := do
  let (n, rest) ← count? e bytes
  let (p, tables) ←
    if n = 0 ∧ 5 ≤ e.number then some (p, known)
    else do
      let (modes, extras, rest) ← modes? e rest
      let (t, rest) ← tables? e modes known rest
      let window ← Window.ofBytes? rest
      let r := ((begin t).run ⟨window, extras, default, recentAtStart e p.recent⟩).2
      some (← run? e t start limit crowded n r p, some t)
  let p := putRest p
  if limit < p.out.size then none else some (p, tables)

end Sequences

end DocGateway.Zstd.Early
