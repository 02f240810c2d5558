import DocGateway.Compression.Bits
import DocGateway.Compression.Zstd.BackwardBits
/-!
# Finite state entropy tables

A table of `2 ^ accuracy` states is built from the share of the states that each symbol gets. A
state names a symbol, and how its successor is found: a base, to which a number of some bits is
added.
-/

namespace DocGateway.Zstd

/-- A state: its symbol, and the base and the number of bits of its successor. -/
structure FseState where
  symbol : Nat
  base : Nat
  width : Nat
deriving DecidableEq, Repr, Inhabited

/-- A table of `2 ^ accuracy` states. -/
structure FseTable where
  accuracy : Nat
  states : Array FseState
deriving DecidableEq, Repr, Inhabited

/-- The share of a symbol: a number of states, or less than one. Such a symbol still gets one
state. -/
inductive FseShare where
  | states (n : Nat)
  | belowOne
deriving DecidableEq, Repr

namespace FseShare

/-- The number of states that a symbol gets. -/
def count : FseShare → Nat
  | states n => n
  | belowOne => 1

end FseShare

namespace Fse

/-! ### Shares -/

/-- How many symbols without a state follow: two bits at a time, as long as these are both set. -/
def zeroRun : Nat → BitReader Nat
  | 0 => Bits.corrupt
  | fuel + 1 => do
    let n ← Bits.number 2
    if n = 3 then (3 + ·) <$> zeroRun fuel else pure n

/-- Reads one number from zero to `left + 1`, with as few bits as that allows: the smaller numbers
take one bit less. -/
def shareCode (left : Nat) : BitReader Nat := do
  let width := (left + 1).log2
  let low ← Bits.number width
  let short := 1 <<< (width + 1) - (left + 2)
  if low < short then pure low
  else
    let high ← Bits.bit
    pure (if high = 0 then low else low + 1 <<< width - short)

/-- Reads the shares of the symbols from number `read.length` on, given the states that are left and
the shares before, the last first. There are at most `symbols` symbols. -/
def sharesFrom (symbols : Nat) : Nat → Nat → List FseShare → BitReader (List FseShare)
  | _, 0, read => if read.length ≤ symbols then pure read.reverse else Bits.corrupt
  | 0, _, _ => Bits.corrupt
  | fuel + 1, left, read => do
    if symbols ≤ read.length then Bits.corrupt
    else
      match ← shareCode left with
      | 0 => sharesFrom symbols fuel (left - 1) (.belowOne :: read)
      | 1 =>
        let run ← zeroRun symbols
        sharesFrom symbols fuel left (List.replicate (run + 1) (.states 0) ++ read)
      | n + 2 => sharesFrom symbols fuel (left - (n + 1)) (.states (n + 1) :: read)

/-! ### Tables -/

/-- The symbols that have a state, each as often as it has one, in the order in which the states are
given away. -/
def spread (shares : List FseShare) : List Nat :=
  shares.zipIdx.flatMap fun (share, symbol) =>
    match share with
    | .states n => List.replicate n symbol
    | .belowOne => []

/-- The symbols of the states: those with less than one sit at the end, the last of them first, and
the others take the remaining places in steps of a bit more than five eighths of the table. -/
def layout (accuracy : Nat) (shares : List FseShare) : Array Nat :=
  let size := 1 <<< accuracy
  let rare := (shares.zipIdx.filter (·.1 = .belowOne)).map Prod.snd
  let high := size - rare.length
  let step := size / 2 + size / 8 + 3
  let places := ((List.range size).map (· * step % size)).filter (· < high)
  let symbols :=
    (places.zip (spread shares)).foldl (fun (a : Array Nat) (p : Nat × Nat) =>
      a.setIfInBounds p.1 p.2)
    (Array.replicate high 0)
  symbols ++ rare.reverse.toArray

/-- The state whose rank is `rank`: the states of a symbol are ranked in their order, from the
symbol's share on. -/
def state (accuracy symbol rank : Nat) : FseState :=
  let width := accuracy - rank.log2
  ⟨symbol, rank <<< width - 1 <<< accuracy, width⟩

/-- The table with these shares. -/
def table (accuracy : Nat) (shares : List FseShare) : FseTable :=
  let counts := (shares.map FseShare.count).toArray
  let step : Array FseState × Array Nat → Nat → Array FseState × Array Nat :=
    fun (states, ranks) symbol =>
      let rank := ranks[symbol]?.getD 0
      (states.push (state accuracy symbol rank), ranks.setIfInBounds symbol (rank + 1))
  ⟨accuracy, ((layout accuracy shares).foldl step (#[], counts)).1⟩

/-- Reads a table for at most `symbols` symbols with an accuracy of at most `limit`. -/
def readTable (symbols limit : Nat) : BitReader FseTable := do
  let accuracy := (← Bits.number 4) + 5
  if limit < accuracy then Bits.corrupt
  let shares ← sharesFrom symbols (1 <<< accuracy + symbols) (1 <<< accuracy) []
  Bits.align
  pure (table accuracy shares)

/-- A table of one state, which always gives the same symbol. -/
def constant (symbol : Nat) : FseTable := ⟨0, #[⟨symbol, 0, 0⟩]⟩

end Fse

namespace FseTable

/-- The state with this number. -/
def get (t : FseTable) (i : Nat) : FseState := t.states[i]?.getD default

/-- Reads the number of the first state. -/
def start (t : FseTable) : BackwardReader Nat := BackwardBits.number t.accuracy

/-- Reads the number of the state after this one. -/
def next (t : FseTable) (i : Nat) : BackwardReader Nat :=
  let s := t.get i
  (s.base + ·) <$> BackwardBits.number s.width

/-- The symbol of a state. -/
def symbol (t : FseTable) (i : Nat) : Nat := (t.get i).symbol

end FseTable

end DocGateway.Zstd
