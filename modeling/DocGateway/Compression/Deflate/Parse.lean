import DocGateway.Compression.Deflate.Window
/-!
# Splitting an input into tokens

A token is a byte or a copy. A copy is put off while the one that starts a byte later is longer.
Tokens are gathered in blocks; a block ends when it has many tokens, or many bytes for which copies
have gained little.
-/

namespace DocGateway.Deflate

/-- A byte, or a copy of earlier bytes. -/
inductive Token where
  | byte (b : UInt8)
  | copy (c : Copy)
deriving DecidableEq, Repr

namespace Token

/-- The number of bytes that a token stands for. -/
def size : Token → Nat
  | byte _ => 1
  | copy c => c.length

/-- The room that a token takes while it waits for its block to end. -/
def room : Token → Nat
  | byte _ => 1
  | copy _ => 3

end Token

/-- Tokens that are written together: their place in the input, their number of bytes, and whether
the window still held all of these when the block ended. -/
structure Block where
  tokens : List Token
  start : Nat
  size : Nat
  inWindow : Bool

/-- A block being gathered, its last token first. -/
structure Gathering where
  tokens : List Token
  count : Nat
  room : Nat
  size : Nat
  start : Nat

namespace Gathering

/-- A block without tokens. -/
def empty (start : Nat) : Gathering := ⟨[], 0, 0, 0, start⟩

/-- Takes in a token. -/
def push (g : Gathering) (t : Token) : Gathering :=
  ⟨t :: g.tokens, g.count + 1, g.room + t.room, g.size + t.size, g.start⟩

/-- The room taken: a byte of flags goes with eight tokens. -/
def taken (g : Gathering) : Nat := 1 + g.room + g.count / 8

/-- Whether the block should end: its room is nearly used up, or it has many bytes and takes up
about as much. -/
def full (g : Gathering) : Bool :=
  65528 < g.taken ∨ 31 * 1024 < g.size ∧ g.size ≤ g.taken * 115 / 128

/-- The block, when `done` bytes of the input are dealt with and `known` of them are in the
window. -/
def block (g : Gathering) (done known : Nat) : Block :=
  ⟨g.tokens.reverse, g.start, g.size, done - g.start ≤ known⟩

end Gathering

/-- What is known before a byte is dealt with: its place, and the copy put off at the byte
before. -/
structure Parser where
  window : Window
  pos : Nat
  pending : Option Copy
  gathering : Gathering

namespace Parser

/-- The tokens to be put out at a place, how far to move on, and the copy to be put off, given the
copy found there. A copy of at least 128 bytes is not put off. -/
def decide (previous here : UInt8) (pending : Option Copy) (found : Copy) :
    List Token × Nat × Option Copy :=
  match pending with
  | some p =>
    if p.length < found.length then
      if 128 ≤ found.length then ([.byte previous, .copy found], found.length, none)
      else ([.byte previous], 1, some found)
    else ([.copy p], p.length - 1, none)
  | none =>
    if found.distance = 0 then ([.byte here], 1, none)
    else if 128 ≤ found.length then ([.copy found], found.length, none)
    else ([], 1, some found)

/-- The copy to be used at a place: not a short one from far back, nor one from a place where the
window wraps. -/
def useful (pos : Nat) (found : Copy) : Copy :=
  if found.length = 3 ∧ 8192 ≤ found.distance ∨ pos % windowSize = found.distance then
    ⟨0, 0⟩ else found

/-- Deals with the byte at `pos` of an input of `n` bytes. Gives a block if one is full now. -/
def step (n : Nat) : Parser → Parser × Option Block
  | ⟨window, pos, pending, gathering⟩ =>
    let ahead := min maxLength (n - pos)
    let window := window.chainTo (pos + ahead)
    let found := useful pos (window.find pos ahead ((pending.map Copy.length).getD 2))
    let (tokens, move, pending) := decide (window.byte (pos - 1)) (window.byte pos) pending found
    let gathering := tokens.foldl Gathering.push gathering
    let known := min windowSize (min pos (windowSize - ahead) + move)
    let pos := pos + move
    if gathering.full then
      (⟨window, pos, pending, .empty (gathering.start + gathering.size)⟩,
        some (gathering.block pos known))
    else (⟨window, pos, pending, gathering⟩, none)

/-- Deals with all bytes from here on. The last block comes in any case. -/
def run (n : Nat) : Nat → Parser → List Block → List Block
  | 0, p, blocks => (p.gathering.block p.pos windowSize :: blocks).reverse
  | fuel + 1, p, blocks =>
    if n ≤ p.pos then (p.gathering.block p.pos (min windowSize p.pos) :: blocks).reverse
    else
      match p.step n with
      | (p, some b) => run n fuel p (b :: blocks)
      | (p, none) => run n fuel p blocks

end Parser

/-- The blocks of an input. -/
def blocks (plain : List UInt8) : List Block :=
  let source := plain.toArray
  Parser.run source.size (source.size + 1) ⟨.ofSource source, 0, none, .empty 0⟩ []

end DocGateway.Deflate
