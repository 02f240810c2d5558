import DocGateway.Bytes.Slice
import DocGateway.Compression.Zstd.Huffman
import DocGateway.Compression.Zstd.Window
/-!
# Streams of a Huffman code

A stream of words is read through a window. Long streams of the same literals are read side by side,
in rounds of five look-ups each, as long as that is safe, and then one after the other to their
ends. Side by side they need not end where they should: a stream that is too short goes on with the
bytes before it, and what is left of one is ignored.
-/

namespace DocGateway.Zstd

namespace HuffmanCode

/-- The number of bits that are looked up at once. -/
def span (c : HuffmanCode) : Nat := max c.width 11

/-- The symbol whose word stands at the top of so many bits, and the length of the word. -/
def first (c : HuffmanCode) (bits : Nat) : UInt8 × Nat :=
  c.entries[bits >>> (c.span - c.width)]?.getD (0, 0)

/-- The symbols of one look-up, one or two, and the length of their words. A second word is looked
up if it fits in whole. -/
def lookUp (c : HuffmanCode) (bits : Nat) : List UInt8 × Nat :=
  let (symbol, length) := c.first bits
  let (second, more) := c.first ((bits <<< length) % (1 <<< c.span))
  if c.paired ∧ length + more ≤ c.span then ([symbol, second], length + more)
  else ([symbol], length)

end HuffmanCode

/-- A stream that is being read: its window, the number of symbols to come, and those read, the last
first. -/
structure Lane where
  window : Window
  left : Nat
  read : List UInt8
deriving Repr, Inhabited

namespace Lane

/-- Looks up words once. -/
def step (c : HuffmanCode) (l : Lane) : Lane :=
  let (symbols, length) := c.lookUp (l.window.peek c.span)
  ⟨l.window.skip length, l.left - symbols.length, symbols.reverse ++ l.read⟩

/-- Looks up words `n` times. -/
def steps (c : HuffmanCode) : Nat → Lane → Lane
  | 0, l => l
  | n + 1, l => steps c n (l.step c)

/-- Slides the window, and tells what is left. -/
def slide (l : Lane) : Lane × Supply :=
  let (window, supply) := l.window.slide
  ({ l with window }, supply)

/-! ### One stream to its end -/

/-- Reads the symbols to come one by one. The window slides before every four as long as there is
more before it. -/
def finishSingles (c : HuffmanCode) : Nat → Lane → Lane
  | 0, l => l
  | n + 1, l =>
    let (l, supply) := l.slide
    if supply = .plenty ∧ 3 < l.left then finishSingles c n (l.steps c 4) else l.steps c l.left

/-- How often one may look up before the window must slide. -/
def perSlide (c : HuffmanCode) : Nat := if c.span ≤ 11 then 5 else 4

/-- Looks up as often as that after each slide, as long as there are symbols to come for that and
more before the window. -/
def pairsByRow (c : HuffmanCode) : Nat → Lane → Lane
  | 0, l => l
  | n + 1, l =>
    let (l, supply) := l.slide
    if supply = .plenty ∧ 2 * perSlide c ≤ l.left then pairsByRow c n (l.steps c (perSlide c))
    else l

/-- Looks up until at most one symbol is to come. The window slides before each look-up as long as
there was more before it. -/
def pairsByOne (c : HuffmanCode) : Nat → (sliding : Bool) → Lane → Lane
  | 0, _, l => l
  | n + 1, sliding, l =>
    if l.left < 2 then if sliding then l.slide.1 else l
    else
      let (l, supply) := if sliding then l.slide else (l, .last)
      pairsByOne c n (supply = .plenty) (l.step c)

/-- Reads the last symbol. When another one was looked up with it, its bits are taken as well, as
far as there are any. -/
def lastOfPairs (c : HuffmanCode) (l : Lane) : Lane :=
  if l.left = 0 then l
  else
    let (symbols, length) := c.lookUp (l.window.peek c.span)
    let taken := l.window.taken
    let window :=
      if symbols.length = 1 then l.window.skip length
      else if taken < 64 then { l.window with taken := min 64 (taken + length) }
      else l.window
    ⟨window, 0, symbols.take 1 ++ l.read⟩

/-- Reads the symbols to come in pairs. -/
def finishPairs (c : HuffmanCode) (l : Lane) : Lane :=
  let l := pairsByRow c (l.left + 1) l
  lastOfPairs c (if l.left < 2 then l else pairsByOne c (l.left + 1) true l)

/-- Reads the symbols to come. -/
def finish (c : HuffmanCode) (l : Lane) : Lane :=
  if c.paired then finishPairs c l else finishSingles c (l.left + 1) l

/-! ### Streams side by side -/

/-- How many rounds all streams have symbols and bytes for. -/
def safeRounds (c : HuffmanCode) (lanes : List Lane) : Nat :=
  let perRound := if c.paired then 10 else 5
  let place := lanes.head?.elim 0 fun (l : Lane) => l.window.place
  lanes.foldl (fun n l => min n (l.left / perRound)) (place / 7)

/-- Whether no stream has overtaken the one before it. -/
def inOrder : List Lane → Bool
  | a :: b :: rest => a.window.place ≤ b.window.place && inOrder (b :: rest)
  | _ => true

/-- Five look-ups in one stream. -/
def round (c : HuffmanCode) (l : Lane) : Lane :=
  let l := l.steps c 5
  { l with window := l.window.slideFreely }

/-- The number of symbols that the last stream has to come. -/
def leftInLast (lanes : List Lane) : Nat := lanes.getLast?.elim 0 fun (l : Lane) => l.left

/-- Reads rounds, of all streams, until the last one has at most `goal` symbols to come. -/
def rounds (c : HuffmanCode) (goal : Nat) : Nat → List Lane → List Lane
  | 0, lanes => lanes
  | n + 1, lanes =>
    let lanes := lanes.map (round c)
    if goal < leftInLast lanes then rounds c goal n lanes else lanes

/-- Reads rounds as long as they are safe. -/
def gallop (c : HuffmanCode) : Nat → List Lane → List Lane
  | 0, lanes => lanes
  | n + 1, lanes =>
    let safe := safeRounds c lanes
    if safe = 0 ∨ ¬ inOrder lanes then lanes
    else gallop c n (rounds c (leftInLast lanes - 5 * safe) safe lanes)

end Lane

namespace HuffmanCode

/-- The `n` symbols of a stream, which must hold no more. -/
def wholeStream? (c : HuffmanCode) (n : Nat) (bytes : List UInt8) : Option (List UInt8) := do
  if c.paired then
    let lane := Lane.finishPairs c ⟨← Window.ofBytes? bytes, n, []⟩
    if lane.window.isSpent then some lane.read.reverse else none
  else c.stream? n bytes

/-- The lanes of streams that end at these places of a byte string. -/
def lanes (bytes : Array UInt8) (streams : List (Nat × Nat)) : List Lane :=
  streams.map fun (stop, n) => ⟨⟨bytes, stop - 8, Window.marked (bytes[stop - 1]?.getD 0)⟩, n, []⟩

/-- The symbols of four streams side by side: where each starts and ends in a byte string, and how
many symbols it has. None may have gone more than eight bytes past its start when they are
parted. -/
def sideBySide? (c : HuffmanCode) (bytes : List UInt8) (streams : List (Nat × Nat × Nat)) :
    Option (List UInt8) :=
  let bytes := bytes.toArray
  let start := lanes bytes (streams.map Prod.snd)
  let done := Lane.gallop c (Lane.leftInLast start + 1) start
  if (streams.zip done).all fun (s, l) => s.1 ≤ l.window.place + 8 then
    some (done.flatMap fun l => (l.finish c).read.reverse)
  else none

/-- The four streams in some bytes. The lengths of the first three stand before them. -/
def streams? (bytes : List UInt8) : Option (List (List UInt8)) := do
  let (lengths, rest) ← Slice.split? 6 bytes
  let (first, rest) ← Slice.split? (LittleEndian.decode (lengths.take 2)) rest
  let (second, rest) ← Slice.split? (LittleEndian.decode ((lengths.drop 2).take 2)) rest
  let (third, rest) ← Slice.split? (LittleEndian.decode (lengths.drop 4)) rest
  some [first, second, third, rest]

/-- How many of `n` symbols each of four streams has: all but the last have a quarter, rounded
up. -/
def shares (n : Nat) : List Nat :=
  let quarter := (n + 3) / 4
  [quarter, quarter, quarter, n - 3 * quarter]

/-- The `n` symbols of four streams, which are read one after the other. -/
def oneByOne? (c : HuffmanCode) (n : Nat) (streams : List (List UInt8)) : Option (List UInt8) :=
  List.flatten <$> (streams.zip (shares n)).mapM fun (bytes, n) => c.wholeStream? n bytes

/-- The `n` symbols of four streams. They are read side by side if all have eight bytes or more and
no word has more than eleven bits. -/
def fourStreams? (c : HuffmanCode) (n : Nat) (bytes : List UInt8) : Option (List UInt8) := do
  let streams ← streams? bytes
  if n < 6 then none
  if c.width ≤ 11 ∧ (streams.all fun (s : List UInt8) => 8 ≤ s.length) ∧ 3 * ((n + 3) / 4) < n then
    let bounds := (streams.map List.length).scanl (· + ·) 6
    c.sideBySide? bytes (bounds.zip ((bounds.drop 1).zip (shares n)))
  else c.oneByOne? n streams

end HuffmanCode

end DocGateway.Zstd
