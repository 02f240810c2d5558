import DocGateway.Bytes.LittleEndian
import DocGateway.Compression.Zstd.FseEncode
import DocGateway.Compression.Zstd.Huffman
import DocGateway.Number.Sum
/-!
# Writing Huffman codes
-/

namespace DocGateway.Zstd.Huffman

/-! ### Word lengths -/

/-- A tree: how often its symbols occur, and each of them with its depth. -/
structure Tree where
  weight : Nat
  leaves : List (Nat × Nat)

namespace Tree

/-- The tree of two trees. -/
def join (a b : Tree) : Tree :=
  ⟨a.weight + b.weight, (a.leaves ++ b.leaves).map fun l => (l.1, l.2 + 1)⟩

/-- Takes the lighter of the first symbol and the first tree; of two that weigh the same, the
tree. -/
def takeLighter : List Tree → List Tree → Option (Tree × List Tree × List Tree)
  | [], [] => none
  | s :: symbols, [] => some (s, symbols, [])
  | [], t :: trees => some (t, [], trees)
  | s :: symbols, t :: trees =>
    if s.weight < t.weight then some (s, symbols, t :: trees) else some (t, s :: symbols, trees)

/-- Joins the lightest two until one tree is left. Symbols and trees are both given in ascending
order. -/
def joinAll : Nat → List Tree → List Tree → Option Tree
  | 0, _, _ => none
  | fuel + 1, symbols, trees => do
    let (a, symbols, trees) ← takeLighter symbols trees
    match takeLighter symbols trees with
    | none => some a
    | some (b, symbols, trees) => joinAll fuel symbols (trees ++ [a.join b])

end Tree

/-- Symbols from the most frequent on, with the lengths of their words. -/
structure Ranked where
  counts : Array Nat
  lengths : Array Nat

namespace Ranked

/-- How often the symbol at a rank occurs. -/
def count (r : Ranked) (i : Nat) : Nat := r.counts[i]?.getD 0

/-- The length of the word at a rank. -/
def length (r : Ranked) (i : Nat) : Nat := r.lengths[i]?.getD 0

/-- Makes a word longer or shorter. -/
def adjust (r : Ranked) (i : Nat) (change : Nat → Nat) : Ranked :=
  ⟨r.counts, r.lengths.modify i change⟩

/-- For each number of bits that words are shorter than `limit`, the last rank with such a word. -/
def lastRanks (r : Ranked) (limit : Nat) : Array (Option Nat) :=
  ((List.range (maxWidth + 2)).map fun d =>
    if d = 0 then none
    else (List.range r.lengths.size).reverse.find? fun i => r.length i + d = limit).toArray

/-- The number of bits that a word should be shorter than the limit to be made longer at a cost of
`excess`: a longer word is taken instead of one of the next length if that saves more than two of
these. -/
def choose (r : Ranked) (last : Array (Option Nat)) : Nat → Nat
  | 0 => 1
  | 1 => 1
  | d + 2 =>
    match last[d + 2]?.join with
    | none => choose r last (d + 1)
    | some high =>
      match last[d + 1]?.join with
      | none => d + 2
      | some low => if r.count high ≤ 2 * r.count low then d + 2 else choose r last (d + 1)

/-- The least number of bits from `d` on by which a word is shorter than the limit. -/
def available (last : Array (Option Nat)) : Nat → Nat → Nat
  | 0, d => d
  | fuel + 1, d => if (last[d]?.join).isNone then available last fuel (d + 1) else d

/-- Makes words longer until the code space suffices; it lacks `excess` words of `limit` bits.
Returns what is left over as a negative number. -/
def lengthen (limit : Nat) :
    Nat → Int → Ranked → Array (Option Nat) → Int × Ranked × Array (Option Nat)
  | 0, excess, r, last => (excess, r, last)
  | fuel + 1, excess, r, last =>
    if excess ≤ 0 then (excess, r, last)
    else
      let d := available last maxWidth (r.choose last (excess.toNat.log2 + 1))
      match last[d]?.join with
      | none => (excess, r, last)
      | some i =>
        -- of the words of that length the one used least becomes longer
        let r := r.adjust i (· + 1)
        let last := if (last[d - 1]?.join).isNone then last.setIfInBounds (d - 1) (some i) else last
        let last :=
          last.setIfInBounds d (if i ≠ 0 ∧ r.length (i - 1) + d = limit then some (i - 1) else none)
        lengthen limit fuel (excess - (1 <<< (d - 1) : Nat)) r last

/-- Makes words of `limit` bits one bit shorter, from the most frequent on, as long as there is
space for that. -/
def shorten (limit : Nat) : Nat → Ranked → (next : Nat) → Ranked
  | 0, r, _ => r
  | n + 1, r, next => shorten limit n (r.adjust next (· - 1)) (next + 1)

/-- Cuts words to `limit` bits. -/
def cut (r : Ranked) (limit : Nat) : Ranked :=
  let longest := r.lengths.foldl max 0
  if longest ≤ limit then r
  else
    let total := sum (r.lengths.toList.map fun l => 1 <<< (longest - min l limit))
    -- how many words of `limit` bits the words that are cut take too many
    let excess := ((total : Int) - (1 <<< longest : Nat)) / (1 <<< (longest - limit) : Nat)
    let capped : Ranked := ⟨r.counts, r.lengths.map (min · limit)⟩
    let (left, r, last) := lengthen limit (1 <<< limit) excess capped (capped.lastRanks limit)
    let next := match last[1]?.join with
      | some i => i + 1
      | none => r.lengths.toList.countP (· < limit)
    shorten limit left.natAbs r next

end Ranked

/-- The word lengths of symbols that occur so often, zero for one that does not occur. At least two
do. -/
def lengthsFor (limit : Nat) (counts : List Nat) : List Nat :=
  -- the most frequent symbols come first
  let used := (counts.zipIdx.filter (·.1 ≠ 0)).mergeSort fun a b => b.1 ≤ a.1
  match Tree.joinAll used.length (used.reverse.map fun p => ⟨p.1, [(p.2, 0)]⟩) [] with
  | none => counts.map fun _ => 0
  | some tree =>
    let depths := tree.leaves.foldl (fun (a : Array Nat) (l : Nat × Nat) => a.setIfInBounds l.1 l.2)
      (Array.replicate counts.length 0)
    let ranked : Ranked :=
      ⟨(used.map Prod.fst).toArray, (used.map fun p => depths[p.2]?.getD 0).toArray⟩
    let ranked := ranked.cut limit
    let lengths := (used.zip ranked.lengths.toList).foldl
      (fun (a : Array Nat) (p : (Nat × Nat) × Nat) => a.setIfInBounds p.1.2 p.2)
      (Array.replicate counts.length 0)
    lengths.toList

/-! ### Descriptions -/

/-- Weights for word lengths. -/
def weightsOf (lengths : List Nat) : List Nat :=
  let width := lengths.foldl max 0
  lengths.map fun l => if l = 0 then 0 else width + 1 - l

/-- Writes weights with two states in turn; the first weight has the first state. -/
def putWeights (t : FseTable) (weights : List Nat) : List UInt8 :=
  let step (acc : (Option Nat × Option Nat) × BitWriter) (p : Nat × Nat) :
      (Option Nat × Option Nat) × BitWriter :=
    let ((first, second), w) := acc
    let current := if p.2 % 2 = 0 then first else second
    let (i, w) := match current with
      | none => (t.firstOf p.1, w)
      | some next => t.put p.1 next w
    (if p.2 % 2 = 0 then (some i, second) else (first, some i), w)
  -- the stream is read backwards, so the last weight is written first
  let ((first, second), w) := weights.zipIdx.reverse.foldl step ((none, none), .empty)
  (t.putState (first.getD 0) (t.putState (second.getD 0) w)).closeBackward.bytes.toList

/-- Weights in a table of states, unless that cannot be or is of no use. -/
def compressWeights (weights : List Nat) : Option (List UInt8) := do
  let n := weights.length
  let highest := weights.foldl max 0
  let counts := (List.range (highest + 1)).map fun w => weights.count w
  let most := counts.foldl max 0
  if n ≤ 2 ∨ most = n ∨ most = 1 then none
  let accuracy := Fse.accuracyFor 6 n highest 2
  let shares ← Fse.sharesFor accuracy false counts
  some (Fse.description accuracy shares ++ putWeights (Fse.table accuracy shares) weights)

/-- The description of the code with these word lengths, of which the last is not zero, unless there
are too many. -/
def description (lengths : List Nat) : Option (List UInt8) :=
  let weights := (weightsOf lengths).dropLast
  let n := weights.length
  let plain : Option (List UInt8) :=
    if 128 < n then none
    else
      let pairs := (List.range ((n + 1) / 2)).map fun i =>
        UInt8.ofNat (16 * weights[2 * i]?.getD 0 + weights[2 * i + 1]?.getD 0)
      some (UInt8.ofNat (127 + n) :: pairs)
  match compressWeights weights with
  | none => plain
  | some bytes =>
    -- two weights fit into a byte without any table
    if 1 < bytes.length ∧ bytes.length < n / 2 then some (UInt8.ofNat bytes.length :: bytes)
    else plain

/-! ### Streams -/

/-- The words of the code with these lengths: the number of each symbol's word, and its length. -/
def wordsOf (lengths : List Nat) : Array (Nat × Nat) :=
  let width := lengths.foldl max 0
  let weights := weightsOf lengths
  let before (p : Nat × Nat) : Nat :=
    sum ((weights.zipIdx.filter fun q => q.1 < p.1 ∨ q.1 = p.1 ∧ q.2 < p.2).map (share ·.1))
  (weights.zipIdx.map fun p =>
    if p.1 = 0 then (0, 0) else (before p >>> (p.1 - 1), width + 1 - p.1)).toArray

/-- Symbols in a stream. -/
def stream (words : Array (Nat × Nat)) (symbols : List UInt8) : List UInt8 :=
  let put (w : BitWriter) (b : UInt8) : BitWriter :=
    let (number, length) := words[b.toNat]?.getD (0, 0)
    w.number number length
  (symbols.reverse.foldl put .empty).closeBackward.bytes.toList

/-- Symbols in four streams, behind the lengths of the first three. -/
def fourStreams (words : Array (Nat × Nat)) (symbols : List UInt8) : List UInt8 :=
  let quarter := (symbols.length + 3) / 4
  let part (i : Nat) : List UInt8 := stream words ((symbols.drop (i * quarter)).take quarter)
  let size (i : Nat) : List UInt8 := LittleEndian.encode 2 (part i).length
  size 0 ++ size 1 ++ size 2 ++ part 0 ++ part 1 ++ part 2 ++ part 3

end DocGateway.Zstd.Huffman
