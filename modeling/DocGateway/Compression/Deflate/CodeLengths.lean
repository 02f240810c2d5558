/-!
# Lengths of the words of an optimal prefix code

Symbols are joined to trees, the two lightest at a time. Words that would be too long are shortened
at the cost of others.
-/

namespace DocGateway.Deflate

/-- A tree: how often its symbols occur, and how deep each of them is. -/
structure Weighted where
  weight : Nat
  depths : List Nat

namespace Weighted

/-- The tree of two trees. -/
def join (a b : Weighted) : Weighted := ⟨a.weight + b.weight, (a.depths ++ b.depths).map (· + 1)⟩

/-- Takes the lighter of the first symbol and the first tree; of two that weigh the same, the
symbol. -/
def takeLighter : List Weighted → List Weighted → Option (Weighted × List Weighted × List Weighted)
  | [], [] => none
  | s :: symbols, [] => some (s, symbols, [])
  | [], t :: trees => some (t, [], trees)
  | s :: symbols, t :: trees =>
    if t.weight < s.weight then some (t, s :: symbols, trees) else some (s, symbols, t :: trees)

/-- Joins the lightest two until one tree is left. Symbols and trees are both given in ascending
order. -/
def joinAll : Nat → List Weighted → List Weighted → Option Weighted
  | 0, _, _ => none
  | fuel + 1, symbols, trees => do
    let (a, symbols, trees) ← takeLighter symbols trees
    match takeLighter symbols trees with
    | none => some a
    | some (b, symbols, trees) => joinAll fuel symbols (trees ++ [a.join b])

end Weighted

namespace CodeLengths

/-- How many words have each length from one to `limit`, when longer words get that length. -/
def census (depths : List Nat) (limit : Nat) : Array Nat :=
  ((List.range limit).map fun i => depths.countP fun d => min d limit = i + 1).toArray

/-- How much of the code space words take, in words of the greatest length. -/
def space (counts : Array Nat) : Nat :=
  counts.toList.zipIdx.foldl (fun (sum : Nat) (c : Nat × Nat) =>
    sum + c.1 <<< (counts.size - 1 - c.2)) 0

/-- Frees one word of the greatest length: a longest word of the others takes two words of a length
more with it. -/
def shorten (counts : Array Nat) : Array Nat :=
  let last := counts.size - 1
  let counts := counts.modify last (· - 1)
  match (List.range last).reverse.find? (fun i => 0 < counts[i]?.getD 0) with
  | none => counts
  | some i => (counts.modify i (· - 1)).modify (i + 1) (· + 2)

/-- Shortens until the words fit in the code space. Each time frees one place of it. -/
def fit (counts : Array Nat) : Nat → Array Nat
  | 0 => counts
  | excess + 1 => fit (shorten counts) excess

/-- Word lengths from the shortest, for the numbers of words of each. -/
def spread (counts : Array Nat) : List Nat :=
  counts.toList.zipIdx.flatMap fun (n, i) => List.replicate n (i + 1)

/-- The word lengths of symbols that occur so often, with zero for one that does not occur. No word
is longer than `limit`. -/
def ofCounts (counts : List Nat) (limit : Nat) : List Nat :=
  let used := counts.zipIdx.filter (·.1 ≠ 0)
  let ordered := used.mergeSort fun a b => a.1 ≤ b.1
  let words :=
    match ordered with
    | [] => []
    | [_] => [1]
    | _ =>
      match Weighted.joinAll ordered.length (ordered.map fun p => ⟨p.1, [0]⟩) [] with
      | none => []
      | some tree =>
        let census := census tree.depths limit
        spread (fit census (space census - 1 <<< limit))
  let lengths := (ordered.reverse.zip words).foldl
    (fun (a : Array Nat) (p : (Nat × Nat) × Nat) => a.setIfInBounds p.1.2 p.2)
    (Array.replicate counts.length 0)
  lengths.toList

end CodeLengths

end DocGateway.Deflate
