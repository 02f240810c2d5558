import DocGateway.Compression.Bits
import DocGateway.Number.Sum
/-!
# Canonical prefix codes

A code is given by the length of each symbol's code word, zero for a symbol that has none. Words of
one length are consecutive numbers in the order of their symbols, and shorter words come before
longer ones.
-/

namespace DocGateway

/-- The number of words of each length from one on, and the symbols in the order of their words. -/
structure PrefixCode where
  counts : List Nat
  symbols : Array Nat
deriving DecidableEq, Repr, Inhabited

namespace PrefixCode

/-- Words have at most this many bits. -/
def maxLength : Nat := 15

/-- The code with these word lengths. It must be complete, or, where that is let through, be of at
most one word, of one bit. -/
def ofLengths? (mayLack : Bool) (lengths : List Nat) : Option PrefixCode :=
  let indexed := lengths.zipIdx
  let ofLength (n : Nat) : List Nat := (indexed.filter (·.1 = n)).map Prod.snd
  let longest := lengths.foldl max 0
  let groups := (List.range longest).map fun i => ofLength (i + 1)
  let counts := groups.map List.length
  let words : Nat :=
    counts.zipIdx.foldl (fun (total : Nat) (c : Nat × Nat) => total + c.1 <<< (maxLength - 1 - c.2))
      0
  if words = 1 <<< maxLength ∨ mayLack ∧ sum counts ≤ 1 ∧ longest ≤ 1 then
    some ⟨counts, groups.flatten.toArray⟩
  else none

/-- Reads the rest of a word of which `code` has been read. Words of the present length start at
`first`, and stand for the symbols from `index` on. -/
def symbolFrom (symbols : Array Nat) : List Nat → (code first index : Nat) → BitReader Nat
  | [], _, _, _ => Bits.corrupt
  | count :: counts, code, first, index => do
    let code := 2 * code + (← Bits.bit)
    if code < first + count then Bits.require symbols[index + (code - first)]?
    else symbolFrom symbols counts code (2 * (first + count)) (index + count)

/-- Reads one word and gives its symbol. -/
def symbol (c : PrefixCode) : BitReader Nat := symbolFrom c.symbols c.counts 0 0 0

end PrefixCode

end DocGateway
