/-!
# Finding sequences

Places are chained by a hash of the four bytes from there on, and a chain is followed for a number
of steps to find the longest match. A match is put off while one that starts one or two bytes later
gains more: what it gains is its length against the size of its offset. The offset used last is
tried besides, as it costs nothing.
-/

namespace DocGateway.Zstd

/-- A sequence: its number of literals, its offset value and the length of its copy. -/
structure Sequence where
  literals : Nat
  value : Nat
  length : Nat
deriving DecidableEq, Repr, Inhabited

/-- Places of an input chained by their hash: the last place of each hash, and for each place the
one before it. A place is kept with one added, so that zero is none. -/
structure Chains where
  heads : Array Nat
  links : Array Nat
  chained : Nat

/-- What is searched, and the size of a hash in bits. -/
structure MatchFinder where
  source : Array UInt8
  hashBits : Nat

/-- A match: where it starts, how long it is, and its offset value. -/
structure Match where
  start : Nat
  length : Nat
  value : Nat
deriving DecidableEq, Repr

namespace MatchFinder

/-- The number of bits that `n` numbers take, and at least six. -/
def bitsFor (n : Nat) : Nat := if n < 64 then 6 else (n - 1).log2 + 1

/-- A finder for the bytes of one block. -/
def ofSource (source : Array UInt8) : MatchFinder :=
  let n := source.size
  ⟨source, min (if n ≤ 16384 then 14 else 17) (bitsFor n + 1)⟩

/-- No chains yet. -/
def start (f : MatchFinder) : Chains :=
  ⟨Array.replicate (1 <<< f.hashBits) 0, Array.replicate f.source.size 0, 0⟩

/-- The byte at a place. -/
def byte (f : MatchFinder) (i : Nat) : UInt8 := f.source[i]?.getD 0

/-- The four bytes from a place on as one word. -/
def word (f : MatchFinder) (i : Nat) : UInt32 :=
  (f.byte i).toUInt32 ||| (f.byte (i + 1)).toUInt32 <<< 8 ||| (f.byte (i + 2)).toUInt32 <<< 16
    ||| (f.byte (i + 3)).toUInt32 <<< 24

/-- The hash of the four bytes from a place on. -/
def hash (f : MatchFinder) (i : Nat) : Nat :=
  ((f.word i * 2654435761) >>> UInt32.ofNat (32 - f.hashBits)).toNat

/-- Chains a place. -/
def chainOne (f : MatchFinder) (c : Chains) (i : Nat) : Chains :=
  match c with
  | ⟨heads, links, _⟩ =>
    let h := f.hash i
    let before := heads[h]?.getD 0
    ⟨heads.setIfInBounds h (i + 1), links.setIfInBounds i before, i + 1⟩

/-- Chains `n` places from `i` on. -/
def chain (f : MatchFinder) (c : Chains) (i : Nat) : Nat → Chains
  | 0 => c
  | n + 1 => chain f (f.chainOne c i) (i + 1) n

/-- Chains the places before `i`, or only the first of them when places are being skipped. -/
def chainTo (f : MatchFinder) (c : Chains) (i : Nat) (skipping : Bool) : Chains :=
  match f.chain c c.chained (if skipping then min 1 (i - c.chained) else i - c.chained) with
  | ⟨heads, links, _⟩ => ⟨heads, links, i⟩

/-- Where the bytes from `i` on cease to agree with those from `j` on, of which `left` are left. -/
def agreeTo (f : MatchFinder) (i j : Nat) : Nat → Nat
  | 0 => i
  | left + 1 => if f.byte i = f.byte j then agreeTo f (i + 1) (j + 1) left else i

/-- How many bytes from `i` on agree with those from `j` on. -/
def agreement (f : MatchFinder) (i j : Nat) : Nat := f.agreeTo i j (f.source.size - i) - i

/-- How many bytes before `i` agree with those before `j`, of `left` at most. -/
def agreeBefore (f : MatchFinder) (i j : Nat) : Nat → Nat
  | 0 => 0
  | left + 1 =>
    if 0 < j ∧ f.byte (i - 1) = f.byte (j - 1) then agreeBefore f (i - 1) (j - 1) left + 1 else 0

/-- Follows a chain from `place` on for a match at `i` that is longer than the best one; none is
better than one that reaches the end. -/
def follow (f : MatchFinder) (c : Chains) (i : Nat) : Nat → (place : Nat) → Match → Match
  | 0, _, best => best
  | steps + 1, place, best =>
    if place = 0 then best
    else
      let length := f.agreement i (place - 1)
      let better := best.length < length
      let best := if better then ⟨i, length, i - (place - 1) + 3⟩ else best
      if better ∧ i + length = f.source.size then best
      else follow f c i steps (c.links[place - 1]?.getD 0) best

/-- The longest of the matches at `i` in the last 16 places of its chain; its length is three if
there is none of more. -/
def find (f : MatchFinder) (c : Chains) (i : Nat) (skipping : Bool) : Match × Chains :=
  let c := f.chainTo c i skipping
  (f.follow c i 16 (c.heads[f.hash i]?.getD 0) ⟨i, 3, 999999999⟩, c)

/-- The match at `i` with the offset used last, if there is one of at least four bytes. -/
def again (f : MatchFinder) (last i : Nat) : Option Match :=
  if 0 < last ∧ f.word (i - last) = f.word i then some ⟨i, f.agreement i (i - last), 1⟩ else none

/-- What a match gains when a byte counts `rate`. -/
def gain (m : Match) (rate : Nat) : Int := m.length * rate - m.value.log2

/-- The better of a match and one that starts later: the later one must gain `more`. -/
def prefer (m later : Match) (rate : Nat) (more : Int) : Match :=
  if 4 ≤ later.length ∧ gain m rate + more < gain later rate then later else m

/-- Looks for a better match at the place `i`, where one with the last offset counts `rate` a byte
and another must gain `more`. Tells whether such another was found. -/
def improveAt (f : MatchFinder) (last : Nat) (skipping : Bool) (rate : Nat) (more : Int)
    (i : Nat) (m : Match)
    (c : Chains) : Bool × Match × Chains :=
  let m := match f.again last i with
    | some r => prefer m r rate 1
    | none => m
  let (found, c) := f.find c i skipping
  if 4 ≤ found.length ∧ gain m 4 + more < gain found 4 then (true, found, c) else (false, m, c)

/-- Looks for better matches at the next two places, again from where one is found. -/
def improve (f : MatchFinder) (last : Nat) (skipping : Bool) :
    Nat → (i : Nat) → Match → Chains → Match × Chains
  | 0, _, m, c => (m, c)
  | fuel + 1, i, m, c =>
    if f.source.size ≤ i + 8 then (m, c)
    else
      match f.improveAt last skipping 3 4 (i + 1) m c with
      | (true, m, c) => improve f last skipping fuel (i + 1) m c
      | (false, m, c) =>
        if f.source.size ≤ i + 9 then (m, c)
        else
          match f.improveAt last skipping 4 7 (i + 2) m c with
          | (true, m, c) => improve f last skipping fuel (i + 2) m c
          | (false, m, c) => (m, c)

/-- Extends a match to the front, but not before `anchor`. -/
def extend (f : MatchFinder) (anchor : Nat) (m : Match) : Match :=
  if m.value ≤ 3 then m
  else
    let before := f.agreeBefore m.start (m.start - (m.value - 3)) (m.start - anchor)
    ⟨m.start - before, m.length + before, m.value⟩

/-- Takes copies from the offset used before the last one, as long as they follow at once. -/
def repeats (f : MatchFinder) :
    Nat → (i last previous : Nat) → List Sequence → Nat × Nat × Nat × List Sequence
  | 0, i, last, previous, found => (i, last, previous, found)
  | fuel + 1, i, last, previous, found =>
    if i + 8 ≤ f.source.size ∧ 0 < previous ∧ f.word i = f.word (i - previous) then
      let length := f.agreement i (i - previous)
      repeats f fuel (i + length) previous last (⟨0, 1, length⟩ :: found)
    else (i, last, previous, found)

/-- The sequences from `i` on, the last first, where literals are due from `anchor` on. Also where
the last one ends. Where nothing is found for long, places are skipped, and those are not all
chained. -/
def sequencesFrom (f : MatchFinder) :
    Nat → (anchor i last previous : Nat) → (skipping : Bool) → Chains → List Sequence →
      List Sequence × Nat
  | 0, anchor, _, _, _, _, _, found => (found, anchor)
  | fuel + 1, anchor, i, last, previous, skipping, c, found =>
    if f.source.size ≤ i + 8 then (found, anchor)
    else
      let behind := (f.again last (i + 1)).getD ⟨i + 1, 0, 1⟩
      let (here, c) := f.find c i skipping
      let m := if behind.length < here.length then here else behind
      if m.length < 4 then
        let step := (i - anchor) / 256 + 1
        sequencesFrom f fuel anchor (i + step) last previous (8 < step) c found
      else
        let (m, c) := f.improve last skipping f.source.size i m c
        let m := f.extend anchor m
        let (last, previous) := if m.value ≤ 3 then (last, previous) else (m.value - 3, last)
        let found := ⟨m.start - anchor, m.value, m.length⟩ :: found
        let (i, last, previous, found) :=
          f.repeats f.source.size (m.start + m.length) last previous found
        sequencesFrom f fuel i i last previous false c found

end MatchFinder

/-- The sequences of a block, and where the last one ends. No match is looked for at the first
place, and of the offsets used before the block only the last can be used then; it is zero if none
can. -/
def findSequences (source : Array UInt8) (last : Nat) : List Sequence × Nat :=
  let f := MatchFinder.ofSource source
  let (found, stop) := f.sequencesFrom (source.size + 1) 0 1 last 0 false f.start []
  (found.reverse, stop)

end DocGateway.Zstd
