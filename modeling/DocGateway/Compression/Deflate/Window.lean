/-!
# Finding earlier occurrences

Places in the input are chained by a hash of the three bytes from there on: a table has the last
place of each hash, and each place a link to the one before it. Places are kept to 16 bits, and the
links of the last 32768 places are known; a place that is zero in 16 bits ends a chain.
-/

namespace DocGateway.Deflate

/-- Copies have at most this many bytes. -/
def maxLength : Nat := 258

/-- Copies reach back at most this far. -/
def windowSize : Nat := 32768

/-- A copy of earlier bytes. -/
structure Copy where
  length : Nat
  distance : Nat
deriving DecidableEq, Repr, Inhabited

/-- An input with the chains of its first `chained` places. -/
structure Window where
  source : Array UInt8
  chained : Nat
  heads : Array Nat
  links : Array Nat

namespace Window

/-- An input of which no place is chained yet. -/
def ofSource (source : Array UInt8) : Window :=
  ⟨source, 0, Array.replicate windowSize 0, Array.replicate windowSize 0⟩

/-- The byte at a place. -/
def byte (w : Window) (i : Nat) : UInt8 := w.source[i]?.getD 0

/-- The hash of the three bytes from a place on, in 15 bits. -/
def hash (w : Window) (i : Nat) : Nat :=
  let a := (w.byte i).toUInt16 <<< 10
  let b := (w.byte (i + 1)).toUInt16 <<< 5
  (a ^^^ b ^^^ (w.byte (i + 2)).toUInt16).toNat % windowSize

/-- Chains one place more. -/
def chainOne (w : Window) : Window :=
  let i := w.chained
  let h := w.hash i
  match w with
  | ⟨source, _, heads, links⟩ =>
    ⟨source, i + 1, heads.setIfInBounds h (i % 65536),
      links.setIfInBounds (i % windowSize) (heads[h]?.getD 0)⟩

/-- Chains `n` places more. -/
def chain (w : Window) : Nat → Window
  | 0 => w
  | n + 1 => chain w.chainOne n

/-- Chains the places whose three bytes end before `stop`. -/
def chainTo (w : Window) (stop : Nat) : Window := w.chain (stop - 2 - w.chained)

/-- How many bytes from `i` on agree with those from `j` on, where `n` do already and there are
`left` more. -/
def agree (w : Window) (i j n : Nat) : Nat → Nat
  | 0 => n
  | left + 1 => if w.byte (i + n) = w.byte (j + n) then agree w i j (n + 1) left else n

/-- Whether the two bytes from `i` on are those from `j` on. -/
def samePair (w : Window) (i j : Nat) : Bool :=
  w.byte i = w.byte j ∧ w.byte (i + 1) = w.byte (j + 1)

/-- Goes through the chain of `pos` for a copy longer than the best one known, of `limit` bytes at
most and from `reach` bytes back at most. Links are followed in threes: a three ends when an
occurrence agrees in the last byte of the best copy and the one behind it, and after as many threes
as there are `rounds` the search ends. -/
def walk (w : Window) (pos limit reach : Nat) :
    Nat → (rounds tries place : Nat) → Copy → Copy
  | 0, _, _, _, best => best
  | fuel + 1, rounds, 0, place, best =>
    if rounds ≤ 1 then best else walk w pos limit reach fuel (rounds - 1) 3 place best
  | fuel + 1, rounds, tries + 1, place, best =>
    let place := w.links[place % windowSize]?.getD 0
    let distance := (pos + 65536 - place) % 65536
    if place = 0 ∨ reach < distance then best
    else
      let i := pos - distance
      if w.samePair (i + best.length - 1) (pos + best.length - 1) then
        if distance = 0 then best
        else if w.samePair i pos then
          let length := w.agree i pos 2 (limit - 2)
          if best.length < length then
            if length = limit then ⟨length, distance⟩
            else walk w pos limit reach fuel rounds 0 place ⟨length, distance⟩
          else walk w pos limit reach fuel rounds 0 place best
        else walk w pos limit reach fuel rounds 0 place best
      else walk w pos limit reach fuel rounds tries place best

/-- The rounds of a search, when the copy to be beaten is short or long. -/
def rounds (best : Nat) : Nat := if 32 ≤ best then 12 else 44

/-- The best copy at `pos`, where `ahead` bytes are ahead, that is longer than `length` bytes; else
the length comes back with distance zero. -/
def find (w : Window) (pos ahead length : Nat) : Copy :=
  let limit := min maxLength ahead
  if limit ≤ length then ⟨length, 0⟩
  else w.walk pos limit (min pos (windowSize - ahead)) 200 (rounds length) 0
    (pos % windowSize) ⟨length, 0⟩

end Window

end DocGateway.Deflate
