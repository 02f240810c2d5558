import DocGateway.Compression.BitWriter
import DocGateway.Compression.Zstd.Fse
import DocGateway.Number.Sum
/-!
# Making and using tables of states

Shares are chosen in proportion to how often symbols occur. A table is used from the last symbol to
the first: a state is given by the state after it and its symbol.
-/

namespace DocGateway.Zstd

/-- A share as a number, minus one for less than one. -/
def FseShare.toInt : FseShare → Int
  | states n => n
  | belowOne => -1

namespace Fse

/-! ### Shares -/

/-- The accuracy for `total` symbols up to number `highest`: `spare` bits less than the total takes,
and no more than `limit`, but enough for all symbols. -/
def accuracyFor (limit total highest spare : Nat) : Nat :=
  let least := min (total.log2 + 1) (highest.log2 + 2)
  min 12 (max 5 (max least (min limit ((total - 1).log2 - spare))))

/-- How far a share of `n` states, rounded down, must be exceeded for it to be rounded up, in
millionths and a bit. -/
def roundingThreshold (n : Nat) : Nat :=
  match n with
  | 0 => 0
  | 1 => 473195
  | 2 => 504333
  | 3 => 520860
  | 4 => 550000
  | 5 => 700000
  | 6 => 750000
  | _ => 830000

/-- The share of a symbol that occurs `count` times, where `rate` states in units of `2 ^ scale` go
to one occurrence. -/
def rounded (count rate scale : Nat) : Nat :=
  let exact := count * rate
  let n := exact >>> scale
  if n < 8 ∧ roundingThreshold n <<< (scale - 20) < exact - n <<< scale then n + 1 else n

/-- The share of a symbol, still open when it is `none`. -/
abbrev OpenShare := Option FseShare

/-- Gives what is left of `accuracy` bits of states to the symbols still open, in proportion; `left`
states are for `total` occurrences. -/
def fillOpen (accuracy left total : Nat) (counts : List Nat) (open_ : List OpenShare) :
    Option (List FseShare) :=
  let scale := 62 - accuracy
  let middle := 1 <<< (scale - 1) - 1
  let rate := (left <<< scale + middle) / total
  let step (acc : Option (Nat × List FseShare)) (p : Nat × OpenShare) : Option
      (Nat × List FseShare) := do
    let (position, shares) ← acc
    match p.2 with
    | some s => some (position, s :: shares)
    | none =>
      let stop := position + p.1 * rate
      let n := stop >>> scale - position >>> scale
      if n = 0 then none else some (stop, .states n :: shares)
  ((counts.zip open_).foldl step (some (middle, []))).map (·.2.reverse)

/-- Gives one state more to each symbol that has some, in turn, until `left` are given away. -/
def giveAround : Nat → (left : Nat) → List FseShare → List FseShare → List FseShare
  | 0, _, done, rest => done.reverse ++ rest
  | fuel + 1, left, done, rest =>
    if left = 0 then done.reverse ++ rest
    else
      match rest with
      | [] => giveAround fuel left [] done.reverse
      | .states (n + 1) :: more => giveAround fuel (left - 1) (.states (n + 2) :: done) more
      | s :: more => giveAround fuel left (s :: done) more

/-- Shares for symbols most of which occur seldom: these get one state first, and the others share
what is left. -/
def sharesOfRare (accuracy total : Nat) (rare : FseShare) (counts : List Nat) :
    Option (List FseShare) :=
  let low := total >>> accuracy
  let settle (bound : Nat) (c : Nat) : OpenShare :=
    if c = 0 then some (.states 0)
    else if c ≤ low then some rare
    else if c ≤ bound then some (.states 1)
    else none
  let settled (shares : List OpenShare) : Nat :=
    ((counts.zip shares).filter fun p => p.1 ≠ 0 ∧ p.2.isSome).length
  let openTotal (shares : List OpenShare) : Nat :=
    sum (((counts.zip shares).filter fun p => p.2.isNone).map Prod.fst)
  -- symbols with up to one and a half shares are settled
  let first := counts.map (settle ((total * 3) >>> (accuracy + 1)))
  let left := 1 <<< accuracy - settled first
  if left = 0 then some (first.map (·.getD (.states 0)))
  else
    -- the others may still be too many for the states that are left
    let second :=
      if (total * 3) >>> (accuracy + 1) < openTotal first / left then
        (counts.zip first).map fun p =>
          if p.2.isNone ∧ p.1 ≤ openTotal first * 3 / (left * 2) then some (.states 1) else p.2
      else first
    let left := 1 <<< accuracy - settled second
    let closed := second.map (·.getD (.states 0))
    -- no symbol is open, so the most frequent one takes all that is left
    if settled second = counts.length then
      let most := counts.foldl max 0
      some (closed.modify (counts.idxOf most) fun s => .states (s.count + left))
    else if openTotal second = 0 then
      some (giveAround ((left + 1) * (counts.length + 1)) left [] closed)
    else fillOpen accuracy left (openTotal second) counts second

/-- Shares of `2 ^ accuracy` states for symbols that occur so often, of which none is all. Symbols
that are too rare for one state get one, or count as less than one if `belowOne`. What rounding
leaves over goes to the symbol with most. -/
def sharesFor (accuracy : Nat) (belowOne : Bool) (counts : List Nat) : Option (List FseShare) :=
  let total := sum counts
  let scale := 62 - accuracy
  let rate := 1 <<< 62 / total
  let low := total >>> accuracy
  let rare : FseShare := if belowOne then .belowOne else .states 1
  let shares := counts.map fun c =>
    if c = 0 then .states 0 else if c ≤ low then rare else .states (rounded c rate scale)
  let numbers := (counts.zip shares).map fun p => if p.1 ≤ low then 0 else p.2.count
  let largest := numbers.foldl max 0
  let place := if largest = 0 then 0 else numbers.idxOf largest
  let left : Int := (1 <<< accuracy : Nat) - (sum (shares.map FseShare.count) : Nat)
  let room : Int := (shares[place]?.map FseShare.toInt).getD 0
  -- rounding up has given away more than the symbol with most can pay for
  if room / 2 ≤ -left then sharesOfRare accuracy total rare counts
  else some (shares.modify place fun s => .states (s.toInt + left).toNat)

/-! ### Descriptions -/

/-- Writes how many symbols without a state follow, in threes. -/
def putRun (n : Nat) (w : BitWriter) : BitWriter :=
  ((List.replicate (n / 3) 3).foldl (fun w k => w.number k 2) w).number (n % 3) 2

/-- Writes one number from zero to `left + 1`, with as few bits as that allows. -/
def putShareCode (left code : Nat) (w : BitWriter) : BitWriter :=
  let width := (left + 1).log2
  let short := 1 <<< (width + 1) - (left + 2)
  if code < short then w.number code width
  else w.number (if code < 1 <<< width then code else code + short) (width + 1)

/-- Writes shares until no state is left. -/
def putShares : Nat → (left : Nat) → List FseShare → BitWriter → BitWriter
  | 0, _, _, w => w
  | fuel + 1, left, shares, w =>
    match left, shares with
    | 0, _ => w
    | _, [] => w
    | _, .belowOne :: rest => putShares fuel (left - 1) rest (putShareCode left 0 w)
    | _, .states 0 :: rest =>
      -- those behind it that have no state either are only counted
      let run := (rest.takeWhile (· = .states 0)).length
      putShares fuel left (rest.drop run) (putRun run (putShareCode left 1 w))
    | _, .states n :: rest => putShares fuel (left - n) rest (putShareCode left (n + 1) w)

/-- The description of a table. -/
def description (accuracy : Nat) (shares : List FseShare) : List UInt8 :=
  (putShares (shares.length + 1) (1 <<< accuracy) shares
    (BitWriter.empty.number (accuracy - 5) 4)).align.bytes.toList

end Fse

namespace FseTable

/-- The first state of a symbol. -/
def firstOf (t : FseTable) (symbol : Nat) : Nat := (t.states.findIdx? (·.symbol = symbol)).getD 0

/-- The state of a symbol that the state `next` can follow. -/
def before (t : FseTable) (symbol next : Nat) : Nat :=
  (t.states.findIdx? fun s => s.symbol = symbol ∧ s.base ≤ next ∧
    next < s.base + 1 <<< s.width).getD 0

/-- Writes what leads from a state of a symbol to `next`, and gives that state. -/
def put (t : FseTable) (symbol next : Nat) (w : BitWriter) : Nat × BitWriter :=
  let i := t.before symbol next
  let s := t.get i
  (i, w.number (next - s.base) s.width)

/-- Writes a state, which is where reading starts. -/
def putState (t : FseTable) (i : Nat) (w : BitWriter) : BitWriter := w.number i t.accuracy

end FseTable

end DocGateway.Zstd
