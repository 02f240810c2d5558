import DocGateway.Compression.Zstd.Early.Edition
/-!
# Extensions of long numbers

Up to the fifth edition the codes of a sequence stand for small numbers only. The largest code of a
table is extended by bytes that stand in front of the tables: one byte is added, or, if it is 255, a
longer number follows and is taken instead.
-/

namespace DocGateway.Zstd.Early

/-- The bytes of a list of sequences, the place of the next extension, and where the extensions
stop. -/
structure Extras where
  bytes : Array UInt8
  place : Nat
  stop : Nat
deriving Repr, Inhabited

namespace Extras

/-- The byte at a place. -/
def byteAt (x : Extras) (place : Nat) : Nat := (x.bytes[place]?.getD 0).toNat

/-- Takes the byte to be added, which is zero if none is left. Where `forced` holds, the byte behind
the last one is taken. -/
def addend (forced : Bool) : StateM Extras Nat := fun x =>
  if forced ∨ x.place < x.stop then (x.byteAt x.place, { x with place := x.place + 1 }) else (0, x)

/-- Takes a number of three bytes, unless they are not there. -/
def long : StateM Extras (Option Nat) := fun x =>
  if x.stop < x.place + 3 then (none, x)
  else
    let n := x.byteAt x.place + x.byteAt (x.place + 1) <<< 8 + x.byteAt (x.place + 2) <<< 16
    (some n, { x with place := x.place + 3 })

/-- Takes a number of two bytes, or of three if the lowest bit is set, which does not count. -/
def flagged : StateM Extras (Option Nat) := fun x =>
  if x.stop < x.place + 2 then (none, x)
  else
    let n := x.byteAt x.place + x.byteAt (x.place + 1) <<< 8
    if n % 2 = 1 ∧ x.place + 2 < x.stop then
      (some ((n + x.byteAt (x.place + 2) <<< 16) >>> 1), { x with place := x.place + 3 })
    else (some (n >>> 1), { x with place := x.place + 2 })

/-- Goes back to the last byte when no other is left. -/
def stay : StateM Extras Unit := modify fun x => { x with place := min x.place (x.stop - 1) }

/-- Extends a number if it is the `largest`. -/
def extend (e : Edition) (forced : Bool) (largest n : Nat) : StateM Extras Nat := do
  if n ≠ largest then return n
  let add ← addend (forced && e = .fifth)
  let n ←
    if add < 255 then pure (n + add)
    else (·.getD n) <$> (if e = .fifth then flagged else long)
  if 3 ≤ e.number then stay
  return n

end Extras

end DocGateway.Zstd.Early
