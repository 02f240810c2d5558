import DocGateway.Bytes.LittleEndian
/-!
# A window on bits that are read backwards

A stream may be read through a window of eight bytes that slides towards the start of a byte string.
Bits are taken from the top of the window, and it slides over whole bytes that are used up. At the
start it slides no further. What is then taken beyond its 64 bits comes from its top again, so a
reader that must not do so looks whether the window is spent.
-/

namespace DocGateway.Zstd

/-- A byte string, the number of bytes before the window, and the number of bits taken from its
top. -/
structure Window where
  bytes : Array UInt8
  place : Nat
  taken : Nat
deriving Repr, Inhabited

/-- What is left after a window has slid: more before it, nothing before it, nothing at all, or less
than that. -/
inductive Supply where
  | plenty | last | spent | overdrawn
deriving DecidableEq, Repr

namespace Window

/-- The number of bits taken before the first one that counts: those down to the highest bit set in
the last byte. -/
def marked (last : UInt8) : Nat := if last = 0 then 0 else 8 - last.toNat.log2

/-- The window at the end of a byte string, which is not empty and does not end with a zero. The
bits that a shorter string lacks count as taken. -/
def ofBytes? (bytes : List UInt8) : Option Window :=
  let size := bytes.length
  match bytes.getLast? with
  | none => none
  | some last =>
    if last = 0 then none else some ⟨bytes.toArray, size - 8, marked last + 8 * (8 - size)⟩

/-- The 64 bits in the window. -/
def word (w : Window) : Nat :=
  LittleEndian.decode ((List.range 8).map fun i => w.bytes[w.place + i]?.getD 0)

/-- The number of `n` bits that comes next, which is not taken. -/
def peek (w : Window) (n : Nat) : Nat := ((w.word <<< (w.taken % 64)) % (1 <<< 64)) >>> (64 - n)

/-- Takes `n` bits. -/
def skip (w : Window) (n : Nat) : Window := { w with taken := w.taken + n }

/-- Slides over the bytes used up, wherever that leads. -/
def slideFreely (w : Window) : Window :=
  { w with place := w.place - w.taken / 8, taken := w.taken % 8 }

/-- Slides over the bytes used up, but not past the start. -/
def slide (w : Window) : Window × Supply :=
  if 64 < w.taken then (w, .overdrawn)
  else if w.place = 0 then (w, if w.taken < 64 then .last else .spent)
  else
    let n := w.taken / 8
    if n ≤ w.place then ({ w with place := w.place - n, taken := w.taken - 8 * n }, .plenty)
    else ({ w with place := 0, taken := w.taken - 8 * w.place }, .last)

/-- Whether all bits up to the start have been taken, and no more. -/
def isSpent (w : Window) : Bool := w.place = 0 && w.taken = 64

end Window

end DocGateway.Zstd
