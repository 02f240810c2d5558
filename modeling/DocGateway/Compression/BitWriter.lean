/-!
# Writing bits, low bits first
-/

namespace DocGateway

/-- Bytes that are complete, and the bits of the one begun: their value and their number. -/
structure BitWriter where
  bytes : Array UInt8
  value : Nat
  count : Nat

namespace BitWriter

/-- No bits. -/
def empty : BitWriter := ⟨#[], 0, 0⟩

/-- Puts out complete bytes, `n` at most. -/
def settle : Nat → BitWriter → BitWriter
  | 0, w => w
  | n + 1, w =>
    if w.count < 8 then w
    else
      match w with
      | ⟨bytes, value, count⟩ => settle n ⟨bytes.push (UInt8.ofNat value), value / 256, count - 8⟩

/-- Writes a number of `width` bits, least significant first. -/
def number (w : BitWriter) (value width : Nat) : BitWriter :=
  match w with
  | ⟨bytes, old, count⟩ => settle (width / 8 + 1) ⟨bytes, old + value <<< count, count + width⟩

/-- Writes a number of `width` bits, most significant first. -/
def word (w : BitWriter) (value width : Nat) : BitWriter :=
  w.number ((List.range width).foldl (fun r i => 2 * r + value >>> i % 2) 0) width

/-- Completes a byte begun with zeros. -/
def align (w : BitWriter) : BitWriter := if w.count = 0 then w else w.number 0 (8 - w.count)

/-- Writes what fits in `width` bits of a number. -/
def low (w : BitWriter) (value width : Nat) : BitWriter := w.number (value % (1 <<< width)) width

/-- Closes a stream that is read backwards, with its end mark. -/
def closeBackward (w : BitWriter) : BitWriter := (w.number 1 1).align

/-- Writes bytes, after `align`. -/
def append (w : BitWriter) (bytes : List UInt8) : BitWriter := ⟨w.bytes ++ bytes, w.value, w.count⟩

end BitWriter

end DocGateway
