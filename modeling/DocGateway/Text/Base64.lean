/-!
# Base64 text

Three bytes become four digits of six bits; a last group of one or two bytes is padded with equals
signs. Reading takes canonical text only: full groups, padding where the length asks for it, and no
bit set that stands for nothing.
-/

namespace DocGateway.Base64

/-- The digit of a number below 64. -/
def digit (n : Nat) : Char :=
  if n < 26 then Char.ofNat (65 + n)
  else if n < 52 then Char.ofNat (71 + n)
  else if n < 62 then Char.ofNat (n - 4)
  else if n = 62 then '+'
  else '/'

/-- The number of a digit. -/
def digit? (c : Char) : Option Nat :=
  if 'A' ≤ c ∧ c ≤ 'Z' then some (c.toNat - 65)
  else if 'a' ≤ c ∧ c ≤ 'z' then some (c.toNat - 71)
  else if '0' ≤ c ∧ c ≤ '9' then some (c.toNat + 4)
  else if c = '+' then some 62
  else if c = '/' then some 63
  else none

/-- The digits of some bytes. -/
def encodeChars : List UInt8 → List Char
  | [] => []
  | [a] =>
    let n := a.toNat * 16
    [digit (n / 64), digit (n % 64), '=', '=']
  | [a, b] =>
    let n := (a.toNat * 256 + b.toNat) * 4
    [digit (n / 4096), digit (n / 64 % 64), digit (n % 64), '=']
  | a :: b :: c :: rest =>
    let n := (a.toNat * 256 + b.toNat) * 256 + c.toNat
    digit (n / 262144) :: digit (n / 4096 % 64) :: digit (n / 64 % 64) :: digit (n % 64)
      :: encodeChars rest

/-- The text of some bytes. -/
def encode (bs : List UInt8) : String := String.ofList (encodeChars bs)

/-- Reads groups of four digits, the bytes read so far given last first. -/
def decodeChars (read : List UInt8) : List Char → Option (List UInt8)
  | [] => some read.reverse
  | [a, b, '=', '='] => do
    let n := (← digit? a) * 64 + (← digit? b)
    if n % 16 = 0 then some (UInt8.ofNat (n / 16) :: read).reverse else none
  | [a, b, c, '='] => do
    let n := ((← digit? a) * 64 + (← digit? b)) * 64 + (← digit? c)
    if n % 4 = 0 then some (UInt8.ofNat (n / 4 % 256) :: UInt8.ofNat (n / 1024) :: read).reverse
    else none
  | a :: b :: c :: d :: rest => do
    let n := (((← digit? a) * 64 + (← digit? b)) * 64 + (← digit? c)) * 64 + (← digit? d)
    decodeChars
      (UInt8.ofNat (n % 256) :: UInt8.ofNat (n / 256 % 256) :: UInt8.ofNat (n / 65536) :: read) rest
  | _ => none

/-- The bytes that a text spells. -/
def decode? (s : String) : Option (List UInt8) := decodeChars [] s.toList

end DocGateway.Base64
