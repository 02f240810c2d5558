import DocGateway.Text.Scan
/-!
# Socket addresses

An address of a host with a port. Reading is strict: four decimal groups without leading zeros, or
hexadecimal groups in square brackets, of which one run may be left out and the last two may be
written as four decimal groups. Writing leaves out the first of the longest runs of two or more zero
groups.
-/

namespace DocGateway

inductive HostAddress where
  /-- Four groups of eight bits. -/
  | v4 (octets : List Nat)
  /-- Eight groups of sixteen bits, and the number of a link, zero for none. -/
  | v6 (groups : List Nat) (scope : Nat)
deriving DecidableEq, Repr, Inhabited

structure SocketAddress where
  host : HostAddress
  port : Nat
deriving DecidableEq, Repr, Inhabited

namespace SocketAddress

/-- The address of this host under a port. -/
def loopback (port : Nat) : SocketAddress := ⟨.v4 [127, 0, 0, 1], port⟩

/-! ### Reading -/

/-- The value of a hexadecimal digit. -/
def digitValue (c : Char) : Nat :=
  if c.isDigit then c.toNat - 48 else if 'a' ≤ c then c.toNat - 87 else c.toNat - 55

/-- Whether a character is a digit to a base of ten or sixteen. -/
def isDigitOf (base : Nat) (c : Char) : Bool :=
  c.isDigit || base == 16 && ('a' ≤ c && c ≤ 'f' || 'A' ≤ c && c ≤ 'F')

/-- The number that all digits at the front spell, at most `width` of them and below `limit`. -/
def number (base width limit : Nat) : Scan Nat := fun cs =>
  let digits := cs.takeWhile (isDigitOf base)
  let value := digits.foldl (fun v c => base * v + digitValue c) 0
  if digits = [] ∨ width < digits.length ∨ limit ≤ value then none
  else some (value, cs.dropWhile (isDigitOf base))

/-- A number below 256 in decimal digits, the first of several not being zero. -/
def octet : Scan Nat := fun cs =>
  let digits := cs.takeWhile Char.isDigit
  if 1 < digits.length ∧ digits.head? = some '0' then none else number 10 3 256 cs

/-- Four decimal groups. -/
def octets : Scan (List Nat) := do
  let a ← octet
  Scan.char '.'
  let b ← octet
  Scan.char '.'
  let c ← octet
  Scan.char '.'
  let d ← octet
  return [a, b, c, d]

/-- The colon before any group but the first. -/
def colonUnless (first : Bool) : Scan Unit := if first then pure () else Scan.char ':'

/-- At most `room` hexadecimal groups, of which the last two may be four decimal groups. What is not
a group ends them. -/
def groups (first : Bool) : Nat → Scan (List Nat × Bool)
  | 0 => pure ([], false)
  | room + 1 => do
    let embedded ← if 0 < room then Scan.option (do colonUnless first; octets) else pure none
    match embedded with
    | some [a, b, c, d] => return ([a * 256 + b, c * 256 + d], true)
    | _ =>
      match ← Scan.option (do colonUnless first; number 16 4 65536) with
      | none => return ([], false)
      | some g =>
        let (rest, embedded) ← groups false room
        return (g :: rest, embedded)

/-- Eight groups, or fewer with two colons for a run of zero groups. -/
def hostGroups : Scan (List Nat) := do
  let (head, embedded) ← groups true 8
  if head.length = 8 then return head
  if embedded then failure
  Scan.char ':'
  Scan.char ':'
  let (tail, _) ← groups true (7 - head.length)
  return head ++ List.replicate (8 - head.length - tail.length) 0 ++ tail

/-- A colon and a port. -/
def portNumber : Scan Nat := do
  Scan.char ':'
  fun cs => number 10 cs.length 65536 cs

/-- The number of a link, after a percent sign. -/
def scopeNumber : Scan Nat := do
  Scan.char '%'
  fun cs => number 10 cs.length UInt32.size cs

/-- An address of either kind. -/
def scan : Scan SocketAddress := do
  match ← Scan.option (do return SocketAddress.mk (.v4 (← octets)) (← portNumber)) with
  | some a => return a
  | none =>
    Scan.char '['
    let host ← hostGroups
    let scope ← Scan.option scopeNumber
    Scan.char ']'
    return ⟨.v6 host (scope.getD 0), ← portNumber⟩

/-- The address that a text spells. -/
def parse? (s : String) : Option SocketAddress := scan.all? s

/-! ### Writing -/

/-- Numbers with points between them. -/
def dotted (octets : List Nat) : String := ".".intercalate (octets.map toString)

/-- Hexadecimal numbers with colons between them. -/
def coloned (groups : List Nat) : String :=
  ":".intercalate (groups.map fun g => String.ofList (Nat.toDigits 16 g))

/-- The number of zero groups at the front. -/
def zerosAtFront (groups : List Nat) : Nat := (groups.takeWhile (· = 0)).length

/-- The start and the length of the first of the longest runs of zero groups. -/
def longestRun (groups : List Nat) : Nat × Nat :=
  (List.range groups.length).foldl
    (fun best i =>
      let n := zerosAtFront (groups.drop i)
      if best.2 < n then (i, n) else best)
    (0, 0)

/-- The text of eight groups. -/
def groupsText (groups : List Nat) : String :=
  match groups with
  | [0, 0, 0, 0, 0, 65535, a, b] => "::ffff:" ++ dotted [a / 256, a % 256, b / 256, b % 256]
  | _ =>
    let (start, length) := longestRun groups
    if 1 < length then coloned (groups.take start) ++ "::" ++ coloned (groups.drop (start + length))
    else coloned groups

/-- The text of an address. -/
def toText (a : SocketAddress) : String :=
  match a.host with
  | .v4 octets => dotted octets ++ ":" ++ toString a.port
  | .v6 groups scope =>
    let link := if scope = 0 then "" else "%" ++ toString scope
    "[" ++ groupsText groups ++ link ++ "]:" ++ toString a.port

end SocketAddress

end DocGateway
