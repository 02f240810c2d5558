import DocGateway.Text.Utf8
import DocGateway.Yaml.Reader
/-!
# Types of nodes

A node may name its type. The name is a row of bytes, which escapes may spell; it is over at a zero
byte. It is written as a whole, or as a handle and the rest of the name: a handle stands for the
start of a name.
-/

namespace DocGateway.Yaml

/-- The name of a type. -/
structure Tag where
  bytes : List UInt8
deriving DecidableEq, Repr, Inhabited

namespace Tag

/-- The name that a text spells. -/
def ofText (text : String) : Tag := ⟨Utf8.encode text⟩

/-- The name of a core type. -/
def core (name : String) : Tag := ofText ("tag:yaml.org,2002:" ++ name)

/-- Whether a name belongs to its document only. -/
def isLocal (t : Tag) : Bool := t.bytes.head? = some 33

/-- The name of a local type without its mark, unless the name is the mark alone. -/
def localName? (t : Tag) : Option String :=
  match t.bytes with
  | 33 :: rest => Utf8.decode? (if rest.isEmpty then t.bytes else rest)
  | _ => none

/-- The bytes of a name up to a zero byte. -/
def cut (bytes : List UInt8) : List UInt8 := bytes.takeWhile (· ≠ 0)

/-! ### Reading -/

/-- Characters of names, some only where the name is not also part of a flow. -/
def isNameChar (anywhere : Bool) (c : Char) : Bool :=
  isWordChar c ||
    [';', '/', '?', ':', '@', '&', '=', '+', '$', '.', '%', '!', '~', '*', '\'', '(',
      ')'].contains c ||
    (anywhere && [',', '[', ']'].contains c)

/-- The byte of an escape. -/
def escapedByte? (r : Reader) : Option Nat := do
  match r.rest with
  | '%' :: a :: b :: _ => some (16 * (← hexValue? a) + (← hexValue? b))
  | _ => none

/-- The number of bytes of a character that starts with this byte. -/
def widthOf? (first : Nat) : Option Nat :=
  if first < 0x80 then some 1
  else if first / 32 = 6 then some 2
  else if first / 16 = 14 then some 3
  else if first / 8 = 30 then some 4
  else none

/-- Reads `n` escapes of bytes that go on with a character. -/
def trailing : Nat → Reader → Option (List UInt8 × Reader)
  | 0, r => some ([], r)
  | n + 1, r => do
    let byte ← escapedByte? r
    if byte / 64 ≠ 2 then none
    let (bytes, r) ← trailing n (r.skip 3)
    return (UInt8.ofNat byte :: bytes, r)

/-- Reads the escapes of one character. -/
def escapes (r : Reader) : Option (List UInt8 × Reader) := do
  let first ← escapedByte? r
  let (bytes, r) ← trailing ((← widthOf? first) - 1) (r.skip 3)
  return (UInt8.ofNat first :: bytes, r)

/-- Reads the characters of a name. -/
def name (anywhere : Bool) : Nat → List UInt8 → Reader → Option (List UInt8 × Reader)
  | 0, bytes, r => some (bytes, r)
  | n + 1, bytes, r =>
    match r.peek? with
    | none => some (bytes, r)
    | some c =>
      if ¬ isNameChar anywhere c then some (bytes, r)
      else if c = '%' then do
        let (more, r) ← escapes r
        name anywhere n (bytes ++ more) r
      else name anywhere n (bytes ++ Utf8.encode c.toString) (r.skip 1)

/-- Reads a name of at least one character. -/
def someName (anywhere : Bool) (r : Reader) : Option (List UInt8 × Reader) :=
  if r.peek?.any (isNameChar anywhere) then name anywhere r.bound [] r else none

/-- Reads a handle: a mark, letters and a mark. -/
def handle? (r : Reader) : Option (String × Reader) :=
  if r.peek? ≠ some '!' then none
  else
    let (letters, rest) := (r.skip 1).takeWhile isWordChar
    if rest.peek? = some '!' then some ("!" ++ letters ++ "!", rest.skip 1) else none

/-- Reads the name of a type: in angle brackets as a whole, else after a handle, which may be one
mark. -/
def read (r : Reader) : Option (String × List UInt8 × Reader) :=
  if r.peekAt? 1 = some '<' then do
    let (bytes, r) ← someName true (r.skip 2)
    if r.peek? = some '>' then some ("", cut bytes, r.skip 1) else none
  else
    match handle? r with
    | some (handle, rest) => do
      let (bytes, rest) ← someName false rest
      return (handle, cut bytes, rest)
    | none => do
      let (bytes, rest) ← name false r.bound [] (r.skip 1)
      let bytes := cut bytes
      return if bytes.isEmpty then ("", [33], rest) else ("!", bytes, rest)

end Tag

end DocGateway.Yaml
