/-!
# Reading YAML text

A reader stands before a character of a text and knows its line and column, and how many bytes of
UTF-8 lie behind it. All breaks of lines are read as line feeds, but for the two separators of
Unicode.
-/

namespace DocGateway.Yaml

/-- Blanks within a line. -/
def isBlank (c : Char) : Bool := c = ' ' ∨ c = '\t'

/-- Characters that end a line. -/
def isBreak (c : Char) : Bool := c = '\r' ∨ c = '\n' ∨ c = '\x85' ∨ c = '\u2028' ∨ c = '\u2029'

/-- Characters that may stand in a text. -/
def isAllowed (c : Char) : Bool :=
  let n := c.toNat
  n = 0x09 ∨ n = 0x0A ∨ n = 0x0D ∨ (0x20 ≤ n ∧ n ≤ 0x7E) ∨ n = 0x85 ∨
    (0xA0 ≤ n ∧ n ≤ 0xFFFD) ∨ 0x10000 ≤ n

/-- Characters of names of anchors and of handles of tags. -/
def isWordChar (c : Char) : Bool := c.isAlphanum || c = '_' || c = '-'

/-- The value of a hexadecimal digit. -/
def hexValue? (c : Char) : Option Nat :=
  if c.isDigit then some (c.toNat - 48)
  else if 'a' ≤ c ∧ c ≤ 'f' then some (c.toNat - 87)
  else if 'A' ≤ c ∧ c ≤ 'F' then some (c.toNat - 55)
  else none

/-- The mark of byte order, which may start a line. -/
def byteOrderMark : Char := '\uFEFF'

/-- A place in a text. -/
structure Reader where
  rest : List Char
  line : Nat
  column : Nat
  /-- The number of bytes before this place. -/
  index : Nat
  /-- The number of characters of the whole text. No run of characters is longer. -/
  bound : Nat
deriving Repr, Inhabited

namespace Reader

/-- The start of a text. -/
def ofText (s : String) : Reader := ⟨s.toList, 0, 0, 0, s.length⟩

/-- The next character. -/
def peek? (r : Reader) : Option Char := r.rest.head?

/-- The character some places ahead. -/
def peekAt? (r : Reader) (n : Nat) : Option Char := r.rest[n]?

/-- Whether a blank, a break or the end stands some places ahead. -/
def gapAt (r : Reader) (n : Nat) : Bool :=
  match r.peekAt? n with
  | some c => isBlank c || isBreak c
  | none => true

/-- Goes past some characters of a line. -/
def skip (r : Reader) : Nat → Reader
  | 0 => r
  | n + 1 =>
    match r.rest with
    | [] => r
    | c :: cs => skip { r with rest := cs, column := r.column + 1, index := r.index + c.utf8Size } n

/-- Goes past the break of a line, which it returns. -/
def takeBreak (r : Reader) : String × Reader :=
  match r.rest with
  | '\r' :: '\n' :: cs =>
    ("\n", { r with rest := cs, line := r.line + 1, column := 0, index := r.index + 2 })
  | c :: cs =>
    (if c = '\u2028' ∨ c = '\u2029' then c.toString else "\n",
      { r with rest := cs, line := r.line + 1, column := 0, index := r.index + c.utf8Size })
  | [] => ("", r)

/-- Goes past all characters of a class. -/
def takeWhile (r : Reader) (p : Char → Bool) : String × Reader :=
  let taken := r.rest.takeWhile p
  (String.ofList taken, r.skip taken.length)

/-- Whether one of the marks between documents stands here. -/
def atDocumentMark (r : Reader) : Bool :=
  r.column = 0 && r.gapAt 3 &&
    match r.rest with
    | '-' :: '-' :: '-' :: _ | '.' :: '.' :: '.' :: _ => true
    | _ => false

end Reader

end DocGateway.Yaml
