import DocGateway.Yaml.Scalar
import DocGateway.Yaml.Tag
/-!
# Tokens of YAML

The text of a document is cut into tokens. Indentation becomes tokens of its own: a block of entries
or fields opens where something stands deeper than the blocks around it, and closes where the next
token stands less deep.

A field needs no sign in front of its key. So a place where a key may start is kept in mind, one for
each pair of brackets around it, until a colon makes it a key after all.
-/

namespace DocGateway.Yaml

/-- How a scalar is written. -/
inductive ScalarStyle where
  | plain
  | quoted
  | literal
  | folded
deriving DecidableEq, Repr, Inhabited

/-- A piece of a text. -/
inductive Token where
  | version (major minor : Nat)
  | shorthand (handle : String) (start : List UInt8)
  | documentStart
  | documentEnd
  | blockSequence
  | blockMapping
  | blockEnd
  | flowSequence
  | flowSequenceEnd
  | flowMapping
  | flowMappingEnd
  | entry
  | separator
  | key
  | value
  | alias (name : String)
  | anchor (name : String)
  | tag (handle : String) (rest : List UInt8)
  | scalar (style : ScalarStyle) (text : String)
deriving DecidableEq, Repr, Inhabited

/-- A place where a key may have started. -/
structure PossibleKey where
  /-- Whether only a key may stand there. -/
  required : Bool
  /-- The number of tokens before it. -/
  place : Nat
  line : Nat
  column : Nat
  index : Nat
deriving Repr, Inhabited

/-- The longest text of a key without a sign in front, in bytes. -/
def maxKeyLength : Nat := 1024

/-- What is known after some tokens. -/
structure Lexer where
  reader : Reader
  tokens : Array Token
  /-- The columns of the open blocks, the innermost first. -/
  columns : List Nat
  /-- The possible keys outside of brackets and within each open pair, the innermost first. -/
  keys : List (Option PossibleKey)
  /-- Whether a key without a sign may start here. -/
  keyAllowed : Bool
deriving Inhabited

namespace Lexer

/-- The start of a text. -/
def ofText (text : String) : Lexer := ⟨.ofText text, #[], [], [none], true⟩

/-- Whether brackets are open. -/
def inFlow (s : Lexer) : Bool :=
  match s.keys with
  | _ :: _ :: _ => true
  | _ => false

/-- The column of the innermost open block. -/
def indent (s : Lexer) : Int :=
  match s.columns with
  | [] => -1
  | c :: _ => c

/-- Adds a token and goes past its characters. -/
def emit (s : Lexer) (t : Token) (width : Nat) : Lexer :=
  { s with tokens := s.tokens.push t, reader := s.reader.skip width }

/-! ### Blocks -/

/-- Opens a block in front of the token at a place, if it stands deeper than the open ones. -/
def openBlock (s : Lexer) (column place : Nat) (t : Token) : Lexer :=
  if s.inFlow ∨ (column : Int) ≤ s.indent then s
  else { s with columns := column :: s.columns, tokens := s.tokens.insertIdxIfInBounds place t }

/-- Opens a block that starts with the next token. -/
def openBlockHere (s : Lexer) (t : Token) : Lexer := s.openBlock s.reader.column s.tokens.size t

/-- Closes the blocks that are deeper than a column. -/
def closeBlocks (s : Lexer) (column : Int) : Lexer :=
  if s.inFlow then s
  else
    let deeper := s.columns.takeWhile fun (c : Nat) => decide (column < c)
    { s with columns := s.columns.drop deeper.length,
             tokens := s.tokens ++ Array.replicate deeper.length .blockEnd }

/-! ### Possible keys -/

/-- Gives up the innermost possible key. -/
def dropKey (s : Lexer) : Option Lexer :=
  match s.keys with
  | some k :: ks => if k.required then none else some { s with keys := none :: ks }
  | _ => some s

/-- Notes that a key may start here. -/
def saveKey (s : Lexer) : Option Lexer :=
  if s.keyAllowed then do
    let s ← s.dropKey
    let r := s.reader
    let key : PossibleKey :=
      ⟨!s.inFlow && decide (s.indent = r.column), s.tokens.size, r.line, r.column, r.index⟩
    return { s with keys := some key :: s.keys.tail }
  else some s

/-- Whether a possible key is over: a key ends in its line and is not long. -/
def isOver (k : PossibleKey) (r : Reader) : Bool :=
  k.line < r.line || k.index + maxKeyLength < r.index

/-- Gives up the innermost possible key if it is over. The others are looked at when they are the
innermost again: one that is over stays so. -/
def dropKeyIfOver (s : Lexer) : Option Lexer :=
  match s.keys with
  | some k :: _ => if isOver k s.reader then s.dropKey else some s
  | _ => some s

/-! ### Gaps -/

/-- Goes past blanks, comments and breaks. Outside of brackets a key may start in a new line. A mark
of byte order at the start of a line takes up a column. -/
def skipGap : Nat → Lexer → Lexer
  | 0, s => s
  | n + 1, s =>
    let r := s.reader
    let r := if r.column = 0 ∧ r.peek? = some byteOrderMark then r.skip 1 else r
    -- a tab must not stand where the column of a key counts
    let r := (r.takeWhile fun c => c = ' ' || (c = '\t' && (s.inFlow || !s.keyAllowed))).2
    let r := if r.peek? = some '#' then (r.takeWhile (!isBreak ·)).2 else r
    if r.peek?.any isBreak then
      skipGap n { s with reader := r.takeBreak.2, keyAllowed := s.keyAllowed || !s.inFlow }
    else { s with reader := r }

/-! ### Directives and documents -/

/-- A number in a directive has at most this many digits. -/
def maxVersionDigits : Nat := 9

/-- Reads a number in a directive. -/
def versionNumber (r : Reader) : Option (Nat × Reader) := do
  let (digits, r) := r.takeWhile Char.isDigit
  if maxVersionDigits < digits.length then none
  return (← digits.toNat?, r)

/-- Reads the version of the language. -/
def version (r : Reader) : Option (Token × Reader) := do
  let (major, r) ← versionNumber r
  if r.peek? ≠ some '.' then none
  let (minor, r) ← versionNumber (r.skip 1)
  return (.version major minor, r)

/-- Reads a handle, or the mark that is one by itself, and the start of names that it stands for. -/
def shorthand (r : Reader) : Option (Token × Reader) := do
  let (handle, r) ←
    match Tag.handle? r with
    | some found => some found
    | none => if r.peek? = some '!' then some ("!", r.skip 1) else none
  let (gap, r) := r.takeWhile isBlank
  if gap.isEmpty then none
  let (start, r) ← Tag.someName true r
  if r.gapAt 0 then return (.shorthand handle (Tag.cut start), r) else none

/-- Reads a directive: the version of the language, or a handle for names of types. -/
def directive (s : Lexer) : Option Lexer := do
  let s ← (s.closeBlocks (-1)).dropKey
  let (name, r) := (s.reader.skip 1).takeWhile isWordChar
  let (gap, r) := r.takeWhile isBlank
  if gap.isEmpty then none
  let (token, r) ← if name = "YAML" then version r else if name = "TAG" then shorthand r else none
  return { s with tokens := s.tokens.push token, reader := ← skipToBreak r, keyAllowed := false }

/-- Reads a mark between documents. -/
def documentMark (s : Lexer) (c : Char) : Option Lexer := do
  let s ← (s.closeBlocks (-1)).dropKey
  return { s with keyAllowed := false }.emit (if c = '-' then .documentStart else .documentEnd) 3

/-! ### Signs -/

/-- Reads an opening bracket. -/
def openFlow (s : Lexer) (t : Token) : Option Lexer := do
  let s ← s.saveKey
  return { s with keys := none :: s.keys, keyAllowed := true }.emit t 1

/-- Reads a closing bracket. -/
def closeFlow (s : Lexer) (t : Token) : Option Lexer := do
  let s ← s.dropKey
  return { s with keys := if s.inFlow then s.keys.tail else s.keys, keyAllowed := false }.emit t 1

/-- Reads the comma between brackets. -/
def separator (s : Lexer) : Option Lexer := do
  return { ← s.dropKey with keyAllowed := true }.emit .separator 1

/-- Reads the dash of an entry. -/
def entry (s : Lexer) : Option Lexer := do
  if !s.inFlow && !s.keyAllowed then none
  let s ← (s.openBlockHere .blockSequence).dropKey
  return { s with keyAllowed := true }.emit .entry 1

/-- Reads the question mark of a key. -/
def explicitKey (s : Lexer) : Option Lexer := do
  if !s.inFlow && !s.keyAllowed then none
  let s ← (s.openBlockHere .blockMapping).dropKey
  return { s with keyAllowed := !s.inFlow }.emit .key 1

/-- Reads the colon of a value. A possible key becomes one. -/
def fieldValue (s : Lexer) : Option Lexer :=
  match s.keys with
  | some k :: ks =>
    -- what was read since the key might have started is the key
    let s := { s with keys := none :: ks, tokens := s.tokens.insertIdxIfInBounds k.place .key }
    some ({ s.openBlock k.column k.place .blockMapping with keyAllowed := false }.emit .value 1)
  | _ =>
    if !s.inFlow && !s.keyAllowed then none
    else some ({ s.openBlockHere .blockMapping with keyAllowed := !s.inFlow }.emit .value 1)

/-! ### Names -/

/-- Reads the name of an anchor or an alias. -/
def named (s : Lexer) (t : String → Token) : Option Lexer := do
  let s ← s.saveKey
  let (name, r) := (s.reader.skip 1).takeWhile isWordChar
  let ends (c : Char) : Bool :=
    isBlank c || isBreak c || ['?', ':', ',', ']', '\x7d', '%', '@', '\x60'].contains c
  if name.isEmpty ∨ ¬ r.peek?.all ends then none
  else return { s with tokens := s.tokens.push (t name), reader := r, keyAllowed := false }

/-- Reads the name of a type and the gap that has to follow it. -/
def tag (s : Lexer) : Option Lexer := do
  let s ← s.saveKey
  let (handle, rest, r) ← Tag.read s.reader
  if r.gapAt 0 ∨ (s.inFlow ∧ r.peek? = some ',') then
    return { s with tokens := s.tokens.push (.tag handle rest), reader := r, keyAllowed := false }
  else none

/-! ### Scalars -/

/-- Reads an indented block. -/
def block (s : Lexer) (style : ScalarStyle) : Option Lexer := do
  let s ← s.dropKey
  let (text, r) ← blockScalar (style = .literal) s.indent (s.reader.skip 1)
  return { s with tokens := s.tokens.push (.scalar style text), reader := r, keyAllowed := true }

/-- Reads a scalar between quotes. -/
def quoted (s : Lexer) (quote : Char) : Option Lexer := do
  let s ← s.saveKey
  let (text, r) ← quotedScalar quote s.reader.bound "" (s.reader.skip 1)
  return { s with tokens := s.tokens.push (.scalar .quoted text), reader := r, keyAllowed := false }

/-- Reads a plain scalar. After one that ends with its line a key may start. -/
def plain (s : Lexer) : Option Lexer := do
  let s ← s.saveKey
  let (text, broken, r) ← plainScalar s.inFlow (s.indent + 1).toNat (s.reader.bound + 1)
      (.ofText "") s.reader
  return { s with tokens := s.tokens.push (.scalar .plain text), reader := r, keyAllowed := broken }

/-- Characters with a meaning of their own at the start of a token. -/
def indicators : List Char :=
  ['-', '?', ':', ',', '[', ']', '\x7b', '\x7d', '#', '&', '*', '!', '|', '>', '\'', '"', '%',
    '@', '\x60']

/-- Whether a plain scalar may start here. -/
def startsPlain (s : Lexer) (c : Char) : Bool :=
  !(isBlank c || indicators.contains c) || (c = '-' && !(s.reader.peekAt? 1).any isBlank) ||
    (!s.inFlow && (c = '?' || c = ':') && !s.reader.gapAt 1)

/-! ### A text -/

/-- Reads the token that starts with the next character. -/
def token (s : Lexer) (c : Char) : Option Lexer :=
  -- these characters are signs in front of a gap, and most of them are in brackets
  let sign := s.reader.gapAt 1 || (s.inFlow && c ≠ '-')
  if s.reader.column = 0 ∧ c = '%' then s.directive
  else if s.reader.atDocumentMark then s.documentMark c
  else if c = '[' then s.openFlow .flowSequence
  else if c = '\x7b' then s.openFlow .flowMapping
  else if c = ']' then s.closeFlow .flowSequenceEnd
  else if c = '\x7d' then s.closeFlow .flowMappingEnd
  else if c = ',' then s.separator
  else if c = '-' ∧ sign then s.entry
  else if c = '?' ∧ sign then s.explicitKey
  else if c = ':' ∧ sign then s.fieldValue
  else if c = '*' then s.named .alias
  else if c = '&' then s.named .anchor
  else if c = '!' then s.tag
  else if c = '|' ∧ ¬ s.inFlow then s.block .literal
  else if c = '>' ∧ ¬ s.inFlow then s.block .folded
  else if c = '\'' ∨ c = '"' then s.quoted c
  else if s.startsPlain c then s.plain
  else none

/-- Reads the tokens up to the end. -/
def run : Nat → Lexer → Option Lexer
  | 0, _ => none
  | n + 1, s => do
    let s ← (s.skipGap (s.reader.bound + 1)).dropKeyIfOver
    -- what stands less deep than a block ends it
    let s := s.closeBlocks s.reader.column
    match s.reader.peek? with
    | none => (s.closeBlocks (-1)).dropKey
    | some c => run n (← s.token c)

end Lexer

/-- The tokens of a text. -/
def Token.ofText? (text : String) : Option (List Token) :=
  if text.toList.all isAllowed then
    (Lexer.run (text.length + 1) (.ofText text)).map (·.tokens.toList)
  else none

end DocGateway.Yaml
