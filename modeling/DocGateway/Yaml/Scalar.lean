import DocGateway.Yaml.Reader
/-!
# Scalars of YAML

A scalar is written plain, between quotes, or as an indented block. Where a plain or quoted scalar
goes on in the next line, the break becomes a blank, and further breaks stay as they are.
-/

namespace DocGateway.Yaml

/-- A text, and the gap after it that is not yet part of it. -/
structure Folding where
  text : String
  /-- Blanks of the same line. -/
  blanks : String
  /-- The first break of a gap over several lines. -/
  firstBreak : String
  /-- The breaks after the first. -/
  breaks : String
  /-- Whether the gap goes over several lines. -/
  broken : Bool
deriving Repr, Inhabited

namespace Folding

/-- A text without a gap. -/
def ofText (text : String) : Folding := ⟨text, "", "", "", false⟩

/-- The text with the gap as it is folded. -/
def joined (f : Folding) : String :=
  if f.broken then
    if f.firstBreak.startsWith "\n" then f.text ++ (if f.breaks.isEmpty then " " else f.breaks)
    else f.text ++ f.firstBreak ++ f.breaks
  else f.text ++ f.blanks

/-- Reads a gap. A tab may not stand where the indentation of a plain scalar is expected. -/
def gap (indent : Nat) : Nat → Folding → Reader → Option (Folding × Reader)
  | 0, f, r => some (f, r)
  | n + 1, f, r =>
    match r.peek? with
    | none => some (f, r)
    | some c =>
      if isBlank c then
        if f.broken then
          if c = '\t' ∧ r.column < indent then none else gap indent n f (r.skip 1)
        else gap indent n { f with blanks := f.blanks.push c } (r.skip 1)
      else if isBreak c then
        let (text, r) := r.takeBreak
        if f.broken then gap indent n { f with breaks := f.breaks ++ text } r
        else gap indent n { f with blanks := "", firstBreak := text, broken := true } r
      else some (f, r)

end Folding

/-! ### Plain scalars -/

/-- The characters that end a plain scalar within brackets. -/
def isFlowIndicator (c : Char) : Bool := [',', '[', ']', '\x7b', '\x7d'].contains c

/-- Reads the characters of a plain scalar up to a gap or an indicator. -/
def plainRun (inFlow : Bool) : Nat → Folding → Reader → Option (Folding × Reader)
  | 0, f, r => some (f, r)
  | n + 1, f, r =>
    match r.peek? with
    | none => some (f, r)
    | some c =>
      let next := r.peekAt? 1
      if isBlank c ∨ isBreak c then some (f, r)
      else if inFlow ∧ c = ':' ∧ (next.any isFlowIndicator ∨ next = some '?') then none
      else if (c = ':' ∧ r.gapAt 1) ∨ (inFlow ∧ isFlowIndicator c) then some (f, r)
      else plainRun inFlow n (.ofText (f.joined.push c)) (r.skip 1)

/-- Reads a plain scalar, and says whether it was followed by a break. -/
def plainScalar (inFlow : Bool) (indent : Nat) :
    Nat → Folding → Reader → Option (String × Bool × Reader)
  | 0, f, r => some (f.text, f.broken, r)
  | n + 1, f, r =>
    if r.atDocumentMark ∨ r.peek? = some '#' then some (f.text, f.broken, r)
    else do
      let (f, r) ← plainRun inFlow r.bound f r
      if !(r.peek?.any fun c => isBlank c || isBreak c) then return (f.text, f.broken, r)
      let (f, r) ← Folding.gap indent r.bound f r
      if !inFlow && r.column < indent then return (f.text, f.broken, r)
      plainScalar inFlow indent n f r

/-! ### Quoted scalars -/

/-- The character of a number in hexadecimal digits. -/
def hexChar? (digits : List Char) (width : Nat) : Option Char := do
  let values ← digits.mapM hexValue?
  let n := values.foldl (fun n d => 16 * n + d) 0
  if values.length = width ∧ (n < 0xD800 ∨ (0xDFFF < n ∧ n < 0x110000)) then
    some (Char.ofNat n) else none

/-- The character that a short escape stands for. -/
def shortEscape? (c : Char) : Option Char :=
  [('0', '\x00'), ('a', '\x07'), ('b', '\x08'), ('t', '\t'), ('\t', '\t'), ('n', '\n'),
    ('v', '\x0b'), ('f', '\x0c'), ('r', '\r'), ('e', '\x1b'), (' ', ' '), ('"', '"'), ('/', '/'),
    ('\\', '\\'), ('N', '\x85'), ('_', '\xa0'), ('L', '\u2028'), ('P', '\u2029')].lookup c

/-- Reads an escape after its backslash. -/
def escape? (r : Reader) : Option (Char × Reader) := do
  let c ← r.peek?
  let width := if c = 'x' then 2 else if c = 'u' then 4 else if c = 'U' then 8 else 0
  if width = 0 then return (← shortEscape? c, r.skip 1)
  else return (← hexChar? ((r.rest.drop 1).take width) width, r.skip (1 + width))

/-- Reads the characters of a quoted scalar up to a gap, the closing quote, or an escaped break, of
which it tells. -/
def quotedRun (quote : Char) : Nat → String → Reader → Option (String × Bool × Reader)
  | 0, text, r => some (text, false, r)
  | n + 1, text, r =>
    match r.rest with
    | [] => some (text, false, r)
    | c :: rest =>
      if isBlank c ∨ isBreak c then some (text, false, r)
      else if quote = '\'' ∧ c = '\'' ∧ rest.head? = some '\'' then
        quotedRun quote n (text.push c) (r.skip 2)
      else if c = quote then some (text, false, r)
      else if quote = '"' ∧ c = '\\' then
        if rest.head?.any isBreak then some (text, true, ((r.skip 1).takeBreak).2)
        else
          match escape? (r.skip 1) with
          | some (e, r) => quotedRun quote n (text.push e) r
          | none => none
      else quotedRun quote n (text.push c) (r.skip 1)

/-- Reads a quoted scalar after its opening quote. -/
def quotedScalar (quote : Char) : Nat → String → Reader → Option (String × Reader)
  | 0, _, _ => none
  | n + 1, text, r =>
    if r.atDocumentMark ∨ r.rest.isEmpty then none
    else do
      let (text, escaped, r) ← quotedRun quote r.bound text r
      if r.peek? = some quote then return (text, r.skip 1)
      let (f, r) ← Folding.gap 0 r.bound { Folding.ofText text with broken := escaped } r
      quotedScalar quote n f.joined r

/-! ### Block scalars -/

/-- What becomes of the breaks at the end of a block. -/
inductive Chomping where
  | strip
  | clip
  | keep
deriving DecidableEq, Repr, Inhabited

/-- Reads what follows the sign of a block: how it ends, and its indentation, in any order. -/
def blockHeader (r : Reader) : Option (Chomping × Option Nat × Reader) :=
  let chomping? : Option Char → Option Chomping := fun c =>
    if c = some '+' then some .keep else if c = some '-' then some .strip else none
  let digit? : Option Char → Option Nat :=
    fun c => (c.filter Char.isDigit).map fun d => d.toNat - 48
  match chomping? r.peek?, digit? r.peek? with
  | some chomping, _ =>
    match digit? (r.peekAt? 1) with
    | some d => if d = 0 then none else some (chomping, some d, r.skip 2)
    | none => some (chomping, none, r.skip 1)
  | none, some d =>
    if d = 0 then none
    else
      match chomping? (r.peekAt? 1) with
      | some chomping => some (chomping, some d, r.skip 2)
      | none => some (.clip, some d, r.skip 1)
  | none, none => some (.clip, none, r)

/-- Goes past blanks and a comment, up to the break of the line. -/
def skipToBreak (r : Reader) : Option Reader :=
  let r := (r.takeWhile isBlank).2
  let r := if r.peek? = some '#' then (r.takeWhile (!isBreak ·)).2 else r
  match r.peek? with
  | none => some r
  | some c => if isBreak c then some r.takeBreak.2 else none

/-- Reads the indentation of the next line with text, and the breaks before it. Where the
indentation is not known yet, the deepest column is found besides. -/
def blockBreaks (indent : Option Nat) : Nat → (deepest : Nat) → (breaks : String) → Reader →
    Option (Nat × String × Reader)
  | 0, deepest, breaks, r => some (deepest, breaks, r)
  | n + 1, deepest, breaks, r =>
    let room := match indent with
      | some i => (r.rest.takeWhile (· = ' ')).length.min (i - r.column)
      | none => (r.rest.takeWhile (· = ' ')).length
    let r := r.skip room
    let deepest := max deepest r.column
    let shallow := match indent with
      | some i => decide (r.column < i)
      | none => true
    if shallow && r.peek? = some '\t' then none
    else if r.peek?.any isBreak then
      let (text, r) := r.takeBreak
      blockBreaks indent n deepest (breaks ++ text) r
    else some (deepest, breaks, r)

/-- Reads the lines of a block. -/
def blockLines (literal : Bool) (indent : Nat) :
    Nat → (text firstBreak breaks : String) → (afterBlank : Bool) → Reader →
      Option (String × String × String × Reader)
  | 0, text, firstBreak, breaks, _, r => some (text, firstBreak, breaks, r)
  | n + 1, text, firstBreak, breaks, afterBlank, r =>
    if r.column ≠ indent ∨ r.rest.isEmpty then some (text, firstBreak, breaks, r)
    else do
      let blank := r.peek?.any isBlank
      let text :=
        if !literal && firstBreak.startsWith "\n" && !afterBlank && !blank then
          (if breaks.isEmpty then text ++ " " else text) ++ breaks
        else text ++ firstBreak ++ breaks
      let (line, r) := r.takeWhile (!isBreak ·)
      let (firstBreak, r) := r.takeBreak
      let (_, breaks, r) ← blockBreaks (some indent) r.bound 0 "" r
      blockLines literal indent n (text ++ line) firstBreak breaks blank r

/-- Reads a block after its sign. The block is indented deeper than what it stands in. -/
def blockScalar (literal : Bool) (outer : Int) (r : Reader) : Option (String × Reader) := do
  let (chomping, increment, r) ← blockHeader r
  let r ← skipToBreak r
  let given := increment.map fun d => (max outer 0).toNat + d
  let (deepest, breaks, r) ← blockBreaks given r.bound 0 "" r
  let indent := given.getD (max deepest (max (outer + 1) 1).toNat)
  let (text, firstBreak, breaks, r) ← blockLines literal indent r.bound "" "" breaks false r
  let text := if chomping = .strip then text else text ++ firstBreak
  return (if chomping = .keep then text ++ breaks else text, r)

end DocGateway.Yaml
