import DocGateway.Yaml.Token
/-!
# Events of a document

A document is a row of events: scalars, aliases, and the starts and ends of sequences and mappings.
The events are found from the tokens by a stack of what is expected next, so that no nesting is too
deep.

An anchored node has a number: how many names were anchored before it. An alias stands for the node
whose number its name had when the alias was written. Where a name is anchored anew a later node may
get the same number, and then all its aliases stand for the later node.
-/

namespace DocGateway.Yaml

/-- A piece of a document. -/
inductive Event where
  | alias (anchor : Nat)
  | scalar (style : ScalarStyle) (tag : Option Tag) (text : String)
  | sequence (tag : Option Tag)
  | sequenceEnd
  | mapping (tag : Option Tag)
  | mappingEnd
deriving DecidableEq, Repr, Inhabited

/-- The events of a document, and for each number of an anchor the place of its node. -/
structure Outline where
  events : Array Event
  anchored : Array Nat
deriving Repr, Inhabited

namespace Outline

/-- What may come next. -/
inductive Expected where
  | node (block bareEntries : Bool)
  | blockItem
  | bareItem
  | blockKey
  | blockValue
  | flowItem (first : Bool)
  | pairKey
  | pairValue
  | pairEnd
  | flowKey (first : Bool)
  | flowValue
  | noValue
deriving DecidableEq, Repr, Inhabited

/-- What is known after some events. -/
structure Draft where
  tokens : List Token
  /-- What is expected, the innermost first. -/
  expected : List Expected
  /-- The starts of names that handles stand for. -/
  handles : List (String × List UInt8)
  /-- The names anchored so far with their numbers. -/
  names : List (String × Nat)
  outline : Outline

/-- A reader of tokens. -/
abbrev Drafting := StateT Draft Option

/-! ### Tokens -/

/-- The next token, which is not taken. -/
def next? : Drafting (Option Token) := do return (← get).tokens.head?

/-- Goes past a token. -/
def advance : Drafting Unit := modify fun d => { d with tokens := d.tokens.tail }

/-- Goes past a given token, if it comes next. -/
def accept (t : Token) : Drafting Bool := do
  if (← next?) = some t then
    advance
    return true
  else return false

/-- Whether one of some tokens comes next. -/
def isNext (ts : List Token) : Drafting Bool := do return (← next?).any ts.contains

/-! ### Events -/

/-- Expects some things, the first one next. -/
def expect (es : List Expected) : Drafting Unit :=
  modify fun d => { d with expected := es ++ d.expected }

/-- Adds an event. -/
def emit (e : Event) : Drafting Unit :=
  modify fun d => { d with outline := { d.outline with events := d.outline.events.push e } }

/-- Adds what stands where nothing is written. -/
def emitNothing : Drafting Unit := emit (.scalar .plain none "")

/-- Gives a name to the node that comes next. -/
def anchor (name : String) : Drafting Unit :=
  modify fun d =>
    let number := d.names.length
    let place := d.outline.events.size
    -- a name that is given again frees its number for the next one
    let anchored := d.outline.anchored
    let anchored :=
      if number < anchored.size then anchored.setIfInBounds number place else anchored.push place
    { d with
      names := (name, number) :: d.names.filter (·.1 ≠ name)
      outline := { d.outline with anchored } }

/-- The name of a type, from a handle and the rest of the name. -/
def resolve (handle : String) (rest : List UInt8) : Drafting Tag := do
  if handle.isEmpty then return ⟨rest⟩
  else
    let start ← ((← get).handles.lookup handle : Option (List UInt8))
    return ⟨start ++ rest⟩

/-! ### Nodes -/

/-- Reads the anchor and the type of a node, in any order. -/
def properties : Drafting (Option String × Option Tag) := do
  match ← next? with
  | some (.anchor name) =>
    advance
    match ← next? with
    | some (.tag handle rest) => do
      advance
      return (some name, some (← resolve handle rest))
    | _ => return (some name, none)
  | some (.tag handle rest) =>
    advance
    match ← next? with
    | some (.anchor name) => do
      advance
      return (some name, some (← resolve handle rest))
    | _ => return (none, some (← resolve handle rest))
  | _ => return (none, none)

/-- Reads the start of a node after its anchor and its type. Entries without a block of their own
may only be the value or the key of a field. -/
def content (block bareEntries known : Bool) (tag : Option Tag) : Drafting Unit := do
  match ← next? with
  | some (.scalar style text) =>
    advance
    emit (.scalar style tag text)
  | some .flowSequence =>
    advance
    emit (.sequence tag)
    expect [.flowItem true]
  | some .flowMapping =>
    advance
    emit (.mapping tag)
    expect [.flowKey true]
  | token =>
    -- the entry is not taken, as it is read like those after it
    if token = some .entry ∧ bareEntries then
      emit (.sequence tag)
      expect [.bareItem]
    else if token = some .blockSequence ∧ block then
      advance
      emit (.sequence tag)
      expect [.blockItem]
    else if token = some .blockMapping ∧ block then
      advance
      emit (.mapping tag)
      expect [.blockKey]
    -- a node with a name or a type alone is empty
    else if known then emit (.scalar .plain tag "")
    else failure

/-- Reads the start of a node. -/
def node (block bareEntries : Bool) : Drafting Unit := do
  if let some (.alias name) ← next? then
    advance
    emit (.alias (← ((← get).names.lookup name : Option Nat)))
  else
    let (name, tag) ← properties
    if let some name := name then anchor name
    content block bareEntries (name.isSome || tag.isSome) tag

/-- Expects a node, unless one of some tokens comes next, and something after it. -/
def nodeUnless (ends : List Token) (block bareEntries : Bool) (after : Expected) :
    Drafting Unit := do
  if ← isNext ends then
    emitNothing
    expect [after]
  else expect [.node block bareEntries, after]

/-- Expects a value, if its sign comes next, and something after it. -/
def valueUnless (ends : List Token) (block bareEntries : Bool) (after : Expected) :
    Drafting Unit := do
  if ← accept .value then nodeUnless ends block bareEntries after
  else
    emitNothing
    expect [after]

/-! ### Blocks -/

/-- Reads the start of an entry of a block, or the end of the block. -/
def blockItem : Drafting Unit := do
  if ← accept .blockEnd then emit .sequenceEnd
  else if ← accept .entry then nodeUnless [.entry, .blockEnd] true false .blockItem
  else failure

/-- Reads the start of an entry that stands in the column of the field it belongs to. -/
def bareItem : Drafting Unit := do
  if ← accept .entry then nodeUnless [.entry, .key, .value, .blockEnd] true false .bareItem
  else emit .sequenceEnd

/-- The tokens that end a key or a value of a block. -/
def fieldEnds : List Token := [.key, .value, .blockEnd]

/-- Reads the start of a field of a block, or the end of the block. -/
def blockKey : Drafting Unit := do
  if ← accept .blockEnd then emit .mappingEnd
  else if ← accept .key then nodeUnless fieldEnds true true .blockValue
  else failure

/-! ### Brackets -/

/-- Goes past the comma before an item that is not the first, and says whether the closing bracket
follows, which it goes past. -/
def closes (first : Bool) (closing : Token) : Drafting Bool := do
  if ← accept closing then return true
  else if first then return false
  else if ← accept .separator then accept closing
  else failure

/-- The tokens that end an item. -/
def itemEnds : List Token := [.separator, .flowSequenceEnd]

/-- Reads the start of an item in brackets, which may be a single field, or the end of the
sequence. -/
def flowItem (first : Bool) : Drafting Unit := do
  if ← closes first .flowSequenceEnd then emit .sequenceEnd
  -- a single field in brackets is a mapping of its own
  else if ← accept .key then
    emit (.mapping none)
    expect [.pairKey, .flowItem false]
  else expect [.node false false, .flowItem false]

/-- Reads the key of a single field. Where there is none, the token that says so is passed over. -/
def pairKey : Drafting Unit := do
  if ← isNext (.value :: itemEnds) then
    advance
    emitNothing
    expect [.pairValue]
  else expect [.node false false, .pairValue]

/-- The tokens that end a field in brackets. -/
def flowFieldEnds : List Token := [.separator, .flowMappingEnd]

/-- Reads the start of a field in brackets, or the end of the mapping. -/
def flowKey (first : Bool) : Drafting Unit := do
  if ← closes first .flowMappingEnd then emit .mappingEnd
  else if ← accept .key then nodeUnless (.value :: flowFieldEnds) false false .flowValue
  else expect [.node false false, .noValue]

/-- Adds an empty value, and expects the next field in brackets. -/
def noValue : Drafting Unit := do
  emitNothing
  expect [.flowKey false]

/-! ### A text -/

/-- Reads what is expected. -/
def meet : Expected → Drafting Unit
  | .node block bareEntries => node block bareEntries
  | .blockItem => blockItem
  | .bareItem => bareItem
  | .blockKey => blockKey
  | .blockValue => valueUnless fieldEnds true true .blockKey
  | .flowItem first => flowItem first
  | .pairKey => pairKey
  | .pairValue => valueUnless itemEnds false false .pairEnd
  | .pairEnd => emit .mappingEnd
  | .flowKey first => flowKey first
  | .flowValue => valueUnless flowFieldEnds false false (.flowKey false)
  | .noValue => noValue

/-- Reads until nothing is expected any more. -/
def complete : Nat → Draft → Option Draft
  | 0, _ => none
  | n + 1, d =>
    match d.expected with
    | [] => some d
    | e :: es => do
      let (_, d) ← (meet e).run { d with expected := es }
      complete n d

/-- Reads the directives in front of a document: at most one version, and handles that differ. -/
def directives : (versioned : Bool) → (handles : List (String × List UInt8)) → List Token →
    Option (List (String × List UInt8) × List Token)
  | versioned, handles, .version major minor :: ts =>
    if versioned ∨ major ≠ 1 ∨ (minor ≠ 1 ∧ minor ≠ 2) then none else directives true handles ts
  | versioned, handles, .shorthand handle start :: ts =>
    if handles.any (·.1 = handle) then none
    else directives versioned ((handle, start) :: handles) ts
  | _, handles, ts => some (handles, ts)

/-- The handles that need no directive. -/
def standardHandles : List (String × List UInt8) :=
  [("!", Utf8.encode "!"), ("!!", (Tag.core "").bytes)]

/-- Whether a token ends the document or stands in front of the next one. -/
def isOutside : Token → Bool
  | .version _ _ | .shorthand _ _ | .documentStart | .documentEnd => true
  | _ => false

/-- Reads a document whose handles are known, after its mark if it has one. Only marks of ends may
follow it. -/
def ofTokens? (handles : List (String × List UInt8)) (start : Drafting Unit) (tokens : List Token) :
    Option Outline := do
  let (_, draft) ← start.run ⟨tokens, [], handles ++ standardHandles, [], ⟨#[], #[]⟩⟩
  let draft ← complete (8 * tokens.length + 8) draft
  if draft.tokens.all (· = .documentEnd) then return draft.outline else none

/-- The document of a text, or nothing if the text has none. A text has at most one. -/
def ofText? (text : String) : Option (Option Outline) := do
  let tokens ← Token.ofText? text
  let root := expect [.node true false]
  match tokens with
  | [] => return none
  | first :: _ =>
    -- a document without a mark in front has no directives either
    if !isOutside first || first = .documentEnd then return some (← ofTokens? [] root tokens)
    let (handles, rest) ← directives false [] tokens
    match rest with
    | .documentStart :: body =>
      return some (← ofTokens? handles
        (if body.head?.all isOutside then emitNothing else root) body)
    | _ => none

end Outline

end DocGateway.Yaml
