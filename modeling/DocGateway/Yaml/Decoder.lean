import DocGateway.Yaml.Event
/-!
# Reading values from a document

A decoder reads a value from the events of a document. It follows aliases to the nodes they stand
for, and comes back after them. As a document with few events may say much by its aliases, their
number is bounded.
-/

namespace DocGateway.Yaml

/-- Where a document is being read. -/
structure Cursor where
  place : Nat
  /-- The number of aliases followed so far. -/
  jumps : Nat
deriving Repr, Inhabited

/-- A reader of values. -/
abbrev Decoder := ReaderT Outline (StateT Cursor Option)

namespace Decoder

/-- Aliases may be followed this many times for each event. -/
def jumpsPerEvent : Nat := 100

/-- The number of events of the document. -/
def size : Decoder Nat := do return (← read).events.size

/-- The place of the next event. -/
def place : Decoder Nat := do return (← get).place

/-- Goes to a place. -/
def moveTo (place : Nat) : Decoder Unit := modify fun c => { c with place }

/-- The next event, which is not taken. -/
def peek : Decoder Event := do ((← read).events[← place]? : Option Event)

/-- Takes the next event. -/
def next : Decoder Event := do
  let e ← peek
  moveTo ((← place) + 1)
  return e

/-- Counts an alias that is followed. -/
def countJump : Decoder Unit := do
  let jumps := (← get).jumps + 1
  if jumpsPerEvent * (← size) < jumps then failure
  modify fun c => { c with jumps }

/-- Reads at a place, and comes back. -/
def readAt {α : Type} (there : Nat) (value : Decoder α) : Decoder α := do
  let here ← place
  moveTo there
  let found ← value
  moveTo here
  return found

/-- Reads a node, or the one that an alias stands for, by its first event. -/
def node {α : Type} (value : Event → Decoder α) : Decoder α := do
  match ← next with
  | .alias anchor => do
    countJump
    readAt (← ((← read).anchored[anchor]? : Option Nat)) (do value (← next))
  | e => value e

/-! ### Scalars -/

/-- A value that is found, or no value at all. -/
def require {α : Type} (value : Option α) : Decoder α := (value : Option α)

/-- The text of a scalar. -/
def text : Decoder String := node fun e =>
  match e with
  | .scalar _ _ text => return text
  | _ => failure

/-- The text of a scalar that may be a number or a truth value: a plain one, or a literal block of
that core type. -/
def bareText (type : String) : Decoder String := node fun e =>
  match e with
  | .scalar .plain _ text => return text
  | .scalar .literal tag text => if tag = some (.core type) then return text else failure
  | _ => failure

/-! ### Collections -/

/-- Reads items up to the end of a collection. -/
def itemsUntil {α : Type} (closing : Event) (item : Decoder α) : Nat → Array α → Decoder (Array α)
  | 0, _ => failure
  | n + 1, found => do
    if (← peek) = closing then
      moveTo ((← place) + 1)
      return found
    else
      let value ← item
      itemsUntil closing item n (found.push value)

/-- Reads the items of a sequence after its start. -/
def items {α : Type} (item : Decoder α) : Decoder (List α) := do
  return (← itemsUntil .sequenceEnd item (← size) #[]).toList

/-- Reads the fields of a mapping after its start. Their keys are texts. -/
def fields {α : Type} (value : Decoder α) : Decoder (List (String × α)) := do
  let field : Decoder (String × α) := do
    let key ← text
    return (key, ← value)
  return (← itemsUntil .mappingEnd field (← size) #[]).toList

/-- The items of a sequence. Nothing is a sequence without items. -/
def list {α : Type} (item : Decoder α) : Decoder (List α) := node fun e =>
  match e with
  | .sequence _ => items item
  | .scalar .plain _ "" => return []
  | _ => failure

/-- Goes past a node some of whose collections are open. -/
def skipOpen : Nat → (depth : Nat) → Decoder Unit
  | 0, _ => failure
  | n + 1, depth => do
    let depth ← match ← next with
      | .sequence _ | .mapping _ => pure (depth + 1)
      | .sequenceEnd | .mappingEnd => pure (depth - 1)
      | _ => pure depth
    if depth = 0 then return () else skipOpen n depth

/-- Goes past a node, without following its aliases, and tells where it is. -/
def skip : Decoder Nat := do
  let there ← place
  skipOpen (← size) 0
  return there

/-- The known fields of a mapping, and where their values are. -/
abbrev Places := List (String × Nat)

/-- The fields of a mapping of which some are known. A known field may stand there once; the others
count for nothing. Nothing is a mapping without fields. -/
def record (names : List String) : Decoder Places := node fun e =>
  match e with
  | .mapping _ => do
    let known := (← fields skip).filter fun (key, _) => names.contains key
    if (known.map (·.1)).Nodup then return known else failure
  | .scalar .plain _ "" => return []
  | _ => failure

/-- Reads the field of a name, or keeps the standard value if there is none. -/
def fieldOr {α : Type} (known : Places) (name : String) (standard : α) (value : Decoder α) :
    Decoder α :=
  match known.lookup name with
  | some there => readAt there value
  | none => return standard

/-- Reads the field of a name, which has to be there. -/
def field {α : Type} (known : Places) (name : String) (value : Decoder α) : Decoder α := do
  readAt (← require (known.lookup name)) value

end Decoder

/-- Reads the value of a document from its root. -/
def Outline.decode? {α : Type} (outline : Outline) (value : Decoder α) : Option α := do
  let (found, _) ← (value.run outline).run ⟨0, 0⟩
  return found

end DocGateway.Yaml
