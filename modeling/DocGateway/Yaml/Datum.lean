import DocGateway.Number.DoubleText
import DocGateway.Yaml.Decoder
/-!
# What nodes of YAML say

A node is read in one of two ways. Where a certain kind is wanted, as for a number, the node must be
of that kind; a text may be any scalar. Where anything may stand, a plain scalar is what it looks
like, and becomes a `Datum`. A node of a local type is no `Datum`.
-/

namespace DocGateway.Yaml

/-! ### Scalars -/

/-- The number that one or more digits of a radix spell. -/
def digitsOf? (radix : Nat) (cs : List Char) : Option Nat := do
  let values ← cs.mapM hexValue?
  if values.isEmpty ∨ ¬ values.all (· < radix) then none
  else some (values.foldl (fun n d => radix * n + d) 0)

/-- Whether digits start with a zero that means nothing. -/
def hasIdleZero (cs : List Char) : Bool :=
  match cs with
  | '0' :: d :: ds => (d :: ds).all Char.isDigit
  | _ => false

/-- The size of a number: decimal, or after a sign for the radix. -/
def magnitude? (cs : List Char) : Option Nat :=
  match cs with
  | '0' :: 'x' :: ds => digitsOf? 16 ds
  | '0' :: 'o' :: ds => digitsOf? 8 ds
  | '0' :: 'b' :: ds => digitsOf? 2 ds
  | _ => if hasIdleZero cs then none else digitsOf? 10 cs

/-- A number without a minus sign. -/
def natural? (text : String) : Option Nat :=
  match text.toList with
  | '+' :: cs => magnitude? cs
  | cs => magnitude? cs

/-- A number with at most one sign, in a word of so many bits with or without a sign. -/
def integer? (bits : Nat) (text : String) : Option Int :=
  match text.toList with
  | '-' :: cs => ((magnitude? cs).filter (· ≤ 1 <<< (bits - 1))).map fun n => -(n : Int)
  | _ => ((natural? text).filter (· < 1 <<< bits)).map Int.ofNat

/-- A truth value. -/
def boolean? (text : String) : Option Bool :=
  if ["true", "True", "TRUE"].contains text then some true
  else if ["false", "False", "FALSE"].contains text then some false
  else none

/-- Whether a text says that nothing is there. -/
def saysNull (text : String) : Bool := ["null", "Null", "NULL", "~"].contains text

/-- A number of double precision. One without bound is nothing, but is a number all the same. -/
def double? (text : String) : Option (Option Binary64) :=
  let (signed, cs) := match text.toList with
    | '+' :: cs => (true, cs)
    | cs => (false, cs)
  if signed ∧ (cs.head? = some '+' ∨ cs.head? = some '-') then none
  else if [".inf", ".Inf", ".INF"].contains (String.ofList cs) ∨
      ["-.inf", "-.Inf", "-.INF", ".nan", ".NaN", ".NAN"].contains text then some none
  else ((Binary64.parse? (String.ofList cs)).filter Binary64.isFinite).map some

/-! ### Nodes of a certain kind -/

namespace Decoder

/-- A number of 64 bits without a sign. -/
def word : Decoder Nat := do require (((natural? (← bareText "int"))).filter (· < UInt64.size))

/-- A truth value. -/
def flag : Decoder Bool := do require (boolean? (← bareText "bool"))

end Decoder

/-! ### Nodes of any kind -/

/-- What a node of any kind says. -/
inductive Datum where
  | null
  | boolean (b : Bool)
  | integer (n : Int)
  | double (x : Binary64)
  | text (s : String)
  | list (items : List Datum)
  | record (fields : List (String × Datum))
deriving Repr, Inhabited

namespace Datum

/-- The deepest nesting of sequences and mappings. -/
def maxDepth : Nat := 128

/-- Puts a value under a key: in place of the present one, else at the end. -/
def put (fields : List (String × Datum)) (key : String) (value : Datum) : List (String × Datum) :=
  match fields with
  | [] => [(key, value)]
  | (k, v) :: rest => if k = key then (k, value) :: rest else (k, v) :: put rest key value

/-- An integer, if it is one of 64 bits with or without a sign. -/
def ofInteger? (n : Int) : Option Datum :=
  if Int64.minValue.toInt ≤ n ∧ n < UInt64.size then some (.integer n) else none

/-- A number of double precision, or nothing. -/
def ofDouble (x : Option Binary64) : Datum := x.elim .null .double

/-- What a plain scalar looks like. A longer integer than any word is read in double precision. -/
def ofPlain? (written : String) : Option Datum :=
  if written = "" ∨ saysNull written then some .null
  else
    match boolean? written, integer? 128 written with
    | some b, _ => some (.boolean b)
    | none, some n => ofInteger? n
    | none, none =>
      let digits := match written.toList with
        | '+' :: cs | '-' :: cs => cs
        | cs => cs
      if hasIdleZero digits then some (.text written)
      else some ((double? written).elim (.text written) ofDouble)

/-- What a scalar of a core type says, and what any other scalar with a type. -/
def ofTagged? (style : ScalarStyle) (tag : Tag) (written : String) : Option Datum :=
  if tag = .core "bool" then (boolean? written).map .boolean
  else if tag = .core "int" then do ofInteger? (← integer? 128 written)
  else if tag = .core "float" then (double? written).map ofDouble
  else if tag = .core "null" then if saysNull written then some .null else none
  else if tag.isLocal ∧ style = .plain then ofPlain? written
  else some (.text written)

/-- What a scalar says. -/
def ofScalar? (style : ScalarStyle) (tag : Option Tag) (written : String) : Option Datum :=
  match tag with
  | some tag => ofTagged? style tag written
  | none => if style = .plain then ofPlain? written else some (.text written)

/-- Whether a node has a local type with a name. Where the bytes are no text, it counts as one
without a name. -/
def isNamed (tag : Option Tag) : Bool := (tag.bind Tag.localName?).isSome

/-- Reads what a node says by its first event, given what to do with a collection. -/
def ofEvent (items : Decoder Datum) (fields : Decoder Datum) : Event → Decoder Datum
  | .scalar style tag written =>
    if isNamed tag then failure else Decoder.require (ofScalar? style tag written)
  | .sequence tag => if isNamed tag then failure else items
  | .mapping tag => if isNamed tag then failure else fields
  | _ => failure

/-- A record of the fields of a mapping, of which the last one of a key counts. -/
def ofFields (fields : List (String × Datum)) : Datum :=
  .record (fields.foldl (fun fields (key, value) => put fields key value) [])

/-- Reads a node that is at most so many levels deep. -/
def decode : Nat → Decoder Datum
  | 0 => Decoder.node (ofEvent failure failure)
  | n + 1 =>
    Decoder.node (ofEvent (do return .list (← Decoder.items (decode n)))
      (do return ofFields (← Decoder.fields (decode n))))

end Datum

end DocGateway.Yaml
