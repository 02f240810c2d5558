import DocGateway.Bson.TypedKey
import DocGateway.Number.DoubleDigits
import DocGateway.Text.Base64
import DocGateway.Text.Hex
import DocGateway.Time.Instant
/-!
# Documents as relaxed extended JSON

The text is written without blanks. Integers and finite doubles are plain numbers; a value of a type
that JSON lacks is an object whose key, which starts with a dollar, names the type.
-/

namespace DocGateway.Bson.ExtendedJson

/-! ### JSON text -/

/-- A hexadecimal digit. -/
def hexDigit (n : Nat) : Char := Nat.digitChar n

/-- A character as it is written in a JSON string: only quotes, backslashes and control characters
are escaped. -/
def escape (c : Char) : List Char :=
  if c = '"' then ['\\', '"']
  else if c = '\\' then ['\\', '\\']
  else if c = '\x08' then ['\\', 'b']
  else if c = '\x09' then ['\\', 't']
  else if c = '\x0a' then ['\\', 'n']
  else if c = '\x0c' then ['\\', 'f']
  else if c = '\x0d' then ['\\', 'r']
  else if c.toNat < 32 then ['\\', 'u', '0', '0', hexDigit (c.toNat / 16), hexDigit (c.toNat % 16)]
  else [c]

/-- A JSON string. -/
def quoted (s : String) : String := String.ofList ('"' :: s.toList.flatMap escape ++ ['"'])

/-- A member of a JSON object, its value being JSON text. -/
def member (key text : String) : String := quoted key ++ ":" ++ text

/-- A JSON object of some members. -/
def object (members : List String) : String := "\x7b" ++ ",".intercalate members ++ "\x7d"

/-- A JSON array of some texts. -/
def array (items : List String) : String := "[" ++ ",".intercalate items ++ "]"

/-- The object that marks a value with its type. -/
def typed (key text : String) : String := object [member key text]

/-! ### Values of single types -/

/-- The text of a double. What is not finite has no number in JSON; the sign of a NaN is kept. -/
def double (x : Binary64) : String :=
  if x.isFinite then x.toText
  else
    let name := if x.isNaN then "NaN" else "Infinity"
    typed "$numberDouble" (quoted (if x.isNegative then "-" ++ name else name))

/-- The last millisecond of the year 9999. -/
def lastNamedInstant : Int := 253402300799999

/-- The text of a date: its name in the years 1970 to 9999, else its count of milliseconds. -/
def dateTime (ms : Int) : String :=
  typed "$date" <|
    if 0 ≤ ms ∧ ms ≤ lastNamedInstant then quoted (Instant.toText ms)
    else typed "$numberLong" (quoted (toString ms))

/-- The text of an object identifier. -/
def objectId (id : ObjectId) : String :=
  typed "$oid" (quoted id.toText)

/-- The text of a binary value. -/
def binary (subtype : UInt8) (bytes : List UInt8) : String :=
  typed "$binary" <|
    object [member "base64" (quoted (Base64.encode bytes)),
      member "subType" (quoted (Hex.encode [subtype]))]

/-- The text of a regular expression. -/
def regex (pattern options : String) : String :=
  typed "$regularExpression" <|
    object [member "pattern" (quoted pattern), member "options" (quoted (sortOptions options))]

/-- The text of a timestamp. -/
def timestamp (time increment : UInt32) : String :=
  typed "$timestamp" <|
    object [member "t" (toString time.toNat), member "i" (toString increment.toNat)]

/-- The text of a pointer into another collection. -/
def dbPointer (ns : String) (id : ObjectId) : String :=
  typed "$dbPointer" <| object [member "$ref" (quoted ns), member "$id" (objectId id)]

/-! ### All values -/

mutual

/-- The text of a value. -/
def value : Value → String
  | .double x => double x
  | .string s => quoted s
  | .document fields => object (members fields)
  | .array items => array (texts items)
  | .binary subtype bytes => binary subtype bytes
  | .undefined => typed "$undefined" "true"
  | .objectId id => objectId id
  | .boolean b => if b then "true" else "false"
  | .dateTime ms => dateTime ms.toInt
  | .null => "null"
  | .regex pattern options => regex pattern options
  | .dbPointer ns id => dbPointer ns id
  | .code source => typed "$code" (quoted source)
  | .symbol name => typed "$symbol" (quoted name)
  | .codeWithScope source scope =>
    object [member "$code" (quoted source), member "$scope" (object (members scope))]
  | .int32 n => toString n.toInt
  | .timestamp time increment => timestamp time increment
  | .int64 n => toString n.toInt
  | .decimal128 x => typed "$numberDecimal" (quoted x.toText)
  | .minKey => typed "$minKey" "1"
  | .maxKey => typed "$maxKey" "1"

/-- The members of an object, one for each field. -/
def members : List (String × Value) → List String
  | [] => []
  | (key, v) :: rest => member key (value v) :: members rest

/-- The texts of some values. -/
def texts : List Value → List String
  | [] => []
  | v :: rest => value v :: texts rest

end

/-- The text of a document. -/
def document (d : Document) : String := object (members d)

end DocGateway.Bson.ExtendedJson
