/-!
# Readers of characters

A reader takes characters from the front of a text. One that fails leaves the text as it was.
-/

namespace DocGateway

/-- A reader of characters. -/
abbrev Scan := StateT (List Char) Option

namespace Scan

/-- One of some characters. -/
def oneOf (allowed : List Char) : Scan Char
  | c :: cs => if allowed.contains c then some (c, cs) else none
  | [] => none

/-- One given character. -/
def char (c : Char) : Scan Unit := do let _ ← oneOf [c]

/-- What a reader reads, or nothing if it fails. -/
def option {α : Type} (s : Scan α) : Scan (Option α) := fun cs =>
  match s cs with
  | some (a, rest) => some (some a, rest)
  | none => some (none, cs)

/-- What a reader reads that takes a whole text. -/
def all? {α : Type} (s : Scan α) (text : String) : Option α :=
  match s text.toList with
  | some (a, []) => some a
  | _ => none

end Scan

end DocGateway
