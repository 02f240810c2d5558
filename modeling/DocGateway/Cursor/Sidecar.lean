/-!
# State that stages keep

A stage may keep items under keys of its own: beside a cursor, a client connection or a single
request. An item is read as the type that it was stored with; under any other type it is not there.
-/

namespace DocGateway

/-- What a stage can keep under a key. -/
inductive SidecarItem where
  | text (s : String)
  | number (n : Int64)
deriving DecidableEq, Repr, Inhabited

/-- Items by key. -/
structure Sidecar where
  items : List (String × SidecarItem)
deriving DecidableEq, Repr, Inhabited

namespace Sidecar

/-- No items. -/
def empty : Sidecar := ⟨[]⟩

def size (s : Sidecar) : Nat := s.items.length

def isEmpty (s : Sidecar) : Bool := s.items.isEmpty

/-- The item under a key. -/
def get? (s : Sidecar) (key : String) : Option SidecarItem := s.items.lookup key

def contains (s : Sidecar) (key : String) : Bool := (s.get? key).isSome

/-- Removes the item under a key. -/
def erase (s : Sidecar) (key : String) : Sidecar := ⟨s.items.filter (·.1 != key)⟩

/-- Puts an item under a key, in place of the present one. -/
def insert (s : Sidecar) (key : String) (item : SidecarItem) : Sidecar :=
  ⟨(key, item) :: (s.erase key).items⟩

/-- The text under a key. -/
def text? (s : Sidecar) (key : String) : Option String :=
  match s.get? key with
  | some (.text t) => some t
  | _ => none

/-- The number under a key. -/
def number? (s : Sidecar) (key : String) : Option Int64 :=
  match s.get? key with
  | some (.number n) => some n
  | _ => none

/-- Adds one to the number under a key, if there is one. -/
def bump (s : Sidecar) (key : String) : Sidecar :=
  match s.number? key with
  | some n => s.insert key (.number (n + 1))
  | none => s

end Sidecar

end DocGateway
