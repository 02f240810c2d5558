/-!
# Compressor names and numbers

A compression envelope names its compressor by a byte; the handshake names compressors by text.
-/

namespace DocGateway

/-- The compressors that an envelope may use. -/
inductive Compressor where
  | noop | snappy | zlib | zstd
deriving DecidableEq, Repr, Inhabited

namespace Compressor

/-- The byte that stands for a compressor. -/
def id : Compressor → UInt8
  | noop => 0
  | snappy => 1
  | zlib => 2
  | zstd => 3

/-- The name used in the handshake. -/
def name : Compressor → String
  | noop => "noop"
  | snappy => "snappy"
  | zlib => "zlib"
  | zstd => "zstd"

/-- All compressors, by ascending number. -/
def all : List Compressor := [noop, snappy, zlib, zstd]

/-- The compressor that a byte stands for. -/
def ofId? (b : UInt8) : Option Compressor := all.find? (·.id == b)

/-- The compressor with a name. -/
def ofName? (s : String) : Option Compressor := all.find? (·.name == s)

/-- `ofId?` finds a compressor by its `id`. -/
@[simp] theorem ofId?_id (c : Compressor) : ofId? c.id = some c := by cases c <;> decide

/-- `ofId?` finds a compressor by no other byte. -/
theorem ofId?_eq_some_iff {b : UInt8} {c : Compressor} : ofId? b = some c ↔ b = c.id := by
  constructor
  · intro h
    have := List.find?_some h
    exact (eq_of_beq this).symm
  · rintro rfl
    exact ofId?_id c

/-- `ofName?` finds a compressor by its `name`. -/
@[simp] theorem ofName?_name (c : Compressor) : ofName? c.name = some c := by cases c <;> decide

end Compressor

end DocGateway
