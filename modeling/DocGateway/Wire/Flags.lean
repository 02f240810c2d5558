/-!
# Flag words

Bits that nobody has given a meaning are kept as they are.
-/

namespace DocGateway.Wire

/-- The flag word of a legacy query. -/
structure QueryFlags where
  bits : Int32
deriving DecidableEq, Repr, Inhabited

namespace QueryFlags

/-- Whether the bit at a position is set. -/
def has (f : QueryFlags) (position : Int32) : Bool := f.bits &&& (1 <<< position) != 0

/-- The flags with the bit at a position set. -/
def set (f : QueryFlags) (position : Int32) : QueryFlags := ⟨f.bits ||| (1 <<< position)⟩

/-- The cursor stays open at the end of its data. -/
def tailable (f : QueryFlags) : Bool := f.has 1

/-- A secondary may answer. -/
def slaveOk (f : QueryFlags) : Bool := f.has 2

def oplogReplay (f : QueryFlags) : Bool := f.has 3

def noCursorTimeout (f : QueryFlags) : Bool := f.has 4

def awaitData (f : QueryFlags) : Bool := f.has 5

/-- All batches are sent without being asked for. -/
def exhaust (f : QueryFlags) : Bool := f.has 6

/-- Results of the reachable part of the data are enough. -/
def allowPartial (f : QueryFlags) : Bool := f.has 7

/-- The flags with the bit for secondaries set. -/
def withSlaveOk (f : QueryFlags) : QueryFlags := f.set 2

end QueryFlags

/-- The flag word of a command message. -/
structure MsgFlags where
  bits : UInt32
deriving DecidableEq, Repr, Inhabited

namespace MsgFlags

/-- No flags. -/
def empty : MsgFlags := ⟨0⟩

/-- Whether the message ends in a checksum. -/
def checksumPresent (f : MsgFlags) : Bool := f.bits &&& 1 != 0

/-- Whether the sender expects no reply. -/
def moreToCome (f : MsgFlags) : Bool := f.bits &&& 2 != 0

/-- The flags with the checksum bit set. -/
def withChecksum (f : MsgFlags) : MsgFlags := ⟨f.bits ||| 1⟩

/-- The flags with the bit set that asks for no reply. -/
def withMoreToCome (f : MsgFlags) : MsgFlags := ⟨f.bits ||| 2⟩

end MsgFlags

end DocGateway.Wire
