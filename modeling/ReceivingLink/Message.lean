import ReceivingLink.Storage

/-!
# Messages

A finished message is held in memory or lies in a spool. While a large message is still coming in
its accumulator stands for it.
-/

namespace ReceivingLink

structure StandardMessage where
  format : UInt32
  payload : Bytes
  deriving DecidableEq, Inhabited

/-- A message that lies in a spool. -/
structure LargeMessage where
  id : LargeMessageId
  format : UInt32
  headerPresent : Bool
  size : Nat
  spool : Spool
  deriving DecidableEq, Inhabited

inductive Message where
  | standard (message : StandardMessage)
  | large (message : LargeMessage)
  deriving DecidableEq, Inhabited

namespace Message

def format : Message → UInt32
  | standard m => m.format
  | large m => m.format

def size : Message → Nat
  | standard m => m.payload.length
  | large m => m.size

def isLarge : Message → Bool
  | standard _ => false
  | large _ => true

def spool? : Message → Option Spool
  | standard _ => none
  | large m => some m.spool

end Message

/-- A large message that is coming in. -/
structure Accumulator where
  id : LargeMessageId
  format : UInt32
  /-- The bytes it was started with begin with a header section. -/
  headerPresent : Bool := false
  /-- How many bytes were written to the spool. -/
  size : Nat := 0
  /-- A write failed, so bytes are missing. -/
  incomplete : Bool := false
  spool : Spool
  deriving DecidableEq, Inhabited

/-- The message that a finished accumulator stands for. -/
def Accumulator.message (a : Accumulator) : LargeMessage :=
  { id := a.id, format := a.format, headerPresent := a.headerPresent, size := a.size,
    spool := a.spool }

end ReceivingLink
