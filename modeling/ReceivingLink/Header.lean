import ReceivingLink.Bytes

/-!
# The header section of a message

An encoded message may start with a header section, which is recognised by its descriptor. The
descriptor is a number, written in one byte or in eight.
-/

namespace ReceivingLink.Header

/-- The descriptor with its number in one byte. -/
def shortDescriptor : Bytes := [0x00, 0x53, 0x70]

/-- The descriptor with its number in eight bytes. -/
def longDescriptor : Bytes := [0x00, 0x80, 0, 0, 0, 0, 0, 0, 0, 0x70]

/-- The bytes start with a header section. -/
def isPresent (bytes : Bytes) : Bool :=
  shortDescriptor.isPrefixOf bytes || longDescriptor.isPrefixOf bytes

end ReceivingLink.Header
