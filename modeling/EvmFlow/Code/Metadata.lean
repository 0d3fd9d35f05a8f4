import EvmFlow.Code.Source

/-!
# Metadata trailers

A compiler appends to the code a record with a hash of the contract's metadata: a fixed header, 32
bytes, a fixed end.  Removing the trailers leaves the rest of the code in order.
-/

namespace EvmFlow
namespace Metadata

/-- The bytes with which a trailer begins. -/
def header : Code := [0xa1, 0x65, 0x62, 0x7a, 0x7a, 0x72, 0x30, 0x58, 0x20]

/-- The bytes with which a trailer ends. -/
def footer : Code := [0x00, 0x29]

/-- The number of bytes of a trailer. -/
def size : Nat := 43

/-- Whether bytes begin with a trailer. -/
def fits (bytes : Code) : Bool :=
  header.isPrefixOf bytes && footer.isPrefixOf (bytes.drop 41)

/-- The code without its trailers. -/
def strip (code : Code) : Code :=
  Window.replaced [] (Window.cut size fits code)

end Metadata
end EvmFlow
