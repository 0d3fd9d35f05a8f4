import Std.Data.TreeMap
import EvmFlow.Signature.Keccak

/-!
# A directory of signatures

Signatures by selector.  The selector of a signature is the first word of its Keccak-256 hash; a
directory can also hold a signature under another selector.
-/

namespace EvmFlow

/-- The selector of a signature. -/
def selector (signature : String) : Nat :=
  Keccak.firstWord (signature.toList.map fun c => c.toUInt8)

/-- Signatures by selector. -/
structure Directory where
  names : Std.TreeMap Int String := {}

namespace Directory

/-- The signature under a selector. -/
def find? (directory : Directory) (selector : Int) : Option String :=
  directory.names.get? selector

/-- Puts a signature under a selector; the last one put there stays. -/
def insert (directory : Directory) (selector : Int) (signature : String) : Directory :=
  { names := directory.names.insert selector signature }

/-- Puts signatures under their own selectors. -/
def addAll (directory : Directory) (signatures : List String) : Directory :=
  signatures.foldl (fun directory signature => directory.insert (selector signature) signature)
    directory

end Directory
end EvmFlow
