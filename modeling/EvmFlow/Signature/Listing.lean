import EvmFlow.Text.Split

/-!
# A compact listing of signatures

Signatures are listed in alphabetical order, one a line.  The first character of a line says how many
characters it has in common with the line before (`0` none, `1` one, and so on through the ASCII
characters).  An opening bracket introduces the parameters: one letter for each common type, and any
other type between angle brackets.  In the rest of a line some signs stand for common words.
-/

namespace EvmFlow
namespace Listing

/-- The types that have a letter of their own. -/
def typeName? : Char → Option String
  | 'a' => some "uint256"
  | 'b' => some "address"
  | 'c' => some "string"
  | 'd' => some "bytes32"
  | 'e' => some "uint8"
  | 'f' => some "bool"
  | 'g' => some "address[]"
  | 'h' => some "uint256[]"
  | 'i' => some "uint32"
  | 'j' => some "bytes"
  | 'k' => some "uint16"
  | 'l' => some "uint64"
  | 'm' => some "int256"
  | 'n' => some "uint128"
  | 'o' => some "bytes32[]"
  | 'p' => some "uint8[]"
  | 'q' => some "bytes16"
  | 'r' => some "bytes20"
  | 's' => some "bytes4"
  | 't' => some "uint40"
  | 'u' => some "bytes8"
  | 'v' => some "address[2]"
  | 'w' => some "uint32[]"
  | 'x' => some "bytes32[2]"
  | 'y' => some "uint256[2]"
  | 'z' => some "uint256[8]"
  | 'A' => some "bytes1"
  | 'B' => some "int256[]"
  | 'C' => some "slice"
  | 'D' => some "bytes5"
  | 'E' => some "BTTSLib.Data storage"
  | 'F' => some "address[3]"
  | 'G' => some "bool[]"
  | 'H' => some "uint80"
  | 'I' => some "bytes2"
  | 'J' => some "uint256[3]"
  | 'K' => some "uint24"
  | 'L' => some "uint256[7]"
  | 'M' => some "uint256[5]"
  | 'N' => some "uint16[]"
  | 'O' => some "CallDatabase"
  | 'P' => some "ScheduledCallLib.CallDatabase storage"
  | 'Q' => some "address[16]"
  | 'R' => some "uint256[6]"
  | 'S' => some "int32"
  | 'T' => some "WalletMainLib.WalletData storage"
  | 'U' => some "uint[]"
  | 'V' => some "uint192"
  | 'W' => some "bytes3"
  | 'X' => some "bytes12"
  | 'Y' => some "StarCoinLibrary.Data storage"
  | 'Z' => some "Index"
  | '0' => some "int8"
  | '1' => some "RLPItem"
  | '2' => some "uint256[4]"
  | '3' => some "uint64[]"
  | '4' => some "uint88"
  | '5' => some "Pool"
  | '6' => some "ResourcePoolLib.Pool storage"
  | '7' => some "EvenDistroCrowdsaleLib.EvenDistroCrowdsaleStorage storage"
  | _ => none

/-- The words that have a sign of their own. -/
def word? : Char → Option String
  | '!' => some "Address"
  | '$' => some "Token"
  | '&' => some "Contract"
  | '=' => some "Balance"
  | '?' => some "Amount"
  | '@' => some "Time"
  | '^' => some "Price"
  | '~' => some "tion"
  | '|' => some "Wallet"
  | ';' => some "Transfer"
  | _ => none

/-- Text with the words that its signs stand for. -/
def expand (text : List Char) : List Char :=
  text.flatMap fun c => ((word? c).map String.toList).getD [c]

/-- Completes each line with what it has in common with the one before. -/
def complete : List Char → List (List Char) → List (List Char)
  | _, [] => []
  | previous, [] :: rest => complete previous rest
  | previous, (mark :: suffix) :: rest =>
    let line := previous.take (mark.toNat - 48) ++ expand suffix
    line :: complete line rest

/-- The types that a list of letters and names in angle brackets stands for; the name being read is
kept in reverse. -/
def types : Option (List Char) → List Char → List String
  | _, [] => []
  | none, '<' :: rest => types (some []) rest
  | none, letter :: rest => (typeName? letter).getD "" :: types none rest
  | some name, '>' :: rest => String.ofList name.reverse :: types none rest
  | some name, c :: rest => types (some (c :: name)) rest

/-- The signature that a complete line stands for. -/
def signature (line : List Char) : String :=
  let name := line.takeWhile (· ≠ '(')
  let parameters := ",".intercalate (types none (line.drop (name.length + 1)))
  String.ofList name ++ "(" ++ parameters ++ ")"

/-- The signatures of a listing. -/
def signatures (text : String) : List String :=
  (complete [] (Split.parts '\n' text.toList)).map signature

end Listing
end EvmFlow
