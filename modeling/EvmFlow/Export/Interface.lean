import EvmFlow.Contract.Function

/-!
# The interface of a contract

The functions of a contract as a JSON document: selector, address, signature if it is known, and
attributes.
-/

namespace EvmFlow
namespace Interface

/-- A list between brackets. -/
def listText (items : List String) : String :=
  "[" ++ ", ".intercalate items ++ "]"

/-- A field of an object. -/
def field (name value : String) : String :=
  Quoted.json name ++ ": " ++ value

/-- The signature of a function, unless it has none but its selector. -/
def signatureText (f : Function) : String :=
  if f.name = Hex.literal f.key then "null" else Quoted.json f.name

/-- One function. -/
def functionText (f : Function) : String :=
  "\x7b" ++ ", ".intercalate
    [ field "hash_id" (Quoted.json (Hex.literal f.key)),
      field "start_addr" (Quoted.json (Hex.literal f.start)),
      field "signature" (signatureText f),
      field "attributes" (listText (f.attributes.map Quoted.json)) ] ++ "\x7d"

/-- The document on some functions. -/
def text (functions : List Function) : String :=
  listText (functions.map functionText)

end Interface
end EvmFlow
