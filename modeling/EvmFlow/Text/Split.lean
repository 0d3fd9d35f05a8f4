/-!
# Splitting text

Text is split at every occurrence of a character; the parts, joined by that character, are the text.
-/

namespace EvmFlow
namespace Split

/-- Puts a character in front of the first part. -/
def extend (c : Char) : List (List Char) → List (List Char)
  | [] => [[c]]
  | part :: rest => (c :: part) :: rest

/-- The parts of a text between the occurrences of a character; there is always one. -/
def parts (separator : Char) (text : List Char) : List (List Char) :=
  text.foldr (fun c rest => if c = separator then [] :: rest else extend c rest) [[]]

end Split
end EvmFlow
