import EvmFlow.Code.Window
import EvmFlow.Failure

/-!
# Code as it is given

Code comes as hexadecimal text or as bytes.  A library placeholder (two underscores, 36 characters on
one line, two underscores) stands for an address that is not known yet and becomes a fixed one.
Bytes that begin with `0x` are hexadecimal text themselves; all others are the code.
-/

namespace EvmFlow

/-- The bytes of a contract. -/
abbrev Code := List UInt8

/-- The forms in which code can be given. -/
inductive Source
  | absent
  | text (content : String)
  | raw (content : Code)
  | unsupported

namespace Placeholder

/-- The number of characters of a placeholder, and of the address that replaces it. -/
def size : Nat := 40

/-- Whether a sequence begins with a placeholder, in an alphabet with the given underscore and line
end. -/
def fits {α : Type} [BEq α] (underscore newline : α) (sequence : List α) : Bool :=
  match sequence with
  | a :: b :: rest =>
    a == underscore && b == underscore &&
      (let body := rest.take 36
       body.length == 36 && body.all (· != newline) &&
        (match rest.drop 36 with
         | c :: d :: _ => c == underscore && d == underscore
         | _ => false))
  | _ => false

/-- A text cut at its placeholders. -/
def cutText (text : List Char) : List (Window.Piece Char) :=
  Window.cut size (fits '_' '\n') text

/-- Bytes cut at their placeholders. -/
def cutBytes (bytes : Code) : List (Window.Piece UInt8) :=
  Window.cut size (fits 95 10) bytes

/-- The notice that a placeholder was replaced. -/
def notice (shown : String) : String :=
  "Replace library " ++ shown ++ " by " ++ String.ofList (List.replicate size 'A')

end Placeholder

namespace Source

/-- Hexadecimal text without its line ends and without `0x`. -/
def bareDigits (characters : List Char) : List Char :=
  match characters.filter (· ≠ '\n') with
  | '0' :: 'x' :: rest => rest
  | bare => bare

/-- The bytes a text spells. -/
def readHex (characters : List Char) : Except Failure Code :=
  (Hex.decode characters).mapError .notHexadecimal

/-- The bytes of a text, whose placeholders become 20 bytes `aa` each. -/
def readText (characters : List Char) : Except Failure Code :=
  readHex (bareDigits (Window.replaced (List.replicate Placeholder.size 'A')
    (Placeholder.cutText characters)))

/-- The code held by bytes: what they spell if they begin with `0x`, else the bytes themselves. -/
def readBytes (bytes : Code) : Except Failure Code :=
  match Window.replaced (List.replicate Placeholder.size 65) (Placeholder.cutBytes bytes) with
  | 48 :: 120 :: rest =>
    match Utf8.decode rest with
    | .error malformed => .error (.malformedText malformed)
    | .ok decoded => readHex (decoded.filter (· ≠ '\n'))
  | plain => .ok plain

/-- The code of a source; `none` if no code is given. -/
def convert : Source → Except Failure (Option Code)
  | .absent => .ok none
  | .text content => (readText content.toList).map some
  | .raw content => (readBytes content).map some
  | .unsupported => .error .unreadableCode

/-- What is said while a source is converted: one notice for each placeholder. -/
def notices : Source → List String
  | .text content =>
    (Window.found (Placeholder.cutText content.toList)).map fun placeholder =>
      Placeholder.notice (String.ofList placeholder)
  | .raw content =>
    (Window.found (Placeholder.cutBytes content)).map fun placeholder =>
      Placeholder.notice (Quoted.bytes placeholder)
  | .absent | .unsupported => []

end Source
end EvmFlow
