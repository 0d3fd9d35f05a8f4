import EvmFlow.Text.Hex
import EvmFlow.Text.Printable

/-!
# Quoted text

Three ways to write a sequence between quotes: bytes as a literal, a file name in a message, and a
string of a JSON document that keeps to ASCII.
-/

namespace EvmFlow
namespace Quoted

/-- A number in lower-case hexadecimal, padded with zeros to a width. -/
def padded (width n : Nat) : List Char :=
  let written := Nat.toDigits 16 n
  List.replicate (width - written.length) '0' ++ written

/-- The quote around a text: a double quote if it holds a single quote and no double quote. -/
def quoteFor (text : List Char) : Char :=
  if text.contains '\'' && !text.contains '"' then '"' else '\''

/-- One byte of a literal: printable ASCII as it is, the usual escapes, or two digits. -/
def byteText (quote : Char) (b : UInt8) : List Char :=
  let c := Char.ofNat b.toNat
  if c = '\t' then ['\\', 't']
  else if c = '\n' then ['\\', 'n']
  else if c = '\r' then ['\\', 'r']
  else if c = '\\' || c = quote then ['\\', c]
  else if 32 ≤ b.toNat && b.toNat < 127 then [c]
  else '\\' :: 'x' :: padded 2 b.toNat

/-- Bytes as a literal: `b'...'`. -/
def bytes (content : List UInt8) : String :=
  let quote := quoteFor (content.map fun b => Char.ofNat b.toNat)
  String.ofList ('b' :: quote :: content.flatMap (byteText quote) ++ [quote])

/-- A code point as an escape, as short as it can be. -/
def codePointEscape (n : Nat) : List Char :=
  if n < 0x100 then '\\' :: 'x' :: padded 2 n
  else if n < 0x10000 then '\\' :: 'u' :: padded 4 n
  else '\\' :: 'U' :: padded 8 n

/-- One character of a quoted name: characters that do not show are escaped, all others kept. -/
def nameText (quote c : Char) : List Char :=
  if c = '\t' then ['\\', 't']
  else if c = '\n' then ['\\', 'n']
  else if c = '\r' then ['\\', 'r']
  else if c = '\\' || c = quote then ['\\', c]
  else if Printable.holds c then [c]
  else codePointEscape c.toNat

/-- A file name between quotes. -/
def name (text : String) : String :=
  let quote := quoteFor text.toList
  String.ofList (quote :: text.toList.flatMap (nameText quote) ++ [quote])

/-- A code unit of UTF-16 as a JSON escape. -/
def unitEscape (unit : Nat) : List Char :=
  '\\' :: 'u' :: padded 4 unit

/-- One character of a JSON string: ASCII only, characters beyond the first plane as two units. -/
def jsonText (c : Char) : List Char :=
  let n := c.toNat
  if c = '"' || c = '\\' then ['\\', c]
  else if c = '\n' then ['\\', 'n']
  else if c = '\r' then ['\\', 'r']
  else if c = '\t' then ['\\', 't']
  else if n = 8 then ['\\', 'b']
  else if n = 12 then ['\\', 'f']
  else if 32 ≤ n && n < 127 then [c]
  else if n < 0x10000 then unitEscape n
  else unitEscape (0xD800 + (n - 0x10000) / 0x400) ++ unitEscape (0xDC00 + (n - 0x10000) % 0x400)

/-- A JSON string that holds ASCII only. -/
def json (text : String) : String :=
  String.ofList ('"' :: text.toList.flatMap jsonText ++ ['"'])

end Quoted
end EvmFlow
