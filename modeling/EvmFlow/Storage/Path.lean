import EvmFlow.Failure
import EvmFlow.Text.Split

/-!
# Paths and locations

A path is text, with its parts between slashes.  A location is a place in the tree of folders; which one a
path leads to depends on the tree.
-/

namespace EvmFlow

/-- A place in the tree of folders. -/
structure Location where
  /-- How many folders above the working folder the parts begin; `none` if they begin at the root. -/
  above : Option Nat := some 0
  /-- The names on the way down. -/
  parts : List String := []
deriving DecidableEq

namespace Location

/-- The working folder. -/
def working : Location := {}

/-- The root of the tree. -/
def root : Location := { above := none }

/-- The place of a name in a folder. -/
def child (place : Location) (name : String) : Location :=
  { place with parts := place.parts ++ [name] }

/-- The folder above; the root is above itself. -/
def parent (place : Location) : Location :=
  if place.parts.isEmpty then { above := place.above.map (· + 1) }
  else { place with parts := place.parts.dropLast }

/-- The path of a location. -/
def text (place : Location) : String :=
  let below := "/".intercalate place.parts
  match place.above with
  | none => "/" ++ below
  | some n => String.join (List.replicate n "../") ++ below

end Location

namespace Path

/-- The parts of a path; those between two slashes, or beside one at an end, are empty. -/
def pieces (path : String) : List String :=
  (Split.parts '/' path.toList).map String.ofList

/-- Where a path begins. -/
def start (path : String) : Location :=
  if path.toList.head? = some '/' then .root else .working

/-- The parts of a path without the empty ones at its end. -/
def trimmed (path : String) : List String :=
  ((pieces path).reverse.dropWhile (· = "")).reverse

/-- Whether a path ends in a slash. -/
def endsInSlash (path : String) : Bool := path.toList.getLast? = some '/'

/-- Whether a part is the name of an entry, and not a way to say this folder or the one above. -/
def isName (piece : String) : Bool := piece ≠ "" && piece ≠ "." && piece ≠ ".."

/-- Whether a name is too long to be looked up. -/
def isTooLong (name : String) : Bool := 255 < name.utf8ByteSize

/-- The last part of a path. -/
def fileName (path : String) : String := (pieces path).getLastD ""

/-- A name inside a folder. -/
def inside (folder name : String) : String :=
  if folder = "" || endsInSlash folder then folder ++ name else folder ++ "/" ++ name

/-- A path without its last part and the slashes before that; only slashes stay as they are. -/
def folderOf (path : String) : String :=
  let front := (path.toList.reverse.dropWhile (· ≠ '/')).reverse
  if front.all (· = '/') then String.ofList front
  else String.ofList (front.reverse.dropWhile (· = '/')).reverse

end Path
end EvmFlow
