import EvmFlow.Export.Dot
import EvmFlow.Storage.Path

/-!
# The tree of files

Folders and files as a value, and the operations on them that the program needs: to read and write a
file, and to make folders.  Each operation walks along a path from folder to folder, and fails where a
folder is missing or something else is in its place.
-/

namespace EvmFlow

/-- The content of a file. -/
inductive Content
  | raw (bytes : Code)
  | plain (text : String)
  | drawing (dot : Dot)
deriving DecidableEq

/-- The content as bytes. -/
def Content.bytes : Content → Code
  | .raw bytes => bytes
  | .plain text => text.toUTF8.toList
  | .drawing dot => dot.text.toUTF8.toList

/-- An entry of the tree. -/
inductive Node
  | folder
  | file (content : Content)
deriving DecidableEq

/-- The entries of the tree.  The working folder, those above it and the root are always there. -/
structure Files where
  nodes : List (Location × Node) := []

namespace Files

/-- What is at a location. -/
def node? (files : Files) (place : Location) : Option Node :=
  if place.parts.isEmpty then some .folder
  else (files.nodes.find? (·.1 = place)).map Prod.snd

/-- Puts an entry in the place of the one at the same location, or at the end. -/
def putInto (place : Location) (node : Node) : List (Location × Node) → List (Location × Node)
  | [] => [(place, node)]
  | (other, old) :: rest =>
    if other = place then (place, node) :: rest else (other, old) :: putInto place node rest

/-- Puts an entry at a location. -/
def put (files : Files) (place : Location) (node : Node) : Files :=
  { nodes := putInto place node files.nodes }

/-- A location at which there has to be a folder. -/
def folder (files : Files) (place : Location) : Except FileFault Location :=
  match files.node? place with
  | none => .error .missing
  | some (.file _) => .error .notFolder
  | some .folder => .ok place

/-- One step along a path, out of a folder. -/
def follow (files : Files) (place : Location) (piece : String) : Except FileFault Location :=
  match files.folder place with
  | .error fault => .error fault
  | .ok place =>
    if piece = ".." then .ok place.parent
    else if Path.isName piece then
      if Path.isTooLong piece then .error .nameTooLong else .ok (place.child piece)
    else .ok place

/-- Follows parts one after the other. -/
def followAll (files : Files) : Location → List String → Except FileFault Location
  | place, [] => .ok place
  | place, piece :: rest =>
    match files.follow place piece with
    | .error fault => .error fault
    | .ok next => followAll files next rest

/-- The greatest number of bytes in a path. -/
def pathLimit : Nat := 4095

/-- The location a path leads to; there need not be anything. -/
def locate (files : Files) (path : String) : Except FileFault Location :=
  if path = "" then .error .missing
  else if pathLimit < path.utf8ByteSize then .error .nameTooLong
  else files.followAll (Path.start path) (Path.pieces path)

/-- The folder in which the last part of a path lies, and that part, if it is a name. -/
def locateEntry (files : Files) (path : String) :
    Except FileFault (Location × Option String) :=
  if path = "" then .error .missing
  else if pathLimit < path.utf8ByteSize then .error .nameTooLong
  else
    let parts := Path.trimmed path
    match files.followAll (Path.start path) parts.dropLast with
    | .error fault => .error fault
    | .ok place =>
      match files.folder place with
      | .error fault => .error fault
      | .ok place => .ok (place, parts.getLast?.filter Path.isName)

/-- States the reason of a failure with the path it is about. -/
def checked {α : Type} (path : String) (result : Except FileFault α) : Except Failure α :=
  if path.toList.contains (Char.ofNat 0) then .error .zeroInPath
  else result.mapError (.file · path)

/-- Whether there is something at the end of a path. -/
def has (files : Files) (path : String) : Bool :=
  match checked path (files.locate path) with
  | .ok place => (files.node? place).isSome
  | .error _ => false

/-- The content of the file at the end of a path. -/
def read (files : Files) (path : String) : Except Failure Content :=
  checked path <|
    match files.locate path with
    | .error fault => .error fault
    | .ok place =>
      match files.node? place with
      | none => .error .missing
      | some .folder => .error .isFolder
      | some (.file content) => .ok content

/-- The location at which a file can be written. -/
def writable (files : Files) (path : String) : Except FileFault Location :=
  match files.locateEntry path with
  | .error fault => .error fault
  | .ok (_, none) => .error .isFolder
  | .ok (place, some name) =>
    if Path.endsInSlash path then .error .isFolder
    else if Path.isTooLong name then .error .nameTooLong
    else if files.node? (place.child name) = some .folder then .error .isFolder
    else .ok (place.child name)

/-- Writes a file. -/
def write (files : Files) (path : String) (content : Content) : Except Failure Files :=
  checked path ((files.writable path).map fun place => files.put place (.file content))

/-- The location at which a folder can be made. -/
def vacant (files : Files) (path : String) : Except FileFault Location :=
  match files.locateEntry path with
  | .error fault => .error fault
  | .ok (_, none) => .error .occupied
  | .ok (place, some name) =>
    if Path.isTooLong name then .error .nameTooLong
    else if (files.node? (place.child name)).isSome then .error .occupied
    else .ok (place.child name)

/-- Makes a folder in one that exists. -/
def makeFolder (files : Files) (path : String) : Outcome Files :=
  match checked path (files.vacant path) with
  | .ok place => { state := files.put place .folder }
  | .error failure => { state := files, failure := some failure }

/-- A path split before its last part, with a slash at its end left out of account. -/
def splitLast (path : String) : String × String :=
  let last := Path.fileName path
  if last = "" then
    let front := Path.folderOf path
    (Path.folderOf front, Path.fileName front)
  else (Path.folderOf path, last)

/-- Makes a folder after those above it; the fuel bounds the length of the path.  A folder above that is
there by the time it is to be made is no failure. -/
def makeFolders : Nat → Files → String → Outcome Files
  | 0, files, path => files.makeFolder path
  | fuel + 1, files, path =>
    let (front, last) := splitLast path
    if front ≠ "" && last ≠ "" && !files.has front then
      let above := makeFolders fuel files front
      match above.failure with
      | some (.file .occupied _) | none =>
        if last = "." then { state := above.state } else above.state.makeFolder path
      | some _ => above
    else files.makeFolder path

/-- Makes the folder at the end of a path and those above it, unless there is something. -/
def ensureFolder (files : Files) (path : String) : Outcome Files :=
  if files.has path then { state := files } else makeFolders path.length files path

/-- The files in the working folder and below, by the names on the way to them. -/
def listed (files : Files) : List (List String × Content) :=
  files.nodes.filterMap fun
    | ({ above := some 0, parts }, .file content) => some (parts, content)
    | _ => none

/-- A tree with one file, and the folders it needs. -/
def single (path : String) (content : Content) : Files :=
  let parts := (Path.pieces path).filter Path.isName
  let folders := (List.range (parts.length - 1)).map fun n => parts.take (n + 1)
  { nodes := folders.map (fun parts => ({ parts }, .folder)) ++ [({ parts }, .file content)] }

end Files
end EvmFlow
