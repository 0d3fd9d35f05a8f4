import EvmFlow.CommandLine.Execution
import EvmFlow.Signature.Known

/-!
# The command

Looks at the files that the arguments name, and prints and writes what the analysis yields.
-/

namespace EvmFlow
namespace CommandLine

/-- What is at the end of a path, with the content of a file only if it is wanted. -/
def observeNode (path : String) (wantsContent : Bool) : IO (Option Node) := do
  let entry := IO.FS.DirEntry.mk path ""
  if ← entry.root.isDir then return some .folder
  if ← entry.root.pathExists then
    if wantsContent then
      return some (.file (.raw (← IO.FS.readBinFile path).toList))
    return some (.file (.raw []))
  return none

/-- Adds to a tree what is found along a path. -/
def observe (files : Files) (path : String) (wantsContent : Bool) : IO Files := do
  let mut seen := files
  let mut place := Path.start path
  for piece in Path.trimmed path do
    if piece = ".." then place := place.parent
    else if Path.isName piece then
      place := place.child piece
      if let some node ← observeNode place.text wantsContent then seen := seen.put place node
  return seen

/-- Writes the entries of a tree that another tree has not. -/
def writeChanges (before after : Files) : IO Unit := do
  for (place, node) in after.nodes do
    if before.node? place ≠ some node then
      match node with
      | .folder => IO.FS.createDirAll place.text
      | .file content => IO.FS.writeBinFile place.text ⟨content.bytes.toArray⟩

/-- Does what the arguments ask for, and returns the status of the command. -/
def start (arguments : List String) : IO UInt32 := do
  match parse arguments with
  | .error status =>
    IO.eprintln "usage: evm-cfg-builder contract.evm [flag]"
    return status.toUInt32
  | .ok (target, options) =>
    let folders ← observe (← observe {} options.graphFolder false) options.interfaceFile false
    let files ← observe folders target true
    let outcome := execute Directory.known target options files none
    for line in outcome.state.info do
      IO.eprintln ("INFO:evm-cfg-builder:" ++ line)
    for line in outcome.state.written.complaints do
      IO.eprintln ("ERROR:evm-cfg-builder:" ++ line)
    writeChanges files outcome.state.written.files
    match outcome.failure with
    | some failure =>
      IO.eprintln failure.message
      return 1
    | none => return 0

end CommandLine
end EvmFlow

/-- The command. -/
def main (arguments : List String) : IO UInt32 :=
  EvmFlow.CommandLine.start arguments
