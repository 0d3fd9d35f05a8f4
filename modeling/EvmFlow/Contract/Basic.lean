import EvmFlow.Code.Metadata
import EvmFlow.Contract.Dispatch
import EvmFlow.Signature.Directory

/-!
# Contracts

A contract is its code with what has been worked out of it: the layout, the graphs and the functions.
Giving it other code drops all that was worked out.
-/

namespace EvmFlow

/-- Code, and what has been worked out of it. -/
structure Contract where
  code : Option Code
  layout : Layout := .empty
  graph : Graph := {}
  /-- The functions, at most one for each address, in the order in which the addresses were found. -/
  functions : List Function := []

namespace Contract

/-- The layout and the graphs of a contract. -/
def edition (contract : Contract) : Edition := ⟨contract.layout, contract.graph⟩

/-- A contract with no byte of code. -/
def blank : Contract := { code := some [] }

/-- Gives a contract the code of a source; on failure nothing changes. -/
def setSource (contract : Contract) : Source → Outcome Contract
  | .unsupported => { state := contract, failure := some .unsupportedCode }
  | source =>
    match source.convert with
    | .error failure =>
      { state := contract, notices := source.notices, failure := some failure }
    | .ok code => { state := { blank with code }, notices := source.notices }

/-- Removes the metadata from the code. -/
def stripMetadata (contract : Contract) : Outcome Contract :=
  match contract.code with
  | none => { state := contract, failure := some .nothingToStrip }
  | some code => contract.setSource (.raw (Metadata.strip code))

/-- Works out the layout, unless that is done. -/
def layOut (contract : Contract) (d : Disassembler := .evm) : Outcome Contract :=
  if contract.layout.blocks.isEmpty then
    match contract.code with
    | none => { state := contract, failure := some .nothingToDisassemble }
    | some code => { state := { contract with layout := .ofCode code d } }
  else { state := contract }

/-- The function listed under an address. -/
def functionAt? (contract : Contract) (address : Int) : Option Function :=
  contract.functions.find? (·.start == address)

/-- Lists a function, in the place of the one under the same address if there is one. -/
def listFunction (f : Function) : List Function → List Function
  | [] => [f]
  | g :: rest => if g.start = f.start then f :: rest else g :: listFunction f rest

/-- Adds a function, or replaces the one under its address. -/
def putFunction (contract : Contract) (f : Function) : Contract :=
  { contract with functions := listFunction f contract.functions }

/-- The block at which the contract begins. -/
def entryBlock (contract : Contract) : Except Failure Block :=
  match contract.layout.blockAt? 0 with
  | some b => .ok b
  | none => .error (.missingBlock 0)

/-- Adds the functions that a walk from a block of the dispatcher finds. -/
def walkDispatcher (contract : Contract) (b : Block) (isEntry : Bool) : Outcome Contract :=
  let walk := Dispatch.walk contract.layout b isEntry
  { state :=
      walk.found.foldl (fun contract found =>
        contract.putFunction (.unexplored found.key found.start found.entry)) contract
    failure := walk.failure }

/-- Names the functions whose selectors a directory knows. -/
def nameFunctions (contract : Contract) (directory : Directory) : Contract :=
  { contract with
    functions := contract.functions.map fun f =>
      match directory.find? f.key with
      | some name => { f with name }
      | none => f }

/-- Finds the functions, lists the dispatcher after them, and names them. -/
def findFunctions (contract : Contract) (directory : Directory) (d : Disassembler := .evm) :
    Outcome Contract :=
  (contract.layOut d).andThen fun contract =>
    match contract.entryBlock with
    | .error failure => { state := contract, failure := some failure }
    | .ok entry =>
      (contract.walkDispatcher entry true).andThen fun contract =>
        { state :=
            (contract.putFunction (.unexplored Key.dispatcher 0 entry.start)).nameFunctions
              directory }

/-- Adds the edges under a key that need no computed jump. -/
def connectSimple (contract : Contract) (key : Key) : Outcome Contract :=
  let outcome := contract.graph.addSimple contract.layout key
  { state := { contract with graph := outcome.state }, failure := outcome.failure }

/-- Marks what is reachable from a block under a key, and drops the other entries. -/
def settle (contract : Contract) (entry : Nat) (key : Key) : Outcome Contract :=
  let outcome := contract.graph.settle entry key
  { state := { contract with graph := outcome.state }, failure := outcome.failure }

/-- Whether some block has a loose edge. -/
def isLoose (contract : Contract) : Bool :=
  contract.layout.blocks.any fun b => contract.graph.isLoose b.start

/-- The numbers of functions and blocks, in words. -/
def description (contract : Contract) : String :=
  "<CFG: " ++ toString contract.functions.length ++ " Functions, " ++
    toString contract.layout.blocks.length ++ " Basic Blocks>"

end Contract
end EvmFlow
