import EvmFlow.CommandLine.Arguments
import EvmFlow.Export.Drawings
import EvmFlow.Export.Interface

/-!
# What the command does

The command analyses the contract in a file, or the contracts that a compiler makes of its target.  It
names the functions it finds, and writes their drawings and the interface.
-/

namespace EvmFlow
namespace CommandLine

/-- A contract as a compiler gives it. -/
structure Compiled where
  name : String
  creation : String
  runtime : String
  /-- The signatures of its functions with their selectors. -/
  selectors : List (String × Int)

/-- What a compiler makes of the target. -/
inductive Compilation
  | refused
  | contracts (contracts : List Compiled)

/-- What the command has done so far. -/
structure Progress where
  info : List String := []
  written : Written := {}

namespace Progress

/-- Says something. -/
def say (progress : Progress) (words : List String) : Progress :=
  { progress with info := progress.info ++ words }

/-- Writes the drawings of a contract, if they are asked for. -/
def exportGraphs (progress : Progress) (options : Options) (contract : Contract) (file : String) :
    Outcome Progress :=
  if options.graphFolder = "" then { state := progress }
  else
    let outcome := progress.written.addAll contract options.graphFolder file
    { state := { progress with written := outcome.state }, failure := outcome.failure }

/-- Writes the interface of a contract, if it is asked for. -/
def exportInterface (progress : Progress) (options : Options) (contract : Contract) :
    Outcome Progress :=
  if options.interfaceFile = "" then { state := progress }
  else
    let content := Content.plain (Interface.text contract.functions)
    match progress.written.files.write options.interfaceFile content with
    | .ok files => { state := { progress with written := { progress.written with files } } }
    | .error failure => { state := progress, failure := some failure }

/-- Analyses the code of one contract and exports what is asked for. -/
def process (directory : Directory) (options : Options) (file : String) (source : Source)
    (progress : Progress) : Outcome Progress :=
  let built := Contract.build directory source
    { exploresFunctions := options.exploresFunctions, optimizes := options.optimizes }
  let told := progress.say built.notices
  match built.failure with
  | some failure => { state := told, failure := some failure }
  | none =>
    let contract := built.state
    let listed := told.say (contract.functions.map Function.summary)
    (listed.exportGraphs options contract file).andThen fun progress =>
      progress.exportInterface options contract

end Progress

/-- Lists a signature with its selector, in the place of the same signature if it is listed. -/
def listSelector (signature : String) (selector : Int) :
    List (String × Int) → List (String × Int)
  | [] => [(signature, selector)]
  | (other, old) :: rest =>
    if other = signature then (signature, selector) :: rest
    else (other, old) :: listSelector signature selector rest

/-- Signatures with their selectors, each signature once: where it came first, with what it came with
last. -/
def distinctSelectors (selectors : List (String × Int)) : List (String × Int) :=
  selectors.foldl (fun listed (signature, selector) => listSelector signature selector listed) []

/-- The directory with the selectors of a compiled contract. -/
def withSelectors (directory : Directory) (selectors : List (String × Int)) : Directory :=
  (distinctSelectors selectors).foldl
    (fun directory (signature, selector) => directory.insert selector signature) directory

/-- Analyses compiled contracts one after the other, each first as created and then as run. -/
def processCompiled (options : Options) (target : String) :
    Directory → List Compiled → Progress → Outcome Progress
  | _, [], progress => { state := progress }
  | directory, contract :: rest, progress =>
    if contract.creation = "" then processCompiled options target directory rest progress
    else
      let directory := withSelectors directory contract.selectors
      let file (kind : String) := target ++ "-" ++ contract.name ++ "-" ++ kind
      let begun := progress.say ["Analyze " ++ contract.name]
      ((begun.process directory options (file "init") (.text contract.creation)).andThen
        fun progress =>
          if contract.runtime = "" then
            { state := progress.say ["Runtime bytecode not available"] }
          else progress.process directory options (file "runtime") (.text contract.runtime)).andThen
        (processCompiled options target directory rest)

/-- Does what the options ask for with the target: with what a compiler makes of it, if one knows it,
or else with the file of that name. -/
def execute (directory : Directory) (target : String) (options : Options) (files : Files) :
    Option Compilation → Outcome Progress
  | some .refused => { state := { written := { files, complaints := ["invalid " ++ target] } } }
  | some (.contracts contracts) =>
    processCompiled options target directory contracts { written := { files } }
  | none =>
    match files.read target with
    | .error failure => { state := { written := { files } }, failure := some failure }
    | .ok content =>
      ({ info := ["Analyze " ++ target], written := { files } } : Progress).process directory
        options target (.raw content.bytes)

end CommandLine
end EvmFlow
