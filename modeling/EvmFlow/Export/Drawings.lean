import EvmFlow.Storage.Files

/-!
# Writing drawings

The drawings of a contract and of its functions are written to files, one after the other.  What is
noticed meanwhile is complained of.
-/

namespace EvmFlow

/-- Files written so far, and what was complained of meanwhile. -/
structure Written where
  files : Files := {}
  complaints : List String := []

namespace Written

/-- Writes a drawing.  A drawing with a loose edge fails once its file is open. -/
def addDrawing (written : Written) (path : String) (dot : Dot) (isLoose : Bool) : Outcome Written :=
  match written.files.write path (.drawing dot) with
  | .error failure => { state := written, failure := some failure }
  | .ok files =>
    if isLoose then { state := written, failure := some .looseEdgeShown }
    else { state := { written with files } }

/-- Writes the drawing of a function. -/
def addFunction (written : Written) (contract : Contract) (base : String) (f : Function) :
    Outcome Written :=
  let isLoose := f.blocks.any (contract.graph.edgesOf f.key).isLoose
  (written.addDrawing (base ++ f.name ++ ".dot") (Dot.ofFunction contract f) isLoose).andThen
    fun written =>
      { state := { written with complaints := written.complaints ++ Dot.complaints contract f } }

/-- Writes the drawings of functions one after the other. -/
def addEach (contract : Contract) (base : String) : List Function → Written → Outcome Written
  | [], written => { state := written }
  | f :: rest, written =>
    (written.addFunction contract base f).andThen (addEach contract base rest)

/-- Writes the drawing of the whole contract. -/
def addContract (written : Written) (contract : Contract) (base : String) : Outcome Written :=
  written.addDrawing (base ++ "FULL_GRAPH.dot") (Dot.ofContract contract) contract.isLoose

/-- Writes the drawings of a contract and of its functions into a folder, under names that begin with
the name of the contract's file. -/
def addAll (written : Written) (contract : Contract) (folder file : String) : Outcome Written :=
  let base := Path.inside folder (Path.fileName file ++ "_")
  let made := written.files.ensureFolder folder
  let ready : Outcome Written :=
    { state := { written with files := made.state }, failure := made.failure }
  (ready.andThen fun written => written.addContract contract base).andThen
    (addEach contract base contract.functions)

end Written
end EvmFlow
