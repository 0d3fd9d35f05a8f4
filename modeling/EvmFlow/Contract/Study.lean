import EvmFlow.Contract.Basic
import EvmFlow.Exploration.Round

/-!
# Studying the functions of a contract

A study is a contract with an exploration of one of its functions.  The steps of the exploration work
on the layout and the graph that the contract has at the time; what was begun on earlier code goes on
with the blocks of that time.  The order in which an exploration takes what it has found is left to a
schedule, and a pass over the functions of a contract has a plan, with a schedule for each of them.
-/

namespace EvmFlow

/-- An exploration of a function, under way. -/
structure Analysis where
  key : Key
  entry : Exploration.Site
  tracked : ValueSet
  visitLimit : Int
  state : Exploration.State
  /-- The editions of the contract before the present one, the last one in front. -/
  past : List Edition := []
  schedule : Exploration.Schedule := .inOrder

namespace Analysis

/-- How often a block is interpreted if nothing else is asked for. -/
def defaultVisitLimit : Int := 100

/-- An analysis of the function that begins at a block.  It keeps the jump destinations apart, or every
value. -/
def fresh (layout : Layout) (key : Key) (entry : Nat) (visitLimit : Int) (keepsAll : Bool)
    (schedule : Exploration.Schedule := .inOrder) : Analysis :=
  { key, visitLimit, schedule
    entry := { block := entry }
    tracked := if keepsAll then .empty else Exploration.trackedDestinations layout
    state := .initial entry }

/-- What the analysis works on in a contract. -/
def problem (analysis : Analysis) (contract : Contract) : Exploration.Problem :=
  { layout := contract.layout
    key := analysis.key
    entry := analysis.entry
    tracked := analysis.tracked
    visitLimit := analysis.visitLimit
    excluded := Exploration.excludedUnder contract.graph analysis.key
    past := analysis.past
    schedule := analysis.schedule }

/-- The analysis after an edition of the contract has become an earlier one. -/
def older (analysis : Analysis) (edition : Edition) : Analysis :=
  { analysis with
    entry := analysis.entry.older
    state := analysis.state.older
    past := edition :: analysis.past }

end Analysis

/-- A contract and an analysis of it. -/
structure Study where
  contract : Contract
  analysis : Analysis

namespace Study

/-- Replaces the state of the analysis. -/
def withState (study : Study) (state : Exploration.State) : Study :=
  { study with analysis := { study.analysis with state } }

/-- Replaces the graph of the contract. -/
def withGraph (study : Study) (graph : Graph) : Study :=
  { study with contract := { study.contract with graph } }

/-- Gives the contract other code; the analysis goes on with the blocks of before. -/
def renew (study : Study) (change : Contract → Outcome Contract) : Outcome Study :=
  let outcome := change study.contract
  match outcome.failure with
  | some _ =>
    { state := { study with contract := outcome.state }
      notices := outcome.notices
      failure := outcome.failure }
  | none =>
    { state := ⟨outcome.state, study.analysis.older study.contract.edition⟩
      notices := outcome.notices }

/-- The edges of the function. -/
def edges (study : Study) : Edges := study.contract.graph.edgesOf study.analysis.key

/-- What the analysis works on. -/
def problem (study : Study) : Exploration.Problem := study.analysis.problem study.contract

/-- One round of the analysis. -/
def round (study : Study) : Outcome Study :=
  let outcome := Exploration.round study.problem ⟨study.edges, study.analysis.state⟩
  let graph := study.contract.graph.withEdges study.analysis.key outcome.state.edges
  { state := (study.withGraph graph).withState outcome.state.state, failure := outcome.failure }

/-- The whole analysis. -/
def run (study : Study) : Outcome Study :=
  let outcome := Exploration.run study.problem study.contract.graph study.analysis.state
  let analysis :=
    { study.analysis with past := outcome.state.past, state := outcome.state.state }
  { state := { study with contract.graph := outcome.state.graph, analysis }
    failure := outcome.failure }

/-- One visit of a block, on the carried stack if asked for. -/
def visit (study : Study) (b : Block) (onCarried : Bool) : Study :=
  let visit := if onCarried then Exploration.visitCarried else Exploration.visit
  let ground := study.problem.current study.edges
  study.withState (visit study.problem ground b study.analysis.state)

/-- Interprets a block on a given stack and records the result, without passing it on; shows the top of
the stack after a final jump. -/
def interpret (study : Study) (b : Block) (stack : AbstractStack) :
    Study × Option AbstractValue :=
  let shown := b.interpret study.analysis.tracked stack
  (study.withState (study.analysis.state.record b shown), shown.above?)

/-- Records destinations of a jump. -/
def addTargets (study : Study) (source : Int) (targets : List Int) : Study :=
  study.withState (study.analysis.state.addTargets source targets)

end Study

/-- The schedule under which each function is explored, by its address. -/
abbrev Plan := Int → Exploration.Schedule

/-- Explores every function in the order in which things are found. -/
def Plan.inOrder : Plan := fun _ => .inOrder

namespace Contract

/-- Explores one function and notes its blocks and attributes. -/
def exploreFunction (contract : Contract) (f : Function)
    (schedule : Exploration.Schedule := .inOrder) : Outcome Contract :=
  let analysis :=
    Analysis.fresh contract.layout f.key f.entry Analysis.defaultVisitLimit false schedule
  let outcome := Study.run ⟨contract, analysis⟩
  let explored := outcome.state.contract
  match outcome.failure with
  | some _ => { state := explored, failure := outcome.failure }
  | none =>
    let blocks := outcome.state.analysis.state.explored
    { state := explored.putFunction ({ f with blocks }.judge explored.layout) }

/-- Explores functions one after the other. -/
def exploreEach (contract : Contract) : List Function → (plan : Plan := .inOrder) → Outcome Contract
  | [], _ => { state := contract }
  | f :: rest, plan =>
    (contract.exploreFunction f (plan f.start)).andThen fun contract =>
      contract.exploreEach rest plan

/-- Explores all functions of the contract. -/
def exploreFunctions (contract : Contract) (plan : Plan := .inOrder) : Outcome Contract :=
  contract.exploreEach contract.functions plan

/-- What is asked for when a contract is built, and what is left open. -/
structure Options where
  stripsMetadata : Bool := true
  findsFunctions : Bool := true
  exploresFunctions : Bool := true
  /-- Asks the exploration to keep only the jump destinations apart, which it does in any case. -/
  optimizes : Bool := true
  disassembler : Disassembler := .evm
  plan : Plan := .inOrder

/-- Builds a contract from a source. -/
def build (directory : Directory) (source : Source) (options : Options) : Outcome Contract :=
  let given := setSource blank source
  let stripped := if options.stripsMetadata then given.andThen stripMetadata else given
  if options.findsFunctions then
    let found := stripped.andThen (·.findFunctions directory options.disassembler)
    if options.exploresFunctions then found.andThen (·.exploreFunctions options.plan) else found
  else stripped

end Contract
end EvmFlow
