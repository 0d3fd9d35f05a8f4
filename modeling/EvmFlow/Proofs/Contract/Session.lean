import EvmFlow.Proofs.Contract.Dispatch
import EvmFlow.Proofs.Exploration.Enclosure

/-!
# Sessions

A session asks one thing after the other of a contract, and goes on after a request that fails.  All
along, what has been worked out of the code belongs to the code the contract has at the time: the
layout is empty or that of the code, functions begin at blocks of it, and edges keep to its blocks.
`Contract.Coherent` is this invariant; every request keeps it.
-/

namespace EvmFlow

open Exploration

theorem Outcome.andThen_state {σ : Type} {holds : σ → Prop} {first : Outcome σ}
    {next : σ → Outcome σ} (begin : holds first.state)
    (step : first.failure = none → holds (next first.state).state) :
    holds (first.andThen next).state := by
  rw [Outcome.andThen]
  split
  · exact begin
  · rename_i completed
    exact step completed

namespace Function

theorem exists_attributes_of_ite (refused : Prop) [Decidable refused] (f : Function)
    (word : String) :
    ∃ attributes, (if refused then f else f.withAttribute word) = { f with attributes } := by
  rw [withAttribute]
  split
  · exact ⟨f.attributes, rfl⟩
  · split
    · exact ⟨f.attributes, rfl⟩
    · exact ⟨_, rfl⟩

/-- A judgement changes nothing but the attributes. -/
theorem judge_eq (layout : Layout) (f : Function) :
    ∃ attributes, f.judge layout = { f with attributes } := by
  rw [judge]
  split
  · exact ⟨f.attributes, rfl⟩
  · obtain ⟨payable, payable_eq⟩ : ∃ attributes, f.judgePayable layout = { f with attributes } :=
      exists_attributes_of_ite _ _ _
    obtain ⟨view, view_eq⟩ : ∃ attributes, (f.judgePayable layout).judgeView layout =
        { f.judgePayable layout with attributes } := exists_attributes_of_ite _ _ _
    obtain ⟨pure, pure_eq⟩ : ∃ attributes,
        ((f.judgePayable layout).judgeView layout).judgePure layout =
          { (f.judgePayable layout).judgeView layout with attributes } :=
      exists_attributes_of_ite _ _ _
    exact ⟨pure, by rw [pure_eq, view_eq, payable_eq]⟩

/-- The function with no more than its key, its address, its entry and its name. -/
def bare (f : Function) : Function := { f with attributes := [], blocks := [] }

theorem kin_of_bare_eq {f g : Function} (bare_eq : f.bare = g.bare) : f.Kin g := by
  simp only [bare, mk.injEq] at bare_eq
  exact ⟨bare_eq.1, bare_eq.2.1, bare_eq.2.2.1⟩

theorem bare_judge (layout : Layout) (f : Function) : (f.judge layout).bare = f.bare := by
  obtain ⟨attributes, judged⟩ := judge_eq layout f
  rw [judged]
  rfl

end Function

namespace Contract

/-! ## The invariant -/

/-- What has been worked out of a contract belongs to its code. -/
structure Coherent (d : Disassembler) (contract : Contract) : Prop where
  laidOut : contract.layout = .empty ∨
    ∃ code, contract.code = some code ∧ contract.layout = .ofCode code d
  entered : ∀ f ∈ contract.functions, ∃ b ∈ contract.layout.blocks, b.start = f.entry
  enclosed : ∀ key, (contract.graph.edgesOf key).Enclosed contract.layout

theorem coherent_new (code : Option Code) (d : Disassembler) : Contract.Coherent d { code } where
  laidOut := .inl rfl
  entered f member := by cases member
  enclosed key := (Graph.vacant_edgesOf_empty key).enclosed _

section Requests

variable {contract : Contract} {d : Disassembler}

theorem setSource_cases (contract : Contract) (source : Source) :
    (contract.setSource source).state = contract ∨
      ∃ code, (contract.setSource source).state = { code } := by
  rw [setSource.eq_def]
  split
  · exact .inl rfl
  · split
    · exact .inl rfl
    · exact .inr ⟨_, rfl⟩

theorem Coherent.setSource (coherent : contract.Coherent d) (source : Source) :
    (contract.setSource source).state.Coherent d := by
  rcases contract.setSource_cases source with kept | ⟨code, replaced⟩
  · rw [kept]
    exact coherent
  · rw [replaced]
    exact coherent_new code d

theorem Coherent.stripMetadata (coherent : contract.Coherent d) :
    contract.stripMetadata.state.Coherent d := by
  rw [Contract.stripMetadata]
  split
  · exact coherent
  · exact coherent.setSource _

/-- A layout without blocks has neither functions nor edges that another layout could lack. -/
theorem Coherent.layOut (coherent : contract.Coherent d) :
    (contract.layOut d).state.Coherent d := by
  rw [Contract.layOut]
  split
  · rename_i unlaid
    have empty : contract.layout.blocks = [] := List.isEmpty_iff.1 unlaid
    split
    · exact coherent
    · rename_i code given
      refine ⟨.inr ⟨code, given, rfl⟩, ?_, fun key =>
        (coherent.enclosed key).of_blocks_eq_nil empty _⟩
      intro f member
      simpa [empty] using coherent.entered f member
  · exact coherent

theorem Coherent.putFunction (coherent : contract.Coherent d) {f : Function}
    (entered : ∃ b ∈ contract.layout.blocks, b.start = f.entry) :
    (contract.putFunction f).Coherent d := by
  refine ⟨coherent.laidOut, fun g member => ?_, coherent.enclosed⟩
  rcases mem_of_mem_listFunction member with rfl | member
  · exact entered
  · exact coherent.entered g member

theorem Coherent.walkDispatcher (coherent : contract.Coherent d) (b : Block) (isEntry : Bool) :
    (contract.walkDispatcher b isEntry).state.Coherent d := by
  rw [walkDispatcher_state]
  refine ⟨coherent.laidOut, fun f member => ?_, coherent.enclosed⟩
  rcases mem_listFound member with member | ⟨new, new_mem, rfl⟩
  · exact coherent.entered f member
  · exact (Dispatch.walk_fits contract.layout b isEntry new new_mem).entered

theorem Coherent.nameFunctions (coherent : contract.Coherent d) (directory : Directory) :
    (contract.nameFunctions directory).Coherent d := by
  refine ⟨coherent.laidOut, List.forall_mem_map.2 fun f member => ?_, coherent.enclosed⟩
  have kin : (named directory f).Kin f := kin_named directory f
  obtain ⟨b, b_mem, start_eq⟩ := coherent.entered f member
  exact ⟨b, b_mem, start_eq.trans kin.entry_eq.symm⟩

theorem Coherent.findFunctions (coherent : contract.Coherent d) (directory : Directory) :
    (contract.findFunctions directory d).state.Coherent d := by
  rw [Contract.findFunctions]
  refine Outcome.andThen_state coherent.layOut fun _ => ?_
  have laid := coherent.layOut
  generalize (contract.layOut d).state = contract at laid
  cases entry_eq : contract.entryBlock with
  | error failure => exact laid
  | ok entry =>
      refine Outcome.andThen_state (laid.walkDispatcher entry true) fun _ => ?_
      refine ((laid.walkDispatcher entry true).putFunction ?_).nameFunctions directory
      rw [entryBlock] at entry_eq
      split at entry_eq
      · rename_i b found
        cases entry_eq
        rw [walkDispatcher_state]
        exact ⟨entry, (Layout.mem_of_blockAt? found).1, rfl⟩
      · cases entry_eq

/-! ## Exploring -/

/-- The analysis with which a function is explored. -/
def analysisOf (contract : Contract) (f : Function) (schedule : Schedule) : Analysis :=
  .fresh contract.layout f.key f.entry Analysis.defaultVisitLimit false schedule

theorem Coherent.layout_eq (coherent : contract.Coherent d) {b : Block}
    (b_mem : b ∈ contract.layout.blocks) :
    ∃ code, contract.code = some code ∧ contract.layout = .ofCode code d := by
  refine coherent.laidOut.resolve_left fun empty => ?_
  rw [empty] at b_mem
  cases b_mem

theorem Coherent.coherent_layout (coherent : contract.Coherent d) : contract.layout.Coherent := by
  rcases coherent.laidOut with empty | ⟨code, -, layout_eq⟩
  · rw [empty]
    exact ⟨rfl, .nil, .nil⟩
  · rw [layout_eq]
    exact Layout.ofCode_coherent code d

theorem Coherent.begins (coherent : contract.Coherent d) {f : Function} {entry : Block}
    (entry_mem : entry ∈ contract.layout.blocks) (entry_eq : entry.start = f.entry)
    (schedule : Schedule) : (contract.analysisOf f schedule).Begins contract entry := by
  obtain ⟨code, -, layout_eq⟩ := coherent.layout_eq entry_mem
  rw [analysisOf, ← entry_eq]
  exact Analysis.fresh_begins layout_eq entry_mem (coherent.enclosed f.key).toWithin _ _ _

theorem Coherent.analyse (coherent : contract.Coherent d) {f : Function}
    (entered : ∃ b ∈ contract.layout.blocks, b.start = f.entry) (schedule : Schedule) :
    (Study.run ⟨contract, contract.analysisOf f schedule⟩).state.contract.Coherent d := by
  obtain ⟨entry, entry_mem, entry_eq⟩ := entered
  exact ⟨coherent.laidOut, coherent.entered,
    (coherent.begins entry_mem entry_eq schedule).enclosed_run coherent.enclosed⟩

/-- Exploring a function changes the graph only, and then what is listed of the function. -/
theorem exploreFunction_cases (contract : Contract) (f : Function) (schedule : Schedule) :
    let explored := (Study.run ⟨contract, contract.analysisOf f schedule⟩).state.contract
    (contract.exploreFunction f schedule).state = explored ∨
      ∃ g : Function, g.bare = f.bare ∧
        (contract.exploreFunction f schedule).state = explored.putFunction g := by
  intro explored
  rw [exploreFunction]
  dsimp only
  split
  · exact .inl rfl
  · refine .inr ⟨_, ?_, rfl⟩
    exact Function.bare_judge _ _

theorem Coherent.exploreFunction (coherent : contract.Coherent d) {f : Function}
    (entered : ∃ b ∈ contract.layout.blocks, b.start = f.entry) (schedule : Schedule) :
    (contract.exploreFunction f schedule).state.Coherent d ∧
      (contract.exploreFunction f schedule).state.layout = contract.layout := by
  have explored_coherent := coherent.analyse entered schedule
  rcases contract.exploreFunction_cases f schedule with state_eq | ⟨g, bare_eq, state_eq⟩
  · rw [state_eq]
    exact ⟨explored_coherent, rfl⟩
  · have kin := Function.kin_of_bare_eq bare_eq
    rw [state_eq]
    exact ⟨explored_coherent.putFunction (kin.entry_eq.symm ▸ entered), rfl⟩

theorem Coherent.exploreEach (coherent : contract.Coherent d) {functions : List Function}
    (entered : ∀ f ∈ functions, ∃ b ∈ contract.layout.blocks, b.start = f.entry) (plan : Plan) :
    (contract.exploreEach functions plan).state.Coherent d ∧
      (contract.exploreEach functions plan).state.layout = contract.layout := by
  induction functions generalizing contract with
  | nil => exact ⟨coherent, rfl⟩
  | cons f rest ih =>
      obtain ⟨f_entered, rest_entered⟩ := List.forall_mem_cons.1 entered
      obtain ⟨explored, layout_eq⟩ := coherent.exploreFunction f_entered (plan f.start)
      rw [Contract.exploreEach]
      let kept : Contract → Prop := fun explored =>
        explored.Coherent d ∧ explored.layout = contract.layout
      suffices after : kept ((contract.exploreFunction f (plan f.start)).andThen
        (·.exploreEach rest plan)).state from after
      refine Outcome.andThen_state ⟨explored, layout_eq⟩ fun _ => ?_
      rw [← layout_eq] at rest_entered
      obtain ⟨rest_explored, rest_layout_eq⟩ := ih explored rest_entered
      exact ⟨rest_explored, rest_layout_eq.trans layout_eq⟩

theorem Coherent.exploreFunctions (coherent : contract.Coherent d) (plan : Plan) :
    (contract.exploreFunctions plan).state.Coherent d :=
  (coherent.exploreEach coherent.entered plan).1

/-! ## The graph by hand -/

theorem Coherent.withGraph (coherent : contract.Coherent d) {graph : Graph}
    (enclosed : ∀ key, (graph.edgesOf key).Enclosed contract.layout) :
    Contract.Coherent d { contract with graph } :=
  ⟨coherent.laidOut, coherent.entered, enclosed⟩

theorem enclosed_withEdges {layout : Layout} {graph : Graph}
    (enclosed : ∀ key, (graph.edgesOf key).Enclosed layout) (key : Key) {edges : Edges}
    (edges_enclosed : edges.Enclosed layout) (other : Key) :
    ((graph.withEdges key edges).edgesOf other).Enclosed layout := by
  by_cases same : key = other
  · subst same
    rwa [Graph.edgesOf_withEdges]
  · rw [Graph.edgesOf_withEdges_of_ne _ same]
    exact enclosed other

theorem Coherent.connectSimple (coherent : contract.Coherent d) (key : Key) :
    (contract.connectSimple key).state.Coherent d :=
  coherent.withGraph (enclosed_withEdges coherent.enclosed key (coherent.enclosed key).addSimple)

theorem Coherent.settle (coherent : contract.Coherent d) (entry : Nat) (key : Key) :
    (contract.settle entry key).state.Coherent d := by
  refine coherent.withGraph ?_
  rcases contract.graph.settle_cases entry key with settled | settled
  · rw [settled]
    exact coherent.enclosed
  · rw [settled]
    exact enclosed_withEdges (fun other => by simpa using coherent.enclosed other) key
      ((coherent.enclosed key).restrict _)

theorem coherent_build (directory : Directory) (source : Source) {options : Options}
    (reads : options.disassembler = d) : (build directory source options).state.Coherent d := by
  subst reads
  let given := setSource blank source
  let stripped := if options.stripsMetadata then given.andThen stripMetadata else given
  let found := stripped.andThen (·.findFunctions directory options.disassembler)
  have given_coherent : given.state.Coherent options.disassembler :=
    (coherent_new _ _).setSource source
  have stripped_coherent : stripped.state.Coherent options.disassembler := by
    simp only [stripped]
    split
    · exact Outcome.andThen_state given_coherent fun _ => given_coherent.stripMetadata
    · exact given_coherent
  have found_coherent : found.state.Coherent options.disassembler :=
    Outcome.andThen_state stripped_coherent fun _ => stripped_coherent.findFunctions directory
  rw [build]
  dsimp only
  split
  · split
    · exact Outcome.andThen_state found_coherent fun _ => found_coherent.exploreFunctions _
    · exact found_coherent
  · exact stripped_coherent

end Requests
end Contract

/-! ## Sessions -/

/-- What can be asked of a contract. -/
inductive Request
  | setSource (source : Source)
  | clear
  | stripMetadata
  | layOut
  | findFunctions (directory : Directory)
  | exploreFunctions (plan : Plan)
  | walkDispatcher (b : Block) (isEntry : Bool)
  | connectSimple (key : Key)
  | settle (entry : Nat) (key : Key)

namespace Contract

/-- The contract after a request, whether it fails or not. -/
def perform (d : Disassembler) (contract : Contract) : Request → Contract
  | .setSource source => (contract.setSource source).state
  | .clear => blank
  | .stripMetadata => contract.stripMetadata.state
  | .layOut => (contract.layOut d).state
  | .findFunctions directory => (contract.findFunctions directory d).state
  | .exploreFunctions plan => (contract.exploreFunctions plan).state
  | .walkDispatcher b isEntry => (contract.walkDispatcher b isEntry).state
  | .connectSimple key => (contract.connectSimple key).state
  | .settle entry key => (contract.settle entry key).state

theorem Coherent.perform {contract : Contract} {d : Disassembler} (coherent : contract.Coherent d)
    (request : Request) : (contract.perform d request).Coherent d := by
  cases request with
  | setSource source => exact coherent.setSource source
  | clear => exact coherent_new _ d
  | stripMetadata => exact coherent.stripMetadata
  | layOut => exact coherent.layOut
  | findFunctions directory => exact coherent.findFunctions directory
  | exploreFunctions plan => exact coherent.exploreFunctions plan
  | walkDispatcher b isEntry => exact coherent.walkDispatcher b isEntry
  | connectSimple key => exact coherent.connectSimple key
  | settle entry key => exact coherent.settle entry key

theorem Coherent.performAll {contract : Contract} {d : Disassembler}
    (coherent : contract.Coherent d) (requests : List Request) :
    (requests.foldl (Contract.perform d) contract).Coherent d := by
  induction requests generalizing contract with
  | nil => exact coherent
  | cons request requests ih => exact ih (coherent.perform request)

end Contract

/-- After every session on a contract, failed requests included, and in whatever orders functions are
explored, the contract has no layout or the one that laying out its code gives, its functions begin
at blocks of this layout, and the edges at these blocks, under every key and at both ends, lead to
blocks of it. -/
theorem session_keeps_to_code (directory : Directory) (source : Source) (options : Contract.Options)
    (requests : List Request) :
    let d := options.disassembler
    let built := (Contract.build directory source options).state
    let contract := requests.foldl (Contract.perform d) built
    let layout := contract.layout
    ((layout.instructions = [] ∧ layout.blocks = []) ∨
      ∃ code, contract.code = some code ∧
        layout = (Contract.layOut { code := some code } d).state.layout) ∧
      (∀ f ∈ contract.functions, ∃ b ∈ layout.blocks, b.start = f.entry ∧
        layout.blockAt? f.entry = some b) ∧
      ∀ key, ∀ b ∈ layout.blocks,
        (∀ after ∈ (contract.graph.edgesOf key).ends b.start,
          ∃ c ∈ layout.blocks, after = some c.start) ∧
        ∀ before ∈ (contract.graph.edgesOf key).predecessors b.start,
          ∃ c ∈ layout.blocks, before = c.start := by
  intro d built contract layout
  have coherent : contract.Coherent d :=
    (Contract.coherent_build directory source rfl).performAll requests
  refine ⟨?_, ?_, ?_⟩
  · rcases coherent.laidOut with empty | laidOut
    · exact .inl ⟨congrArg Layout.instructions empty, congrArg Layout.blocks empty⟩
    · exact .inr laidOut
  · intro f member
    obtain ⟨b, b_mem, start_eq⟩ := coherent.entered f member
    exact ⟨b, b_mem, start_eq, start_eq ▸ coherent.coherent_layout.blockAt?_start b_mem⟩
  · intro key b _
    have enclosed := coherent.enclosed key
    rw [enclosed.ends_eq]
    constructor
    · refine List.forall_mem_map.2 fun c leads => ?_
      obtain ⟨t, t_mem, rfl⟩ := enclosed.exists_block leads
      exact ⟨t, t_mem, rfl⟩
    · intro a father
      obtain ⟨c, c_mem, rfl⟩ := enclosed.exists_source father
      exact ⟨c, c_mem, rfl⟩

end EvmFlow
