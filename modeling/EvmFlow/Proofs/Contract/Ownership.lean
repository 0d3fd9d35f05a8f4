import EvmFlow.Proofs.Contract.Recovery
import EvmFlow.Proofs.Exploration.Exclusion

/-!
# Whose blocks they are

Functions are listed by address, and edges are kept by key.  Each function is left with the blocks
that can be reached from its entry under its key, and the edges that leave other blocks are dropped;
so two functions of one key share their edges, and only the last of them is sure to keep its own.
The dispatcher is explored last, around the blocks of all other functions.

`Contract.Recovering` describes a contract some of whose functions have been explored.
`Recovering.explore` explores one more, and `Recovering.exploreEach` all that are left.
-/

namespace EvmFlow

open Exploration

theorem Outcome.andThen_completed {σ : Type} {first : Outcome σ} {next : σ → Outcome σ}
    (completed : (first.andThen next).failure = none) :
    first.failure = none ∧ (next first.state).failure = none ∧
      (first.andThen next).state = (next first.state).state := by
  rw [Outcome.andThen] at completed ⊢
  split at completed
  · rename_i failed
    cases failed.symm.trans completed
  · rename_i first_completed
    simp only [first_completed]
    exact ⟨trivial, completed, trivial⟩

/-! ## What one analysis leaves -/

namespace Edges

/-- Exactly the given blocks can be reached from an entry, and no other block has successors. -/
structure Settled (edges : Edges) (entry : Nat) (blocks : List Nat) : Prop where
  mem_iff : ∀ a, a ∈ blocks ↔ edges.Reaches entry a
  bare : ∀ a, a ∉ blocks → edges.successors a = []

variable {edges : Edges} {entry : Nat} {blocks : List Nat}

theorem Settled.mem_of_reaches (settled : edges.Settled entry blocks) {a c : Nat} (a_mem : a ∈ blocks)
    (reaches : edges.Reaches a c) : c ∈ blocks :=
  (settled.mem_iff c).2 (((settled.mem_iff a).1 a_mem).trans reaches)

theorem Settled.reaches_iff_of_notMem (settled : edges.Settled entry blocks) {a : Nat}
    (a_notMem : a ∉ blocks) (c : Nat) : edges.Reaches a c ↔ c = a := by
  constructor
  · intro reaches
    rcases Relation.ReflTransGen.cases_head reaches with same | ⟨next, leads, -⟩
    · exact same.symm
    · rw [Leads, settled.bare a a_notMem] at leads
      cases leads
  · rintro rfl
    exact .refl

/-- Some blocks are none of those taken, and are followed by themselves and by those taken only. -/
structure Separate (edges : Edges) (blocks : List Nat) (taken : Nat → Prop) : Prop where
  free : ∀ a ∈ blocks, ¬taken a
  followed : ∀ a ∈ blocks, ∀ c, edges.Leads a c → c ∈ blocks ∨ taken c

end Edges

namespace Exploration

theorem edgesOf_settledGraph_of_ne (graph : Graph) {key other : Key} (different : key ≠ other)
    (entry : Nat) (edges : Edges) :
    (settledGraph graph key entry edges).edgesOf other = graph.edgesOf other := by
  rw [settledGraph, Graph.edgesOf_withEdges_of_ne _ different, Graph.edgesOf_mark,
    Graph.edgesOf_withEdges_of_ne _ different]

theorem mem_marks_settledGraph (graph : Graph) (key : Key) (entry : Nat) (edges : Edges) (a : Nat) :
    a ∈ (settledGraph graph key entry edges).marks.keys ↔
      a ∈ graph.marks.keys ∨ edges.Reaches entry a := by
  rw [← edges.mem_reachable_iff]
  exact Graph.mem_keys_mark (graph.withEdges key edges) key (edges.reachable entry) a

end Exploration

section Left

variable {analysis : Analysis} {contract : Contract} {entry : Block} {log : List Reading}
  {after : Progress} (concludes : analysis.Concludes contract entry log after)
  (coherent : contract.layout.Coherent)
include concludes coherent

/-- An analysis of a function leaves the edges of the blocks it has explored. -/
theorem Analysis.Concludes.settled (function : analysis.key ≠ Key.dispatcher) :
    ((settledGraph contract.graph analysis.key entry.start after.edges).edgesOf
      analysis.key).Settled entry.start after.state.explored := by
  rw [edgesOf_settledGraph]
  refine ⟨fun a => ?_, fun a unexplored => ?_⟩
  · rw [Edges.reaches_restrict_reachable]
    exact concludes.mem_explored_iff coherent function
  · rw [concludes.mem_explored_iff coherent function, ← Edges.mem_reachable_iff] at unexplored
    rw [Edges.successors_restrict, if_neg unexplored]

/-- An analysis of the dispatcher keeps to blocks that were not marked before. -/
theorem Analysis.Concludes.separate (dispatcher : analysis.key = Key.dispatcher)
    {taken : Nat → Prop} (marked : ∀ a, a ∈ contract.graph.marks.keys ↔ taken a) :
    ((settledGraph contract.graph analysis.key entry.start after.edges).edgesOf
      analysis.key).Separate after.state.explored taken := by
  have excluded_iff : ∀ a, a ∈ (analysis.problem contract).excluded ↔ taken a := by
    have excluded_eq : (analysis.problem contract).excluded = contract.graph.marks.keys :=
      if_pos dispatcher
    rwa [excluded_eq]
  rw [edgesOf_settledGraph]
  refine ⟨fun a explored => ?_, fun a explored c leads => ?_⟩
  · rw [← excluded_iff]
    exact (concludes.explored_fenced coherent explored).1
  · rw [← excluded_iff]
    exact (concludes.explored_fenced coherent explored).2 c (Edges.leads_of_leads_restrict leads)

end Left

/-! ## One function after the other -/

namespace Contract

/-- A block belongs to one of the functions. -/
def Owned (functions : List Function) (a : Nat) : Prop := ∃ f ∈ functions, a ∈ f.blocks

/-- Some functions of a contract have been explored, and others are still to be. -/
structure Recovering (d : Disassembler) (contract : Contract) (explored rest : List Function) :
    Prop where
  coherent : contract.Coherent d
  apart : Apart contract.functions
  functions_eq : contract.functions = explored ++ rest
  /-- The blocks of the functions are marked. -/
  marked : (∀ f ∈ explored, f.key ≠ Key.dispatcher) →
    ∀ a, a ∈ contract.graph.marks.keys ↔ Owned explored a
  /-- The last function of a key has its edges. -/
  settled : ∀ before f after, explored = before ++ f :: after → f.key ≠ Key.dispatcher →
    (∀ g ∈ after, g.key ≠ f.key) → (contract.graph.edgesOf f.key).Settled f.entry f.blocks
  separate : ∀ before f, explored = before ++ [f] → f.key = Key.dispatcher →
    (∀ g ∈ before, g.key ≠ Key.dispatcher) →
    (contract.graph.edgesOf f.key).Separate f.blocks (Owned before)

theorem recovering_new {code : Code} {d : Disassembler} {functions : List Function}
    {dispatcher : Function} (lists : Lists (.ofCode code d) functions dispatcher) :
    Recovering d
      { code := some code, layout := .ofCode code d, functions := functions ++ [dispatcher] } []
      (functions ++ [dispatcher]) where
  coherent :=
    ⟨.inr ⟨code, rfl, rfl⟩, lists.entered, fun key => (Graph.vacant_edgesOf_empty key).enclosed _⟩
  apart := lists.apart
  functions_eq := rfl
  marked _ a := by simp [Owned]
  settled before f after nothing := by simp at nothing
  separate before f nothing := by simp at nothing

/-- Of the functions with a key one is the last. -/
theorem exists_last_of_key {functions : List Function} {key : Key}
    (shared : ∃ g ∈ functions, g.key = key) :
    ∃ middle g rest, functions = middle ++ g :: rest ∧ g.key = key ∧ ∀ h ∈ rest, h.key ≠ key := by
  induction functions using List.reverseRecOn with
  | nil =>
      obtain ⟨g, g_mem, -⟩ := shared
      cases g_mem
  | append_singleton functions last ih =>
      by_cases same : last.key = key
      · exact ⟨functions, last, [], rfl, same, List.forall_mem_nil _⟩
      · obtain ⟨g, g_mem, key_eq⟩ := shared
        have g_mem : g ∈ functions := by
          refine (List.mem_append.1 g_mem).resolve_right fun here => same ?_
          rw [← key_eq, List.mem_singleton.1 here]
        obtain ⟨middle, h, rest, rfl, h_key, different⟩ := ih ⟨g, g_mem, key_eq⟩
        refine ⟨middle, h, rest ++ [last], by simp, h_key, ?_⟩
        exact List.forall_mem_append.2 ⟨different, List.forall_mem_singleton.2 same⟩

section Steps

variable {d : Disassembler} {contract : Contract} {explored : List Function} {f : Function}
  {rest : List Function}

theorem snoc_eq_append_cons {before after : List Function} {g : Function}
    (split : explored ++ [g] = before ++ f :: after) :
    (after = [] ∧ f = g ∧ before = explored) ∨
      ∃ middle, after = middle ++ [g] ∧ explored = before ++ f :: middle := by
  rcases List.eq_nil_or_concat' after with rfl | ⟨middle, last, rfl⟩
  · obtain ⟨rfl, same⟩ := List.append_inj' split rfl
    cases same
    exact .inl ⟨rfl, rfl, rfl⟩
  · rw [← List.cons_append, ← List.append_assoc] at split
    obtain ⟨earlier, same⟩ := List.append_inj' split rfl
    cases same
    exact .inr ⟨middle, rfl, earlier⟩

theorem Recovering.entered (recovering : Recovering d contract explored (f :: rest)) :
    ∃ b ∈ contract.layout.blocks, b.start = f.entry :=
  recovering.coherent.entered f (by simp [recovering.functions_eq])

theorem Recovering.explore (recovering : Recovering d contract explored (f :: rest))
    (noJumpi : contract.layout.endsInJumpi = false) (schedule : Schedule) :
    ∃ g : Function, g.key = f.key ∧
      Recovering d (contract.exploreFunction f schedule).state (explored ++ [g]) rest := by
  have coherent_after := (recovering.coherent.exploreFunction recovering.entered schedule).1
  obtain ⟨entry, log, after, entry_eq, begins, concludes⟩ :=
    recovering.coherent.concludes recovering.entered noJumpi schedule
  obtain ⟨g, kin, blocks_eq, explored_eq⟩ := exploreFunction_eq concludes
  have listed := recovering.apart.listFunction_eq recovering.functions_eq kin
  rw [explored_eq] at coherent_after ⊢
  have function_of_ne : g.key ≠ Key.dispatcher → f.key ≠ Key.dispatcher := kin.key_eq ▸ id
  refine ⟨g, kin.key_eq, coherent_after, recovering.apart.listFunction g, listed, ?_, ?_, ?_⟩
  · intro functions a
    obtain ⟨earlier, function⟩ := List.forall_mem_append.1 functions
    have reached_iff := concludes.mem_explored_iff begins.coherent
      (function_of_ne (function g List.mem_cons_self)) (a := a)
    rw [← blocks_eq] at reached_iff
    refine (mem_marks_settledGraph _ _ _ _ a).trans ?_
    rw [recovering.marked earlier, ← reached_iff]
    simp [Owned, or_and_right, exists_or]
  · intro before h later split function last
    rcases snoc_eq_append_cons split with ⟨-, rfl, -⟩ | ⟨middle, rfl, earlier⟩
    · rw [kin.key_eq, kin.entry_eq, blocks_eq, ← entry_eq]
      exact concludes.settled begins.coherent (function_of_ne function)
    · -- A function of the same key would not be the last one any more.
      obtain ⟨last, different⟩ := List.forall_mem_append.1 last
      have different : f.key ≠ h.key := kin.key_eq ▸ different g List.mem_cons_self
      have kept := recovering.settled before h middle earlier function last
      rwa [← edgesOf_settledGraph_of_ne _ different] at kept
  · intro before h split dispatcher functions
    obtain ⟨rfl, same⟩ := List.append_inj' split rfl
    cases same
    rw [kin.key_eq, blocks_eq]
    exact concludes.separate begins.coherent (kin.key_eq.symm.trans dispatcher)
      (recovering.marked functions)

theorem Recovering.exploreEach (recovering : Recovering d contract explored rest)
    (noJumpi : contract.layout.endsInJumpi = false) (plan : Plan) :
    ∃ more, more.map Function.key = rest.map Function.key ∧
      Recovering d (contract.exploreEach rest plan).state (explored ++ more) [] := by
  induction rest generalizing contract explored with
  | nil => exact ⟨[], rfl, by simpa [Contract.exploreEach] using recovering⟩
  | cons f rest ih =>
      have completed :=
        recovering.coherent.exploreFunction_completes recovering.entered noJumpi (plan f.start)
      have layout_eq :=
        (recovering.coherent.exploreFunction recovering.entered (plan f.start)).2
      obtain ⟨g, key_eq, recovering⟩ := recovering.explore noJumpi (plan f.start)
      rw [← layout_eq] at noJumpi
      obtain ⟨more, keys_eq, recovering⟩ := ih recovering noJumpi
      refine ⟨g :: more, by simp [key_eq, keys_eq], ?_⟩
      simpa [Contract.exploreEach, Outcome.andThen, completed] using recovering

end Steps

/-! ## Contracts that were built -/

/-- Nothing has been worked out of the code yet. -/
def IsNew (contract : Contract) : Prop := ∃ code, contract = { code }

section New

variable {contract : Contract}

theorem IsNew.setSource (new : contract.IsNew) (source : Source) :
    (contract.setSource source).state.IsNew := by
  rcases contract.setSource_cases source with kept | replaced
  · rwa [kept]
  · exact replaced

theorem IsNew.stripMetadata (new : contract.IsNew) : contract.stripMetadata.state.IsNew := by
  rw [Contract.stripMetadata]
  split
  · exact new
  · exact new.setSource _

end New

/-- Building a contract without exploring it finds the functions of a new contract. -/
theorem build_found {directory : Directory} {source : Source} {stripsMetadata optimizes : Bool}
    {disassembler : Disassembler}
    (completed : (build directory source
      { stripsMetadata, exploresFunctions := false, optimizes, disassembler }).failure = none) :
    ∃ code : Code, (findFunctions { code := some code } directory disassembler).failure = none ∧
      (build directory source
        { stripsMetadata, exploresFunctions := false, optimizes, disassembler }).state =
        (findFunctions { code := some code } directory disassembler).state := by
  let given := setSource blank source
  have given_new : given.state.IsNew := IsNew.setSource ⟨some [], rfl⟩ source
  have stripped_new :
      (if stripsMetadata then given.andThen stripMetadata else given).state.IsNew := by
    split
    · exact Outcome.andThen_state given_new fun _ => given_new.stripMetadata
    · exact given_new
  obtain ⟨code, stripped_eq⟩ := stripped_new
  simp only [build, ↓reduceIte, Bool.false_eq_true] at completed ⊢
  obtain ⟨-, found, found_eq⟩ := Outcome.andThen_completed completed
  rw [stripped_eq] at found found_eq
  cases code with
  | none => simp [findFunctions, layOut, Outcome.andThen] at found
  | some code => exact ⟨code, found, found_eq⟩

/-- A contract is built by finding its functions and exploring them. -/
theorem build_eq (directory : Directory) (source : Source) (stripsMetadata optimizes : Bool)
    (disassembler : Disassembler) (plan : Plan) :
    build directory source { stripsMetadata, optimizes, disassembler, plan } =
      (build directory source
        { stripsMetadata, exploresFunctions := false, optimizes, disassembler }).andThen
        (·.exploreFunctions plan) :=
  rfl

theorem build_completed {directory : Directory} {source : Source} {stripsMetadata optimizes : Bool}
    {disassembler : Disassembler} {plan : Plan}
    (completed :
      (build directory source { stripsMetadata, optimizes, disassembler, plan }).failure = none) :
    ∃ code : Code,
      let found := findFunctions { code := some code } directory disassembler
      let recovery := found.state.exploreFunctions plan
      found.failure = none ∧ recovery.failure = none ∧
        (build directory source { stripsMetadata, optimizes, disassembler, plan }).state =
          recovery.state := by
  rw [build_eq] at completed ⊢
  obtain ⟨found, explored, state_eq⟩ := Outcome.andThen_completed completed
  obtain ⟨code, found, found_eq⟩ := build_found found
  rw [found_eq] at explored state_eq
  exact ⟨code, found, explored, state_eq⟩

theorem build_recovering {directory : Directory} {source : Source} {stripsMetadata optimizes : Bool}
    {disassembler : Disassembler} {plan : Plan}
    (completed :
      (build directory source { stripsMetadata, optimizes, disassembler, plan }).failure = none) :
    ∃ functions dispatcher, dispatcher.key = Key.dispatcher ∧
      (∀ f ∈ functions, f.key ≠ Key.dispatcher) ∧
      Recovering disassembler
        (build directory source { stripsMetadata, optimizes, disassembler, plan }).state
        (functions ++ [dispatcher]) [] := by
  obtain ⟨code, found, explored, state_eq⟩ := build_completed completed
  obtain ⟨functions, dispatcher, lists, found_eq⟩ := findFunctions_new found
  rw [state_eq, found_eq]
  rw [found_eq] at explored
  have recovering := recovering_new lists
  have noJumpi : (Layout.ofCode code disassembler).endsInJumpi = false :=
    recovering.coherent.noJumpi_of_explored (by simp) explored
  obtain ⟨more, keys_eq, recovered⟩ := recovering.exploreEach noJumpi plan
  rw [List.map_append, List.map_eq_append_iff] at keys_eq
  obtain ⟨earlier, last, rfl, earlier_eq, last_eq⟩ := keys_eq
  obtain ⟨final, rfl, final_eq⟩ := List.map_eq_singleton_iff.1 last_eq
  refine ⟨earlier, final, final_eq.trans lists.key_eq, fun f f_mem => ?_, recovered⟩
  have key_mem : f.key ∈ functions.map Function.key := earlier_eq ▸ List.mem_map_of_mem f_mem
  obtain ⟨g, g_mem, key_eq⟩ := List.mem_map.1 key_mem
  exact key_eq ▸ lists.key_ne g g_mem

end Contract

open Contract

/-- In a contract that was built, in whatever order its functions were explored, the blocks of a
function are exactly those that can be reached from its entry under its key, if no later function has
this key.  If one has, the last of them decides: where it does not reach the entry of the function,
nothing else can be reached from there, and where it does, only its own blocks can. -/
theorem last_of_key_keeps_edges (directory : Directory) (source : Source)
    (stripsMetadata optimizes : Bool) (disassembler : Disassembler) (plan : Plan)
    (completed :
      (build directory source { stripsMetadata, optimizes, disassembler, plan }).failure = none) :
    let contract := (build directory source { stripsMetadata, optimizes, disassembler, plan }).state
    ∀ before f after, contract.functions = before ++ f :: after → f.key ≠ Key.dispatcher →
      let edges := contract.graph.edgesOf f.key
      ((∀ g ∈ after, g.key ≠ f.key) → ∀ a, a ∈ f.blocks ↔ edges.Reaches f.entry a) ∧
      ∀ middle g rest, after = middle ++ g :: rest → g.key = f.key →
        (∀ h ∈ rest, h.key ≠ f.key) →
        (f.entry ∉ g.blocks → ∀ a, edges.Reaches f.entry a ↔ a = f.entry) ∧
        (f.entry ∈ g.blocks → ∀ a, edges.Reaches f.entry a → a ∈ g.blocks) := by
  intro contract before f after split function edges
  obtain ⟨functions, dispatcher, -, -, recovering⟩ := build_recovering completed
  have functions_eq : functions ++ [dispatcher] = contract.functions := by
    simpa using recovering.functions_eq.symm
  rw [functions_eq] at recovering
  constructor
  · intro last
    exact (recovering.settled before f after split function last).mem_iff
  · rintro middle g rest rfl key_eq last
    have split : contract.functions = (before ++ f :: middle) ++ g :: rest := by simp [split]
    have settled := recovering.settled _ g rest split (key_eq ▸ function) (key_eq ▸ last)
    rw [key_eq] at settled
    exact ⟨settled.reaches_iff_of_notMem, fun entry_mem a => settled.mem_of_reaches entry_mem⟩

/-- Code with two fallback functions: the one at 9 goes on to the block at 10, the one at 12 is a
block of its own. -/
def twinCode : Code :=
  [0x36, 0x60, 0x09, 0x57, 0x36, 0x60, 0x0c, 0x57, 0x00, 0x5b, 0x5b, 0x00, 0x5b, 0x00]

/-- The fallback function at 9. -/
def firstTwin : Function :=
  { Function.unexplored Key.fallback 9 9 with
    attributes := ["payable", "view", "pure"]
    blocks := [9, 10] }

/-- The fallback function at 12. -/
def secondTwin : Function :=
  { Function.unexplored Key.fallback 12 12 with
    attributes := ["payable", "view", "pure"]
    blocks := [12] }

/-- The dispatcher in front of the fallback functions. -/
def twinDispatcher : Function :=
  { Function.unexplored Key.dispatcher 0 0 with blocks := [0, 4, 8] }

theorem twinCode_functions :
    (build {} (.raw twinCode) {}).state.functions = [firstTwin, secondTwin, twinDispatcher] := by
  decide +kernel

theorem twinCode_keeps_last_edges :
    let outcome := build {} (.raw twinCode) {}
    let edges := outcome.state.graph.edgesOf Key.fallback
    outcome.failure = none ∧
      outcome.state.functions = [firstTwin, secondTwin, twinDispatcher] ∧
      (∀ a, a ∈ secondTwin.blocks ↔ edges.Reaches secondTwin.entry a) ∧
      ∀ a, edges.Reaches firstTwin.entry a ↔ a = firstTwin.entry := by
  intro outcome edges
  have completed : outcome.failure = none := by decide +kernel
  have keeps := last_of_key_keeps_edges {} (.raw twinCode) true true .evm .inOrder completed
  obtain ⟨second, -⟩ :=
    keeps [firstTwin] secondTwin [twinDispatcher] twinCode_functions (by decide)
  obtain ⟨-, first⟩ :=
    keeps [] firstTwin [secondTwin, twinDispatcher] twinCode_functions (by decide)
  exact ⟨completed, twinCode_functions, second (by decide),
    (first [] secondTwin [twinDispatcher] rfl rfl (by decide)).1 (by decide)⟩

/-- The block at 10 belongs to the first function, but its edges do not lead there any more. -/
theorem twinCode_loses_edge :
    let outcome := build {} (.raw twinCode) {}
    let edges := outcome.state.graph.edgesOf firstTwin.key
    outcome.failure = none ∧ firstTwin ∈ outcome.state.functions ∧
      firstTwin.key ≠ Key.dispatcher ∧ 10 ∈ firstTwin.blocks ∧
      ¬edges.Reaches firstTwin.entry 10 := by
  intro outcome edges
  have member : firstTwin ∈ outcome.state.functions := by
    rw [twinCode_functions]
    exact List.mem_cons_self
  have unreachable : 10 ∉ edges.reachable firstTwin.entry := by decide +kernel
  rw [Edges.mem_reachable_iff] at unreachable
  exact ⟨by decide +kernel, member, by decide, by decide, unreachable⟩

/-- In a contract that was built, the dispatcher is the last function.  It shares no block with
another function, and each of its blocks is followed under its key only by blocks of its own and of
the other functions. -/
theorem dispatcher_keeps_apart (directory : Directory) (source : Source)
    (stripsMetadata optimizes : Bool) (disassembler : Disassembler) (plan : Plan)
    (completed :
      (build directory source { stripsMetadata, optimizes, disassembler, plan }).failure = none) :
    let contract := (build directory source { stripsMetadata, optimizes, disassembler, plan }).state
    ∃ functions dispatcher, contract.functions = functions ++ [dispatcher] ∧
      dispatcher.key = Key.dispatcher ∧ (∀ f ∈ functions, f.key ≠ Key.dispatcher) ∧
      (∀ a ∈ dispatcher.blocks, ∀ f ∈ functions, a ∉ f.blocks) ∧
      ∀ a ∈ dispatcher.blocks, ∀ next ∈ (contract.graph.edgesOf Key.dispatcher).ends a,
        ∃ c, next = some c ∧ (c ∈ dispatcher.blocks ∨ ∃ f ∈ functions, c ∈ f.blocks) := by
  intro contract
  obtain ⟨functions, dispatcher, key_eq, key_ne, recovering⟩ := build_recovering completed
  have separate := recovering.separate functions dispatcher rfl key_eq key_ne
  rw [key_eq] at separate
  refine ⟨functions, dispatcher, by simpa using recovering.functions_eq, key_eq, key_ne, ?_, ?_⟩
  · exact fun a a_mem f f_mem shared => separate.free a a_mem ⟨f, f_mem, shared⟩
  · intro a a_mem
    rw [(recovering.coherent.enclosed Key.dispatcher).ends_eq]
    exact List.forall_mem_map.2 fun c leads => ⟨c, rfl, separate.followed a a_mem c leads⟩

theorem twinCode_dispatcher_apart :
    let outcome := build {} (.raw twinCode) {}
    outcome.failure = none ∧
      outcome.state.functions = [firstTwin, secondTwin] ++ [twinDispatcher] ∧
      ∀ a ∈ twinDispatcher.blocks, ∀ f ∈ [firstTwin, secondTwin], a ∉ f.blocks := by
  intro outcome
  have completed : outcome.failure = none := by decide +kernel
  obtain ⟨functions, dispatcher, functions_eq, -, -, apart, -⟩ :=
    dispatcher_keeps_apart {} (.raw twinCode) true true .evm .inOrder completed
  have same : [firstTwin, secondTwin] ++ [twinDispatcher] = functions ++ [dispatcher] :=
    twinCode_functions.symm.trans functions_eq
  obtain ⟨rfl, same⟩ := List.append_inj' same rfl
  cases same
  exact ⟨completed, twinCode_functions, apart⟩

end EvmFlow
