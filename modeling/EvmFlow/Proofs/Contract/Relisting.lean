import EvmFlow.Proofs.Contract.DecisionTree
import EvmFlow.Proofs.Contract.Session

/-!
# Finding functions again

A walk depends on the layout only, and its findings are listed by address.  So the functions of a
contract can be found once more, whatever exploring has noted of them: every address keeps its
place, the last function found there wins again, and the dispatcher is listed in its own place.
-/

namespace EvmFlow
namespace Contract

/-! ## Listing on a full list -/

/-- Functions are the same if their addresses are and no address has two of them. -/
theorem eq_of_starts_eq {functions others : List Function}
    (starts_eq : functions.map (·.start) = others.map (·.start))
    (same : ∀ f ∈ functions, ∀ g ∈ others, f.start = g.start → f = g) : functions = others := by
  induction functions generalizing others with
  | nil => simpa using starts_eq.symm
  | cons f functions ih =>
      cases others with
      | nil => cases starts_eq
      | cons g others =>
          obtain ⟨start_eq, starts_eq⟩ := List.cons.inj starts_eq
          rw [same f List.mem_cons_self g List.mem_cons_self start_eq]
          refine congrArg (g :: ·) (ih starts_eq fun f f_mem g g_mem => ?_)
          exact same f (List.mem_cons_of_mem _ f_mem) g (List.mem_cons_of_mem _ g_mem)

theorem Apart.of_starts_eq {functions others : List Function} (apart : Apart functions)
    (starts_eq : others.map (·.start) = functions.map (·.start)) : Apart others := by
  rw [Apart, ← List.pairwise_map (f := Function.start) (R := (· ≠ ·))] at apart ⊢
  exact starts_eq ▸ apart

/-- Listing at known addresses keeps the addresses in their places. -/
theorem starts_listFound_of_known {found : List Dispatch.Found} {functions : List Function}
    (known : ∀ new ∈ found, (ofFound new).start ∈ functions.map (·.start)) :
    (listFound found functions).map (·.start) = functions.map (·.start) := by
  induction found using List.reverseRecOn with
  | nil => rfl
  | append_singleton found new ih =>
      obtain ⟨earlier, new_known⟩ := List.forall_mem_append.1 known
      have new_known := List.forall_mem_singleton.1 new_known
      rw [listFound_concat, starts_listFunction, ih earlier, if_pos new_known]

/-- What was found is listed. -/
theorem start_mem_listFound {found : List Dispatch.Found} {new : Dispatch.Found}
    (new_mem : new ∈ found) : (ofFound new).start ∈ (listFound found []).map (·.start) := by
  rw [starts_listFound]
  refine List.mem_map_of_mem (List.mem_eraseDups.2 ?_)
  exact List.mem_map_of_mem new_mem

/-- Listing what a walk finds, and then the dispatcher, on functions at just these addresses gives
what it gives on no function. -/
theorem relisted_eq {found : List Dispatch.Found} {functions : List Function}
    {dispatcher : Function} (listed_apart : Apart (listFound found [] ++ [dispatcher]))
    (starts_eq : functions.map (·.start) =
      (listFound found [] ++ [dispatcher]).map (·.start)) :
    listFunction dispatcher (listFound found functions) = listFound found [] ++ [dispatcher] := by
  have apart : Apart functions := listed_apart.of_starts_eq starts_eq
  have known : ∀ new ∈ found, (ofFound new).start ∈ functions.map (·.start) := by
    intro new new_mem
    rw [starts_eq, List.map_append]
    exact List.mem_append_left _ (start_mem_listFound new_mem)
  have dispatcher_known : dispatcher.start ∈ functions.map (·.start) := by simp [starts_eq]
  refine eq_of_starts_eq ?_ fun f f_mem g g_mem start_eq => ?_
  · rw [starts_listFunction, starts_listFound_of_known known, if_pos dispatcher_known, starts_eq]
  · have relisted_apart := (apart.listFound found).listFunction dispatcher
    have dispatcher_mem := mem_listFunction_self dispatcher (listFound found functions)
    have dispatcher_listed : dispatcher ∈ listFound found [] ++ [dispatcher] := by simp
    by_cases at_dispatcher : f.start = dispatcher.start
    · rw [relisted_apart.eq_of_start_eq f_mem dispatcher_mem at_dispatcher]
      exact listed_apart.eq_of_start_eq dispatcher_listed g_mem (at_dispatcher.symm.trans start_eq)
    · -- At every other address both are the last one found there.
      have f_listed := (mem_of_mem_listFunction f_mem).resolve_left fun here =>
        at_dispatcher (congrArg Function.start here)
      have g_listed := (List.mem_append.1 g_mem).resolve_right fun here =>
        at_dispatcher (start_eq.trans (congrArg Function.start (List.mem_singleton.1 here)))
      obtain ⟨last, g_last, rfl⟩ := last_of_mem_listFound g_listed
      rcases cases_of_mem_listFound apart f_listed with ⟨new, f_last, rfl⟩ | ⟨-, others⟩
      · have address_eq : new.start = last.start := Int.natCast_inj.1 start_eq
        rw [address_eq, g_last] at f_last
        rw [Option.some.inj f_last]
      · have last_mem := List.mem_reverse.1 (List.mem_of_find?_eq_some g_last)
        exact absurd start_eq.symm (others last last_mem)

/-! ## What exploring keeps -/

theorem starts_eq_of_bare_eq {functions others : List Function}
    (bare_eq : functions.map Function.bare = others.map Function.bare) :
    functions.map (·.start) = others.map (·.start) := by
  have starts_eq := congrArg (List.map Function.start) bare_eq
  rwa [List.map_map, List.map_map] at starts_eq

/-- A function that is listed anew changes no more than its attributes and its blocks. -/
theorem bare_listFunction {functions : List Function} (apart : Apart functions) {g : Function}
    (known : g.bare ∈ functions.map Function.bare) :
    (listFunction g functions).map Function.bare = functions.map Function.bare := by
  obtain ⟨f, f_mem, bare_eq⟩ := List.mem_map.1 known
  obtain ⟨before, rest, functions_eq⟩ := List.append_of_mem f_mem
  have kin := Function.kin_of_bare_eq bare_eq.symm
  rw [apart.listFunction_eq functions_eq kin, functions_eq]
  simp [bare_eq]

/-- From the first contract to the second, the graph may have changed, and of the functions their
attributes and their blocks. -/
structure Explored (before after : Contract) : Prop where
  layout_eq : after.layout = before.layout
  bare_eq : after.functions.map Function.bare = before.functions.map Function.bare

section Exploring

variable {before contract : Contract} (apart : Apart before.functions)
include apart

theorem Explored.exploreFunction (explored : before.Explored contract) {f : Function}
    (known : f.bare ∈ before.functions.map Function.bare) (schedule : Exploration.Schedule) :
    before.Explored (contract.exploreFunction f schedule).state := by
  obtain ⟨layout_eq, functions_eq⟩ := explored
  rcases contract.exploreFunction_cases f schedule with state_eq | ⟨g, bare_eq, state_eq⟩
  · rw [state_eq]
    exact ⟨layout_eq, functions_eq⟩
  · rw [state_eq]
    have contract_apart := apart.of_starts_eq (starts_eq_of_bare_eq functions_eq)
    rw [← bare_eq, ← functions_eq] at known
    exact ⟨layout_eq, (bare_listFunction contract_apart known).trans functions_eq⟩

theorem Explored.exploreEach (explored : before.Explored contract) {functions : List Function}
    (known : ∀ f ∈ functions, f.bare ∈ before.functions.map Function.bare) (plan : Plan) :
    before.Explored (contract.exploreEach functions plan).state := by
  induction functions generalizing contract with
  | nil => exact explored
  | cons f rest ih =>
      obtain ⟨f_known, rest_known⟩ := List.forall_mem_cons.1 known
      have f_explored := explored.exploreFunction apart f_known (plan f.start)
      rw [Contract.exploreEach]
      exact Outcome.andThen_state f_explored fun _ => ih f_explored rest_known

theorem Explored.exploreFunctions (explored : before.Explored contract) (plan : Plan) :
    before.Explored (contract.exploreFunctions plan).state := by
  refine explored.exploreEach apart (fun f f_mem => ?_) plan
  rw [← explored.bare_eq]
  exact List.mem_map_of_mem f_mem

/-- Exploring any number of times, whether it fails or not, keeps what was listed. -/
theorem Explored.exploreRepeatedly (explored : before.Explored contract) (plans : List Plan) :
    before.Explored (plans.foldl (fun contract plan => (contract.exploreFunctions plan).state)
      contract) := by
  induction plans generalizing contract with
  | nil => exact explored
  | cons plan plans ih => exact ih (explored.exploreFunctions apart plan)

end Exploring

/-! ## What is found again -/

theorem starts_named (directory : Directory) (functions : List Function) :
    (functions.map (named directory)).map (·.start) = functions.map (·.start) := by
  rw [List.map_map]
  exact List.map_congr_left fun f _ => (kin_named directory f).start_eq

theorem bare_named (directory : Directory) {f : Function} (f_bare : f.bare = f) :
    (named directory f).bare = named directory f := by
  rw [named]
  split
  · rename_i name _
    exact congrArg (fun f : Function => { f with name }) f_bare
  · exact f_bare

/-- What is listed is bare. -/
theorem bare_listing (directory : Directory) (found : List Dispatch.Found) (entry : Block) :
    ((listing found entry).map (named directory)).map Function.bare =
      (listing found entry).map (named directory) := by
  rw [List.map_map]
  refine List.map_congr_left fun f f_mem => bare_named directory ?_
  rcases List.mem_append.1 f_mem with f_mem | f_mem
  · obtain ⟨new, -, rfl⟩ := last_of_mem_listFound f_mem
    rfl
  · rw [List.mem_singleton.1 f_mem]
    rfl

/-- What is found for a contract with functions at just the addresses found. -/
theorem findFunctions_of_listed {contract : Contract} {entry : Block}
    {found : List Dispatch.Found} (first : contract.layout.blockAt? 0 = some entry)
    (walked : Dispatch.walk contract.layout entry true = { found })
    (starts_eq : contract.functions.map (·.start) = (listing found entry).map (·.start))
    (directory : Directory) (d : Disassembler) :
    contract.findFunctions directory d =
      { state :=
          { contract with functions := (listing found entry).map (named directory) } } := by
  have laid_eq : contract.layOut d = { state := contract } := by
    have occupied : contract.layout.blocks ≠ [] :=
      List.ne_nil_of_mem (Layout.mem_of_blockAt? first).1
    rw [layOut, if_neg (by simpa using occupied)]
  have relisted := relisted_eq (apart_listing walked) starts_eq
  rw [findFunctions_of_laid laid_eq first walked, relisted]
  rfl

end Contract

/-- Once the functions of a contract without functions have been found, they can be found again
after any number of explorations, in whatever orders and failed or not.  This completes and lists the
same functions in the same order, each with its key, its address, its entry and its name; it keeps
the rest of the contract and drops what exploring noted of the functions. -/
theorem functions_found_again (contract : Contract) (directory : Directory) (d : Disassembler)
    (plans : List Plan) (unlisted : contract.functions = [])
    (completed : (contract.findFunctions directory d).failure = none) :
    let found := (contract.findFunctions directory d).state
    let explored := plans.foldl (fun contract plan => (contract.exploreFunctions plan).state) found
    let again := explored.findFunctions directory d
    again = { state := { explored with functions := explored.functions.map Function.bare } } ∧
      again.state.functions = found.functions := by
  intro found explored again
  obtain ⟨layout, entry, walk, laid_eq, first, walked⟩ := Contract.exists_walk_of_found completed
  have found_eq := Contract.findFunctions_of_unlisted walked unlisted laid_eq first directory
  have layout_eq : found.layout = layout := congrArg (·.state.layout) found_eq
  have functions_eq : found.functions =
      (Contract.listing walk entry).map (Contract.named directory) :=
    congrArg (·.state.functions) found_eq
  have found_starts : found.functions.map (·.start) =
      (Contract.listing walk entry).map (·.start) := by
    rw [functions_eq, Contract.starts_named]
  have kept : found.Explored explored :=
    Contract.Explored.exploreRepeatedly ((Contract.apart_listing walked).of_starts_eq found_starts)
      ⟨rfl, rfl⟩ plans
  have explored_layout : explored.layout = layout := kept.layout_eq.trans layout_eq
  have explored_starts : explored.functions.map (·.start) =
      (Contract.listing walk entry).map (·.start) :=
    (Contract.starts_eq_of_bare_eq kept.bare_eq).trans found_starts
  have bare_eq : explored.functions.map Function.bare = found.functions := by
    rw [kept.bare_eq, functions_eq, Contract.bare_listing]
  have again_eq : again = { state := { explored with functions := found.functions } } := by
    rw [functions_eq]
    exact Contract.findFunctions_of_listed (explored_layout ▸ first) (explored_layout ▸ walked)
      explored_starts directory d
  rw [bare_eq, again_eq]
  exact ⟨rfl, rfl⟩

/-- Two selectors of this code share an address.  After two explorations its functions are found in
the same places, and the later of the two selectors stays. -/
theorem forkCode_found_again :
    let found := Contract.findFunctions { code := some forkCode } {}
    let explored := [Plan.inOrder, .inOrder].foldl
      (fun contract plan => (contract.exploreFunctions plan).state) found.state
    let again := explored.findFunctions {}
    found.failure = none ∧ explored.functions ≠ found.state.functions ∧
      again = { state := { explored with functions := explored.functions.map Function.bare } } ∧
      again.state.functions = found.state.functions ∧
      found.state.functions.map (fun f => (f.start, f.key)) =
        [(35, 3), (39, 8), (37, Key.fallback), (0, Key.dispatcher)] := by
  have completed : (Contract.findFunctions { code := some forkCode } {}).failure = none := by
    decide +kernel
  have repeated := functions_found_again { code := some forkCode } {} .evm [.inOrder, .inOrder] rfl
    completed
  dsimp only at repeated ⊢
  refine ⟨completed, ?_, repeated.1, repeated.2, ?_⟩
  · decide +kernel
  · decide +kernel

end EvmFlow
