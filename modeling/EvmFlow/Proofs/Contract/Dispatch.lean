import Mathlib.Data.List.Nodup
import EvmFlow.Contract.Basic
import EvmFlow.Proofs.Graph.Layout

/-!
# What a walk through the dispatcher lists

A walk finds functions at addresses other than zero, under keys other than the dispatcher's, and
each begins at a block.  Functions are listed by address, so the dispatcher, listed last and at
zero, stands after all the others.  `findFunctions_new` says this of a contract that is new.
-/

namespace EvmFlow
namespace Dispatch

/-! ## Walks -/

/-- A function found begins at the block of its address, not at zero, and is not the dispatcher. -/
structure Found.Fits (layout : Layout) (found : Found) : Prop where
  located : ∃ b, layout.blockAt? found.start = some b ∧ b.start = found.entry
  start_pos : 0 < found.start
  key_ne : found.key ≠ Key.dispatcher

theorem Found.Fits.entered {layout : Layout} {found : Found} (fits : found.Fits layout) :
    ∃ b ∈ layout.blocks, b.start = found.entry := by
  obtain ⟨b, here, start_eq⟩ := fits.located
  exact ⟨b, (Layout.mem_of_blockAt? here).1, start_eq⟩

/-- What a block decides on is the fallback, or a function with a selector other than zero. -/
theorem key_of_decision {b : Block} {target : Option Nat} {key : Key}
    (decided : decision b = (target, some key)) : key = Key.fallback ∨ 0 < key := by
  simp only [decision] at decided
  split at decided
  · cases decided
    exact .inl rfl
  · split at decided
    · split at decided
      · rename_i number _ selects
        cases decided
        have positive : number ≠ 0 := by simpa using (Bool.and_eq_true_iff.1 selects).2
        exact .inr (Int.natCast_pos.2 (Nat.pos_of_ne_zero positive))
      · cases decided
    · cases decided

theorem key_ne_of_decision {b : Block} {target : Option Nat} {key : Key}
    (decided : decision b = (target, some key)) : key ≠ Key.dispatcher := by
  rcases key_of_decision decided with rfl | positive
  · decide
  · rintro rfl
    exact absurd positive (by decide)

/-- Every function that a walk has found is of a kind. -/
def Walk.All (kind : Found → Prop) (walk : Walk) : Prop := ∀ found ∈ walk.found, kind found

section All

variable {layout : Layout} {kind : Found → Prop}

theorem Walk.all_failed (failure : Failure) : (Walk.failed failure).All kind := by
  intro found member
  cases member

theorem Walk.All.andThen {walk : Walk} (all : walk.All kind) {next : Unit → Walk}
    (next_all : (next ()).All kind) : (walk.andThen next).All kind := by
  rw [Walk.andThen]
  split
  · exact all
  · intro found member
    rcases List.mem_append.1 member with member | member
    · exact all found member
    · exact next_all found member

theorem walkAt_all {walk : Block → Walk} (all : ∀ b, (walk b).All kind) (address : Nat) :
    (walkAt layout walk address).All kind := by
  rw [walkAt]
  split
  · exact all _
  · exact Walk.all_failed _

variable (each : ∀ {b : Block} {target : Nat} {key : Key} {entry : Block},
  decision b = (some (target + 1), some key) → layout.blockAt? (target + 1) = some entry →
    kind ⟨key, target + 1, entry.start⟩)
include each

theorem walkFrom_all (depth : Nat) (b : Block) : (walkFrom layout depth b).All kind := by
  induction depth generalizing b with
  | zero => exact Walk.all_failed _
  | succ depth ih =>
      rw [walkFrom]
      split
      · rename_i target key decided
        refine Walk.All.andThen ?_ (walkAt_all ih _)
        split
        · exact walkAt_all ih _
        · split
          · rename_i entry found
            exact List.forall_mem_singleton.2 (each decided found)
          · exact Walk.all_failed _
      · intro found member
        cases member

/-- What holds of every function that a block decides on holds of all that a walk finds. -/
theorem walk_all (b : Block) (isEntry : Bool) : (walk layout b isEntry).All kind := by
  rw [walk]
  split
  · split
    · exact Walk.all_failed _
    · exact walkAt_all (walkFrom_all each _) _
  · exact walkFrom_all each _ b

end All

theorem walk_fits (layout : Layout) (b : Block) (isEntry : Bool) :
    (walk layout b isEntry).All (Found.Fits layout) :=
  walk_all (fun {_ target _ entry} decided found =>
    ⟨⟨entry, found, rfl⟩, Nat.succ_pos target, key_ne_of_decision decided⟩) b isEntry

theorem walk_keys (layout : Layout) (b : Block) (isEntry : Bool) :
    (walk layout b isEntry).All fun found => found.key = Key.fallback ∨ 0 < found.key :=
  walk_all (fun decided _ => key_of_decision decided) b isEntry

end Dispatch

/-- The same function, whatever is known of its name, its attributes and its blocks. -/
structure Function.Kin (f g : Function) : Prop where
  key_eq : f.key = g.key
  start_eq : f.start = g.start
  entry_eq : f.entry = g.entry

namespace Contract

/-! ## Listing functions -/

theorem mem_of_mem_listFunction {f g : Function} {functions : List Function}
    (member : g ∈ listFunction f functions) : g = f ∨ g ∈ functions := by
  induction functions with
  | nil => exact .inl (List.mem_singleton.1 member)
  | cons h rest ih =>
      rw [listFunction] at member
      split at member
      · exact (List.mem_cons.1 member).imp_right (List.mem_cons_of_mem h)
      · rcases List.mem_cons.1 member with rfl | member
        · exact .inr List.mem_cons_self
        · exact (ih member).imp_right (List.mem_cons_of_mem h)

/-- A function at a new address is listed after the others. -/
theorem listFunction_of_new {f : Function} {functions : List Function}
    (new : ∀ g ∈ functions, g.start ≠ f.start) : listFunction f functions = functions ++ [f] := by
  induction functions with
  | nil => rfl
  | cons g rest ih =>
      obtain ⟨different, new⟩ := List.forall_mem_cons.1 new
      rw [listFunction, if_neg different, ih new, List.cons_append]

/-- A function at a known address takes the place of the one there. -/
theorem listFunction_of_known {f g : Function} {before after : List Function}
    (earlier : ∀ h ∈ before, h.start ≠ f.start) (same : g.start = f.start) :
    listFunction f (before ++ g :: after) = before ++ f :: after := by
  induction before with
  | nil => rw [List.nil_append, listFunction, if_pos same, List.nil_append]
  | cons h before ih =>
      obtain ⟨different, earlier⟩ := List.forall_mem_cons.1 earlier
      rw [List.cons_append, listFunction, if_neg different, ih earlier, List.cons_append]

/-- The functions are listed at different addresses. -/
def Apart (functions : List Function) : Prop :=
  functions.Pairwise fun f g => f.start ≠ g.start

theorem Apart.listFunction {functions : List Function} (apart : Apart functions) (f : Function) :
    Apart (listFunction f functions) := by
  by_cases known : ∃ g ∈ functions, g.start = f.start
  · obtain ⟨g, member, same⟩ := known
    obtain ⟨before, after, rfl⟩ := List.append_of_mem member
    obtain ⟨before_apart, after_apart, across⟩ := List.pairwise_append.1 apart
    obtain ⟨g_apart, after_apart⟩ := List.pairwise_cons.1 after_apart
    have earlier : ∀ h ∈ before, h.start ≠ f.start := fun h h_mem =>
      same ▸ across h h_mem g List.mem_cons_self
    rw [listFunction_of_known earlier same]
    refine List.pairwise_append.2 ⟨before_apart, List.pairwise_cons.2 ⟨?_, after_apart⟩, ?_⟩
    · exact fun h h_mem => same ▸ g_apart h h_mem
    · intro h h_mem
      exact List.forall_mem_cons.2
        ⟨earlier h h_mem, fun i i_mem => across h h_mem i (List.mem_cons_of_mem g i_mem)⟩
  · have new : ∀ g ∈ functions, g.start ≠ f.start := fun g member same => known ⟨g, member, same⟩
    rw [listFunction_of_new new]
    exact List.pairwise_append.2
      ⟨apart, List.pairwise_singleton _ f, fun g member => List.forall_mem_singleton.2 (new g member)⟩

theorem Apart.eq_of_start_eq {functions : List Function} (apart : Apart functions) {f g : Function}
    (f_mem : f ∈ functions) (g_mem : g ∈ functions) (start_eq : f.start = g.start) : f = g :=
  List.inj_on_of_nodup_map (List.pairwise_map.2 apart) f_mem g_mem start_eq

/-- Of functions at different addresses, each is replaced in its place. -/
theorem Apart.listFunction_eq {functions before rest : List Function} {f g : Function}
    (apart : Apart functions) (functions_eq : functions = before ++ f :: rest) (kin : g.Kin f) :
    Contract.listFunction g functions = (before ++ [g]) ++ rest := by
  rw [functions_eq, Apart, List.pairwise_append] at apart
  have earlier : ∀ h ∈ before, h.start ≠ g.start := fun h h_mem =>
    kin.start_eq ▸ apart.2.2 h h_mem f List.mem_cons_self
  rw [functions_eq, listFunction_of_known earlier kin.start_eq.symm, List.append_assoc]
  rfl

/-- The functions listed after those found by a walk. -/
def listFound (found : List Dispatch.Found) (functions : List Function) : List Function :=
  found.foldl (fun functions new =>
    listFunction (.unexplored new.key new.start new.entry) functions) functions

theorem walkDispatcher_state (contract : Contract) (b : Block) (isEntry : Bool) :
    (contract.walkDispatcher b isEntry).state =
      { contract with
        functions :=
          listFound (Dispatch.walk contract.layout b isEntry).found contract.functions } := by
  simp only [walkDispatcher]
  generalize (Dispatch.walk contract.layout b isEntry).found = found
  induction found generalizing contract with
  | nil => rfl
  | cons new found ih => exact ih (contract.putFunction (.unexplored new.key new.start new.entry))

theorem mem_listFound {found : List Dispatch.Found} {functions : List Function} {f : Function}
    (member : f ∈ listFound found functions) :
    f ∈ functions ∨ ∃ new ∈ found, f = .unexplored new.key new.start new.entry := by
  induction found generalizing functions with
  | nil => exact .inl member
  | cons new found ih =>
      rcases ih member with member | ⟨later, later_mem, rfl⟩
      · rcases mem_of_mem_listFunction member with rfl | member
        · exact .inr ⟨new, List.mem_cons_self, rfl⟩
        · exact .inl member
      · exact .inr ⟨later, List.mem_cons_of_mem new later_mem, rfl⟩

theorem Apart.listFound {functions : List Function} (apart : Apart functions)
    (found : List Dispatch.Found) : Apart (listFound found functions) := by
  induction found generalizing functions with
  | nil => exact apart
  | cons new found ih => exact ih (apart.listFunction _)

/-! ## Finding functions -/

/-- The function with the name that a directory knows for its key. -/
def named (directory : Directory) (f : Function) : Function :=
  match directory.find? f.key with
  | some name => { f with name }
  | none => f

theorem kin_named (directory : Directory) (f : Function) : (named directory f).Kin f := by
  rw [named]
  split <;> exact ⟨rfl, rfl, rfl⟩

/-- What is known of the functions of a contract before they are explored. -/
structure Lists (layout : Layout) (functions : List Function) (dispatcher : Function) : Prop where
  apart : Apart (functions ++ [dispatcher])
  entered : ∀ f ∈ functions ++ [dispatcher], ∃ b ∈ layout.blocks, b.start = f.entry
  key_ne : ∀ f ∈ functions, f.key ≠ Key.dispatcher
  key_eq : dispatcher.key = Key.dispatcher

theorem Lists.named {layout : Layout} {functions : List Function} {dispatcher : Function}
    (lists : Lists layout functions dispatcher) (directory : Directory) :
    Lists layout (functions.map (named directory)) (named directory dispatcher) := by
  have kin := kin_named directory
  have whole : functions.map (Contract.named directory) ++ [Contract.named directory dispatcher] =
      (functions ++ [dispatcher]).map (Contract.named directory) := by simp
  refine ⟨?_, ?_, ?_, (kin dispatcher).key_eq.trans lists.key_eq⟩
  · rw [whole, Apart, List.pairwise_map]
    refine List.Pairwise.imp (fun {f g} different => ?_) lists.apart
    rwa [(kin f).start_eq, (kin g).start_eq]
  · rw [whole]
    refine List.forall_mem_map.2 fun f member => ?_
    rw [(kin f).entry_eq]
    exact lists.entered f member
  · refine List.forall_mem_map.2 fun f member => ?_
    rw [(kin f).key_eq]
    exact lists.key_ne f member

/-- A contract is laid out, or has no code to lay out. -/
theorem layOut_cases (contract : Contract) (d : Disassembler) :
    contract.layOut d = { state := contract, failure := some .nothingToDisassemble } ∨
      ∃ layout, contract.layOut d = { state := { contract with layout } } := by
  rw [layOut]
  split
  · split
    · exact .inl rfl
    · exact .inr ⟨_, rfl⟩
  · exact .inr ⟨contract.layout, rfl⟩

section Found

variable {contract : Contract} {directory : Directory} {d : Disassembler}

/-- To find functions is to lay a contract out and to walk through its whole dispatcher. -/
theorem exists_walk_of_found (completed : (contract.findFunctions directory d).failure = none) :
    ∃ layout entry found, contract.layOut d = { state := { contract with layout } } ∧
      layout.blockAt? 0 = some entry ∧ Dispatch.walk layout entry true = { found } := by
  obtain refused | ⟨layout, laid_eq⟩ := contract.layOut_cases d
  · rw [findFunctions, refused] at completed
    cases completed
  simp only [findFunctions, laid_eq, Outcome.andThen, entryBlock] at completed
  cases first : layout.blockAt? 0 with
  | none => simp [first] at completed
  | some entry =>
      refine ⟨layout, entry, (Dispatch.walk layout entry true).found, laid_eq, first, ?_⟩
      have failure_eq : (Dispatch.walk layout entry true).failure = none := by
        cases failure : (Dispatch.walk layout entry true).failure with
        | none => rfl
        | some reason => simp [first, walkDispatcher, failure] at completed
      cases walked : Dispatch.walk layout entry true with
      | mk found failure =>
          rw [walked] at failure_eq
          exact congrArg (Dispatch.Walk.mk found) failure_eq

/-- What is listed after a walk through the whole dispatcher. -/
theorem findFunctions_of_laid {laid : Contract} {entry : Block} {found : List Dispatch.Found}
    (laid_eq : contract.layOut d = { state := laid })
    (first : laid.layout.blockAt? 0 = some entry)
    (walked : Dispatch.walk laid.layout entry true = { found }) :
    contract.findFunctions directory d =
      { state :=
          { laid with
            functions :=
              (listFunction (.unexplored Key.dispatcher 0 entry.start)
                (listFound found laid.functions)).map (named directory) } } := by
  have entry_eq : laid.entryBlock = .ok entry := by rw [entryBlock, first]
  have walked_eq : laid.walkDispatcher entry true =
      { state := { laid with functions := listFound found laid.functions } } := by
    have outcome_eq : laid.walkDispatcher entry true =
        { state := (laid.walkDispatcher entry true).state
          failure := (Dispatch.walk laid.layout entry true).failure } := rfl
    rw [outcome_eq, walkDispatcher_state, walked]
  simp only [findFunctions, laid_eq, Outcome.andThen, entry_eq, walked_eq, putFunction]
  rfl

end Found

/-- What is listed after a walk through the dispatcher begins at the block of its address, and not
at zero. -/
theorem fits_of_mem_listFound {layout : Layout} {entry : Block} {found : List Dispatch.Found}
    (walked : Dispatch.walk layout entry true = { found }) {f : Function}
    (member : f ∈ listFound found []) :
    ∃ new : Dispatch.Found, new.Fits layout ∧ f = .unexplored new.key new.start new.entry := by
  obtain ⟨new, new_mem, rfl⟩ := (mem_listFound member).resolve_left List.not_mem_nil
  exact ⟨new, Dispatch.walk_fits _ entry true new (walked ▸ new_mem), rfl⟩

theorem start_ne_of_mem_listFound {layout : Layout} {entry : Block} {found : List Dispatch.Found}
    (walked : Dispatch.walk layout entry true = { found }) (f : Function)
    (member : f ∈ listFound found []) : f.start ≠ 0 := by
  obtain ⟨new, fits, rfl⟩ := fits_of_mem_listFound walked member
  have positive := fits.start_pos
  simp only [Function.unexplored]
  omega

/-- The functions that a walk has found, and the dispatcher with its entry after them. -/
def listing (found : List Dispatch.Found) (entry : Block) : List Function :=
  listFound found [] ++ [.unexplored Key.dispatcher 0 entry.start]

section Listing

variable {layout : Layout} {entry : Block} {found : List Dispatch.Found}
  (walked : Dispatch.walk layout entry true = { found })
include walked

theorem listFunction_dispatcher :
    listFunction (.unexplored Key.dispatcher 0 entry.start) (listFound found []) =
      listing found entry :=
  listFunction_of_new (start_ne_of_mem_listFound walked)

theorem apart_listing : Apart (listing found entry) := by
  rw [← listFunction_dispatcher walked]
  exact (Apart.listFound List.Pairwise.nil found).listFunction _

/-- What is listed for a contract without functions. -/
theorem findFunctions_of_unlisted {contract : Contract} (unlisted : contract.functions = [])
    {d : Disassembler} (laid_eq : contract.layOut d = { state := { contract with layout } })
    (first : layout.blockAt? 0 = some entry) (directory : Directory) :
    contract.findFunctions directory d =
      { state :=
          { contract with layout, functions := (listing found entry).map (named directory) } } := by
  rw [findFunctions_of_laid laid_eq first walked, ← listFunction_dispatcher walked, unlisted]

end Listing

/-! ## New contracts -/

section NewContract

variable {code : Code} {d : Disassembler} {directory : Directory} {entry : Block}
  {found : List Dispatch.Found}

/-- What is listed for a new contract after a walk through the whole dispatcher. -/
theorem findFunctions_of_walk (first : (Layout.ofCode code d).blockAt? 0 = some entry)
    (walked : Dispatch.walk (.ofCode code d) entry true = { found }) :
    findFunctions { code := some code } directory d =
      { state :=
          { code := some code
            layout := .ofCode code d
            functions :=
              (listFound found [] ++ [Function.unexplored Key.dispatcher 0 entry.start]).map
                (named directory) } } :=
  findFunctions_of_unlisted walked rfl rfl first directory

/-- Finding the functions of a new contract is to walk through its whole dispatcher. -/
theorem exists_walk_of_completed
    (completed : (findFunctions { code := some code } directory d).failure = none) :
    ∃ entry found, (Layout.ofCode code d).blockAt? 0 = some entry ∧
      Dispatch.walk (.ofCode code d) entry true = { found } := by
  obtain ⟨layout, entry, found, laid_eq, first, walked⟩ := exists_walk_of_found completed
  obtain rfl : .ofCode code d = layout := congrArg (·.state.layout) laid_eq
  exact ⟨entry, found, first, walked⟩

theorem lists_of_walk (first : (Layout.ofCode code d).blockAt? 0 = some entry)
    (walked : Dispatch.walk (.ofCode code d) entry true = { found }) :
    Lists (.ofCode code d) (listFound found []) (.unexplored Key.dispatcher 0 entry.start) := by
  refine ⟨apart_listing walked, ?_, ?_, rfl⟩
  · refine List.forall_mem_append.2 ⟨fun f member => ?_, List.forall_mem_singleton.2 ?_⟩
    · obtain ⟨new, fits, rfl⟩ := fits_of_mem_listFound walked member
      exact fits.entered
    · exact ⟨entry, (Layout.mem_of_blockAt? first).1, rfl⟩
  · intro f member
    obtain ⟨new, fits, rfl⟩ := fits_of_mem_listFound walked member
    exact fits.key_ne

/-- Finding the functions of a new contract lays it out and lists the functions, the dispatcher
last.
-/
theorem findFunctions_new
    (completed : (findFunctions { code := some code } directory d).failure = none) :
    ∃ functions dispatcher, Lists (.ofCode code d) functions dispatcher ∧
      (findFunctions { code := some code } directory d).state =
        { code := some code
          layout := .ofCode code d
          functions := functions ++ [dispatcher] } := by
  obtain ⟨entry, found, first, walked⟩ := exists_walk_of_completed completed
  refine ⟨_, _, (lists_of_walk first walked).named directory, ?_⟩
  rw [findFunctions_of_walk first walked, List.map_append]
  rfl

end NewContract

end Contract
end EvmFlow
