import EvmFlow.Graph.Branch
import EvmFlow.Proofs.Contract.Attributes

/-!
# The branches of conditional jumps

Where a block of a function ends in a conditional jump, the edges of the function lead to the block
that follows and to the destinations found for the jump, as long as the last function of the same key
has the block as well.  The accessors of the branches list each side rightly, but then take the key
of the function for a position in the list and a block for something that has a length or can be
stepped through; so they never return.
-/

namespace EvmFlow

open Exploration

/-! ## Positions -/

namespace Position

variable {length : Nat} {position : Int}

theorem place_of_large (large : 0x8000000000000000 ≤ position) :
    place length position = .error .indexTooLarge := by
  rw [place, if_pos (.inr large)]

theorem place_of_outside (low : -0x8000000000000000 ≤ position)
    (high : position < 0x8000000000000000)
    (outside : ¬(-(length : Int) ≤ position ∧ position < length)) :
    place length position = .error .indexOutOfRange := by
  rw [place, if_neg (by omega)]
  dsimp only
  rw [if_pos (by split <;> omega)]

theorem exists_place_of_inside (low : -0x8000000000000000 ≤ position)
    (high : position < 0x8000000000000000)
    (inside : -(length : Int) ≤ position ∧ position < length) :
    ∃ n, place length position = .ok n := by
  rw [place, if_neg (by omega)]
  dsimp only
  rw [if_neg (by split <;> omega)]
  exact ⟨_, rfl⟩

end Position

/-! ## Accessors -/

namespace Branch

/-- A key is the position of an entry of a list. -/
def Picks (key : Key) (side : List Nat) : Prop :=
  key < 0x8000000000000000 ∧ -(side.length : Int) ≤ key ∧ key < side.length

instance (key : Key) (side : List Nat) : Decidable (Picks key side) :=
  inferInstanceAs (Decidable (_ ∧ _ ∧ _))

/-- Why there is no entry under a key. -/
def missed (key : Key) : Failure :=
  if key < 0x8000000000000000 then .indexOutOfRange else .indexTooLarge

theorem place_cases {key : Key} (low : -0x8000000000000000 ≤ key) (side : List Nat) :
    (Picks key side ∧ ∃ n, Position.place side.length key = .ok n) ∨
      (¬Picks key side ∧ Position.place side.length key = .error (missed key)) := by
  by_cases small : key < 0x8000000000000000
  · by_cases inside : -(side.length : Int) ≤ key ∧ key < side.length
    · exact .inl ⟨⟨small, inside⟩, Position.exists_place_of_inside low small inside⟩
    · refine .inr ⟨fun picks => inside picks.2, ?_⟩
      rw [missed, if_pos small]
      exact Position.place_of_outside low small inside
  · refine .inr ⟨fun picks => small picks.1, ?_⟩
    rw [missed, if_neg small]
    exact Position.place_of_large (Int.not_lt.1 small)

section Accessors

variable {graph : Graph} {b : Block} {key : Key} (conditional : b.endsInJumpi)
  (tight : (graph.edgesOf key).isLoose b.start = false) (low : -0x8000000000000000 ≤ key)
include conditional tight low

/-- The branch that is taken is never returned. -/
theorem taken_eq :
    taken graph b key =
      .error (if Picks key (takenSide graph b key) then .branchWithoutLength else missed key) := by
  rw [taken, if_pos conditional, if_neg (by simp [tight])]
  rcases place_cases low (takenSide graph b key) with ⟨picks, n, placed⟩ | ⟨misses, placed⟩
  · rw [placed, if_pos picks]
  · rw [placed, if_neg misses]

/-- Nor is the other branch, of which there are never two. -/
theorem other_eq (sole : (otherSide graph b key).length ≤ 1) :
    other graph b key =
      .error (if Picks key (otherSide graph b key) then .branchNotStepwise else missed key) := by
  rw [other, if_pos conditional]
  dsimp only
  rw [if_neg (by simp [tight]), if_neg (Nat.not_lt.2 sole)]
  rcases place_cases low (otherSide graph b key) with ⟨picks, n, placed⟩ | ⟨misses, placed⟩
  · rw [placed, if_pos picks]
  · rw [placed, if_neg misses]

end Accessors

/-- The fallback's key picks the only entry of a list, and no other key of a function does. -/
theorem picks_sole_iff {key : Int} (kind : key = Key.dispatcher ∨ key = Key.fallback ∨ 0 < key)
    {side : List Nat} (sole : side.length ≤ 1) :
    Picks key side ↔ key = Key.fallback ∧ side ≠ [] := by
  have kind : key = -2 ∨ key = -1 ∨ 0 < key := kind
  rw [ne_eq, ← List.length_eq_zero_iff]
  change (key < 0x8000000000000000 ∧ -(side.length : Int) ≤ key ∧ key < side.length) ↔
    key = -1 ∧ ¬side.length = 0
  omega

theorem mem_takenSide {graph : Graph} {b : Block} {key : Key} {c : Nat} :
    c ∈ takenSide graph b key ↔ (graph.edgesOf key).Leads b.start c ∧ c ≠ b.stop + 1 := by
  simp [takenSide, Edges.Leads]

/-- Where no successor is listed twice, the other side is the block that follows, or nothing. -/
theorem otherSide_eq {graph : Graph} {b : Block} {key : Key}
    (nodup : ((graph.edgesOf key).successors b.start).Nodup) :
    otherSide graph b key =
      if b.stop + 1 ∈ (graph.edgesOf key).successors b.start then [b.stop + 1] else [] := by
  rw [otherSide, List.filter_eq]
  split
  · rename_i leads
    rw [List.count_eq_one_of_mem nodup leads]
    rfl
  · rename_i missing
    rw [List.count_eq_zero_of_not_mem missing]
    rfl

end Branch

/-! ## Falls -/

/-- A conditional jump is followed by a block, unless it ends the code. -/
theorem Layout.Coherent.exists_falls {layout : Layout} (coherent : layout.Coherent)
    (noJumpi : layout.endsInJumpi = false) {b : Block} (b_mem : b ∈ layout.blocks)
    (conditional : b.endsInJumpi) :
    ∃ t ∈ layout.blocks, b.FallsTo t ∧ t.start = b.stop + 1 := by
  rcases coherent.exists_adjoining b_mem with last | ⟨t, t_mem, adjoins⟩
  · rw [coherent.endsInJumpi_of_getLast? last, conditional] at noJumpi
    cases noJumpi
  · have next_eq := adjoins.next_eq
    rw [b.next_last_of_endsInJumpi conditional] at next_eq
    exact ⟨t, t_mem, ⟨adjoins, .inl conditional⟩, next_eq.symm⟩

namespace Contract

section Studies

variable {contract : Contract} {d : Disassembler} {b t : Block}

/-- A study leaves the edges along which control falls out of the blocks it has explored. -/
theorem Coherent.leads_of_falls (coherent : contract.Coherent d) {f : Function}
    (entered : ∃ b ∈ contract.layout.blocks, b.start = f.entry)
    (noJumpi : contract.layout.endsInJumpi = false) (b_mem : b ∈ contract.layout.blocks)
    (t_mem : t ∈ contract.layout.blocks) (falls : b.FallsTo t) {schedule : Schedule}
    (explored : b.start ∈ (contract.studyOf false f schedule).analysis.state.explored) :
    ((contract.studyOf false f schedule).contract.graph.edgesOf f.key).Leads b.start t.start := by
  obtain ⟨entry, log, after, -, begins, concludes⟩ := coherent.concludes entered noJumpi schedule
  let problem := (contract.analysisOf f schedule).problem contract
  obtain ⟨-, rooted, faithful⟩ := concludes.invariant begins.coherent
    (fun log progress => Rooted problem entry.start progress.edges progress.state ∧
      Faithful problem log progress.edges progress.state)
    ⟨rooted_initial _ _ _, faithful_beginning begins.coherent _ noJumpi _⟩
    fun placed held move => ⟨move.rooted begins.coherent placed.within held.1,
      move.faithful begins.coherent held.2⟩
  rw [studyOf_of_concludes concludes] at explored ⊢
  rw [edgesOf_settledGraph]
  exact (Edges.mem_successors_restrict_reachable _ _).2
    ⟨rooted.reached (.inl explored), faithful.falls b_mem t_mem falls⟩

/-- After studies of several functions, the last one of a key still has these edges. -/
theorem Coherent.leads_of_falls_last (coherent : contract.Coherent d) {functions : List Function}
    (entered : ∀ f ∈ functions, ∃ b ∈ contract.layout.blocks, b.start = f.entry)
    (noJumpi : contract.layout.endsInJumpi = false) {plan : Plan} {before after : List Function}
    {f : Function} (split : contract.studiedByTurns plan functions = before ++ f :: after)
    (last : ∀ g ∈ after, g.key ≠ f.key) (b_mem : b ∈ contract.layout.blocks)
    (t_mem : t ∈ contract.layout.blocks) (falls : b.FallsTo t) (owned : b.start ∈ f.blocks) :
    ((contract.studyEach false plan functions).graph.edgesOf f.key).Leads b.start t.start := by
  induction functions generalizing contract before with
  | nil => simp [studiedByTurns] at split
  | cons g rest ih =>
      obtain ⟨g_entered, rest_entered⟩ := List.forall_mem_cons.1 entered
      let study := contract.studyOf false g (plan g.start)
      rw [studiedByTurns] at split
      cases before with
      | nil =>
          obtain ⟨rfl, rfl⟩ := List.cons.inj split
          have kin := contract.kin_studied g (plan g.start)
          rw [kin.key_eq] at last ⊢
          have others : ∀ h ∈ rest, h.key ≠ g.key := by
            rw [← List.forall_mem_map (P := (· ≠ g.key))] at last ⊢
            rwa [keys_studiedByTurns] at last
          have kept : (contract.studyEach false plan (g :: rest)).graph.edgesOf g.key =
              study.contract.graph.edgesOf g.key := edgesOf_studyEach_of_ne others plan
          rw [kept]
          rw [blocks_studied] at owned
          exact coherent.leads_of_falls g_entered noJumpi b_mem t_mem falls owned
      | cons first before =>
          obtain ⟨-, split⟩ := List.cons.inj split
          have coherent := coherent.studyOf g_entered (plan g.start)
          exact ih coherent rest_entered noJumpi split b_mem t_mem

end Studies

theorem exists_findRev?_key {functions : List Function} {f : Function} (f_mem : f ∈ functions) :
    ∃ before last after, functions = before ++ last :: after ∧ last.key = f.key ∧
      (∀ g ∈ after, g.key ≠ f.key) ∧ functions.findRev? (·.key = f.key) = some last := by
  obtain ⟨before, last, after, rfl, key_eq, later⟩ := exists_last_of_key ⟨f, f_mem, rfl⟩
  refine ⟨before, last, after, rfl, key_eq, later, ?_⟩
  rw [List.findRev?_eq_find?_reverse, List.find?_eq_some_iff_append]
  exact ⟨by simpa using key_eq, after.reverse, before.reverse, by simp, by simpa using later⟩

section Built

variable {directory : Directory} {source : Source} {stripsMetadata optimizes : Bool}
  {disassembler : Disassembler} {plan : Plan}
  (completed :
    (build directory source { stripsMetadata, optimizes, disassembler, plan }).failure = none)
include completed

/-- The last function of a key has the edges along which control falls out of its blocks. -/
theorem build_leads_of_falls {before after : List Function} {f : Function} :
    let contract := (build directory source { stripsMetadata, optimizes, disassembler, plan }).state
    contract.functions = before ++ f :: after → (∀ g ∈ after, g.key ≠ f.key) →
      ∀ b ∈ contract.layout.blocks, b.start ∈ f.blocks → ∀ t ∈ contract.layout.blocks,
        b.FallsTo t → (contract.graph.edgesOf f.key).Leads b.start t.start := by
  intro contract split last b b_mem owned t t_mem falls
  let found := (build directory source
    { stripsMetadata, exploresFunctions := false, optimizes, disassembler }).state
  have coherent : found.Coherent disassembler := coherent_build _ _ rfl
  obtain ⟨-, functions_eq, -⟩ := build_listed completed
  obtain ⟨noJumpi, -, -, layout_eq, graph_eq⟩ := build_turns completed
  rw [functions_eq] at split
  rw [layout_eq] at b_mem t_mem
  rw [graph_eq]
  exact coherent.leads_of_falls_last coherent.entered noJumpi split last b_mem t_mem falls owned

/-- The last function with the key of a function drops the edges of the blocks it does not have. -/
theorem build_successors_of_notMem {before after : List Function} {f last : Function} :
    let contract := (build directory source { stripsMetadata, optimizes, disassembler, plan }).state
    f ∈ contract.functions → contract.functions = before ++ last :: after → last.key = f.key →
      (∀ g ∈ after, g.key ≠ f.key) → ∀ a ∈ f.blocks, a ∉ last.blocks →
        (contract.graph.edgesOf f.key).successors a = [] := by
  intro contract f_mem split key_eq later a owned lost
  obtain ⟨functions, dispatcher, -, key_ne, recovering⟩ := build_recovering completed
  have functions_eq : contract.functions = functions ++ [dispatcher] := by
    simpa using recovering.functions_eq
  have function : last.key ≠ Key.dispatcher := by
    intro is_dispatcher
    have eq_dispatcher : ∀ g ∈ contract.functions, g.key = Key.dispatcher → g = dispatcher := by
      intro g g_mem g_key
      rw [functions_eq, List.mem_append, List.mem_singleton] at g_mem
      exact g_mem.resolve_left fun earlier => key_ne g earlier g_key
    have last_mem : last ∈ contract.functions := by simp [split]
    rw [eq_dispatcher last last_mem is_dispatcher] at lost
    rw [eq_dispatcher f f_mem (key_eq ▸ is_dispatcher)] at owned
    exact lost owned
  have settled := recovering.settled before last after (functions_eq ▸ split) function
    (key_eq.symm ▸ later)
  rw [← key_eq]
  exact settled.bare a lost

end Built
end Contract

open Contract

/-- In a contract that was built, each block of a function that ends in a conditional jump is followed
by a block.  The other side of the jump is the block that follows and the taken side has each further
successor once, if the last function with the key of the function has the block; otherwise both sides
are empty.  But neither branch is ever returned: the key of the function is taken for a position in
the side, and what is found there is no branch. -/
theorem branches_listed_not_returned (directory : Directory) (source : Source)
    (stripsMetadata optimizes : Bool) (disassembler : Disassembler) (plan : Plan)
    (completed :
      (build directory source { stripsMetadata, optimizes, disassembler, plan }).failure = none) :
    let contract := (build directory source { stripsMetadata, optimizes, disassembler, plan }).state
    ∀ f ∈ contract.functions, ∃ last, contract.functions.findRev? (·.key = f.key) = some last ∧
      ∀ b ∈ contract.layout.blocks, b.start ∈ f.blocks → b.endsInJumpi →
        let takenSide := Branch.takenSide contract.graph b f.key
        let otherSide := Branch.otherSide contract.graph b f.key
        (∃ t ∈ contract.layout.blocks, t.start = b.stop + 1) ∧
        otherSide = (if b.start ∈ last.blocks then [b.stop + 1] else []) ∧
        (b.start ∉ last.blocks → takenSide = []) ∧
        takenSide.Nodup ∧
        (∀ c, c ∈ takenSide ↔
          (contract.graph.edgesOf f.key).Leads b.start c ∧ c ≠ b.stop + 1) ∧
        Branch.taken contract.graph b f.key =
          .error (if Branch.Picks f.key takenSide then .branchWithoutLength
            else Branch.missed f.key) ∧
        Branch.other contract.graph b f.key =
          .error (if f.key = Key.fallback ∧ b.start ∈ last.blocks then .branchNotStepwise
            else Branch.missed f.key) := by
  intro contract f f_mem
  obtain ⟨before, last, after, split, key_eq, later, last_eq⟩ :=
    exists_findRev?_key f_mem
  refine ⟨last, last_eq, fun b b_mem owned conditional => ?_⟩
  intro takenSide otherSide
  have coherent : contract.Coherent disassembler := coherent_build _ _ rfl
  obtain ⟨noJumpi, -, -, layout_eq, -⟩ := build_turns completed
  have noJumpi : contract.layout.endsInJumpi = false := by rwa [layout_eq]
  obtain ⟨kind, -⟩ := build_named completed f f_mem
  have low : -0x8000000000000000 ≤ f.key := by
    rcases kind with key_eq | key_eq | positive
    · simp [key_eq, Key.dispatcher]
    · simp [key_eq, Key.fallback]
    · exact Int.le_trans (by decide) (Int.le_of_lt positive)
  have enclosed := coherent.enclosed f.key
  have nodup := enclosed.nodup b.start
  obtain ⟨t, t_mem, falls, start_eq⟩ :=
    coherent.coherent_layout.exists_falls noJumpi b_mem conditional
  -- The last function of the key decides whether the block still has its edges.
  have bare : b.start ∉ last.blocks → (contract.graph.edgesOf f.key).successors b.start = [] :=
    build_successors_of_notMem completed f_mem split key_eq later b.start owned
  have leads_iff : b.stop + 1 ∈ (contract.graph.edgesOf f.key).successors b.start ↔
      b.start ∈ last.blocks := by
    constructor
    · intro leads
      by_contra lost
      simp [bare lost] at leads
    · intro kept
      rw [← start_eq, ← key_eq]
      exact build_leads_of_falls completed split (key_eq.symm ▸ later) b b_mem kept t t_mem falls
  have otherSide_eq : otherSide = if b.start ∈ last.blocks then [b.stop + 1] else [] := by
    rw [← if_congr leads_iff rfl rfl]
    exact Branch.otherSide_eq nodup
  have sole : otherSide.length ≤ 1 := by
    rw [otherSide_eq]
    split <;> simp
  have picks_iff : Branch.Picks f.key otherSide ↔ f.key = Key.fallback ∧ b.start ∈ last.blocks := by
    rw [Branch.picks_sole_iff kind sole, otherSide_eq]
    simp
  refine ⟨⟨t, t_mem, start_eq⟩, otherSide_eq, fun lost => ?_, nodup.filter _,
    fun c => Branch.mem_takenSide, Branch.taken_eq conditional (enclosed.tight _) low, ?_⟩
  · change List.filter _ _ = []
    rw [bare lost, List.filter_nil]
  · rw [Branch.other_eq conditional (enclosed.tight _) low sole, if_congr picks_iff rfl rfl]

/-- Code with a fallback function at 12 and the function with the selector 1 at 18.  Both go to 24 if
the caller is not zero. -/
def callerCode : Code :=
  [0x36, 0x60, 0x0c, 0x57, 0x80, 0x60, 0x01, 0x14, 0x60, 0x12, 0x57, 0x00, 0x5b, 0x33, 0x60, 0x18,
    0x57, 0x00, 0x5b, 0x33, 0x60, 0x18, 0x57, 0x00, 0x5b, 0x00]

/-- The block at which one of the two functions begins. -/
def callerBlock (start : Nat) : Block :=
  ⟨⟨start, .plain .jumpDest⟩,
    [⟨start + 1, .plain .caller⟩, ⟨start + 2, .push 1 24⟩, ⟨start + 4, .plain .jumpi⟩]⟩

/-- The fallback function at 12. -/
def callerFallback : Function :=
  { Function.unexplored Key.fallback 12 12 with
    attributes := ["payable", "view"]
    blocks := [12, 17, 24] }

/-- The function at 18. -/
def callerFunction : Function :=
  { Function.unexplored 1 18 18 with attributes := ["payable", "view"], blocks := [18, 23, 24] }

theorem callerCode_functions :
    let outcome := build {} (.raw callerCode) {}
    outcome.failure = none ∧
      outcome.state.functions = [callerFallback, callerFunction,
        { Function.unexplored Key.dispatcher 0 0 with blocks := [0, 4, 11] }] := by
  decide +kernel

theorem callerCode_blocks :
    callerBlock 12 ∈ (build {} (.raw callerCode) {}).state.layout.blocks ∧
      callerBlock 18 ∈ (build {} (.raw callerCode) {}).state.layout.blocks := by
  decide +kernel

/-- The block that follows is listed on the other side, but a block is no list to step through. -/
theorem callerCode_branches_listed :
    let outcome := build {} (.raw callerCode) {}
    outcome.failure = none ∧ callerFallback ∈ outcome.state.functions ∧
      callerBlock 12 ∈ outcome.state.layout.blocks ∧
      (callerBlock 12).start ∈ callerFallback.blocks ∧ (callerBlock 12).endsInJumpi ∧
      Branch.otherSide outcome.state.graph (callerBlock 12) callerFallback.key = [17] ∧
      Branch.other outcome.state.graph (callerBlock 12) callerFallback.key =
        .error .branchNotStepwise := by
  obtain ⟨completed, functions_eq⟩ := callerCode_functions
  have listed : callerFallback ∈ (build {} (.raw callerCode) {}).state.functions := by
    rw [functions_eq]
    exact List.mem_cons_self
  obtain ⟨last, last_eq, branches⟩ :=
    branches_listed_not_returned {} (.raw callerCode) true true .evm .inOrder completed
      callerFallback listed
  rw [functions_eq] at last_eq
  obtain rfl : callerFallback = last := Option.some.inj last_eq
  obtain ⟨-, otherSide_eq, -, -, -, -, other_eq⟩ :=
    branches (callerBlock 12) callerCode_blocks.1 (by decide) (by decide)
  exact ⟨completed, listed, callerCode_blocks.1, by decide, by decide, otherSide_eq, other_eq⟩

/-- There is a block on each side, but none is returned: the selector is no position in a list of one
block, and the fallback's key is the position of a block. -/
theorem callerCode_branches_missed :
    let outcome := build {} (.raw callerCode) {}
    let graph := outcome.state.graph
    outcome.failure = none ∧ callerFallback ∈ outcome.state.functions ∧
      callerFunction ∈ outcome.state.functions ∧
      callerBlock 12 ∈ outcome.state.layout.blocks ∧
      callerBlock 18 ∈ outcome.state.layout.blocks ∧
      (graph.edgesOf callerFallback.key).successors 12 = [17, 24] ∧
      (graph.edgesOf callerFunction.key).successors 18 = [23, 24] ∧
      Branch.other graph (callerBlock 12) callerFallback.key = .error .branchNotStepwise ∧
      Branch.taken graph (callerBlock 12) callerFallback.key = .error .branchWithoutLength ∧
      Branch.other graph (callerBlock 18) callerFunction.key = .error .indexOutOfRange ∧
      Branch.taken graph (callerBlock 18) callerFunction.key = .error .indexOutOfRange := by
  decide +kernel

end EvmFlow
