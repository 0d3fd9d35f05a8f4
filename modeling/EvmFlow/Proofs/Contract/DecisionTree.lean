import EvmFlow.Proofs.Contract.Listing

/-!
# Dispatchers that are trees of comparisons

A compiled dispatcher compares the selector of a call with those of the functions, along a tree that
splits them by their order.  Such a tree can be read back from its blocks: the functions found are
those that it tells apart, in the order of the tree.
-/

namespace EvmFlow

/-! ## The end of a block -/

/-- The block ends with the given operations. -/
def Block.EndsWith (b : Block) (operations : List Operation) : Prop :=
  operations <:+ b.instructions.map (·.operation)

instance (b : Block) (operations : List Operation) : Decidable (b.EndsWith operations) :=
  inferInstanceAs (Decidable (_ <:+ _))

/-- The block compares the selector with a number of the given width, and jumps on it. -/
def Block.Compares (b : Block) (m : Mnemonic) (width number target : Nat) : Prop :=
  ∃ n, b.EndsWith
    [.dup 1, .push width number, .plain m, .push n target, .plain .jumpi]

theorem Block.EndsWith.endsInJumpi {b : Block} {operations : List Operation}
    (ends : b.EndsWith operations) (last : operations.getLast? = some (.plain .jumpi)) :
    b.endsInJumpi := by
  obtain ⟨before, instructions_eq⟩ := ends
  have last_eq := congrArg List.getLast? instructions_eq
  rw [List.getLast?_append, last, List.getLast?_map, b.getLast?_instructions] at last_eq
  simpa [Block.endsInJumpi, Instruction.is] using last_eq.symm

theorem Block.Compares.uses {b : Block} {m : Mnemonic} {width number target : Nat}
    (compares : b.Compares m width number target) : b.uses [m] := by
  obtain ⟨n, ends⟩ := compares
  have member : .plain m ∈ b.instructions.map (·.operation) := ends.subset (by simp)
  simpa [Block.uses, Instruction.isAmong, Instruction.is] using member

namespace Dispatch

/-- The numbers pushed by instructions, in order. -/
def pushed (instructions : List Instruction) : List Nat :=
  instructions.filterMap (·.operation.operand?)

theorem lastPushed_eq (instructions : List Instruction) :
    lastPushed instructions =
      ((pushed instructions).getLast?, (pushed instructions).dropLast.getLast?) := by
  induction instructions using List.reverseRecOn with
  | nil => rfl
  | append_singleton is i ih =>
      have pushed_eq : pushed (is ++ [i]) = pushed is ++ i.operation.operand?.toList := by
        cases operand : i.operation.operand? <;> simp [pushed, operand]
      rw [lastPushed, List.foldl_concat, ← lastPushed, ih, pushed_eq]
      cases i.operation.operand? with
      | none => simp
      | some value => simp

theorem pushed_of_endsWith {b : Block} {operations : List Operation}
    (ends : b.EndsWith operations) :
    ∃ earlier, pushed b.instructions = earlier ++ operations.filterMap Operation.operand? := by
  obtain ⟨before, instructions_eq⟩ := ends
  refine ⟨before.filterMap Operation.operand?, ?_⟩
  rw [← List.filterMap_append, instructions_eq, List.filterMap_map]
  rfl

/-- A comparison decides on the function at its target, unless it is with zero. -/
theorem decision_of_compares {b : Block} {m : Mnemonic} {width number target : Nat}
    (compares : b.Compares m width number target) (noSize : b.uses [.callDataSize] = false) :
    decision b = if number = 0 then (none, none) else (some target, some (number : Int)) := by
  obtain ⟨n, ends⟩ := compares
  obtain ⟨earlier, pushed_eq⟩ := pushed_of_endsWith ends
  have jumps : b.endsInJumpi := ends.endsInJumpi rfl
  have pushed_eq : pushed b.instructions = (earlier ++ [number]) ++ [target] := by
    rw [pushed_eq, List.append_assoc]
    rfl
  simp only [decision, lastPushed_eq, pushed_eq, List.getLast?_concat, List.dropLast_concat, noSize,
    jumps, Bool.and_false, Bool.true_and, Bool.false_eq_true, if_false]
  by_cases zero : number = 0 <;> simp [zero]

/-- A look at the size of the call data decides on the fallback. -/
theorem decision_of_size {b : Block} {n target : Nat}
    (ends : b.EndsWith [.push n target, .plain .jumpi]) (size : b.uses [.callDataSize]) :
    decision b = (some target, some Key.fallback) := by
  obtain ⟨earlier, pushed_eq⟩ := pushed_of_endsWith ends
  have jumps : b.endsInJumpi := ends.endsInJumpi rfl
  have pushed_eq : pushed b.instructions = earlier ++ [target] := pushed_eq
  simp only [decision, lastPushed_eq, pushed_eq, List.getLast?_concat, size, jumps, Bool.and_true,
    if_true]

end Dispatch

/-! ## Trees of comparisons -/

/-- How a dispatcher decides on a function. -/
inductive DecisionTree
  /-- No function is decided on. -/
  | leaf
  /-- A selector has its function at the target; the others are decided on next. -/
  | select (selector target : Nat) (next : DecisionTree)
  /-- Call data of some sizes have the fallback at the target. -/
  | measure (target : Nat) (next : DecisionTree)
  /-- Selectors are decided on by their order. -/
  | split (pivot target : Nat) (taken next : DecisionTree)

namespace DecisionTree

/-- The functions told apart, with their addresses: the tree in preorder, the side of the jump first.
-/
def entries : DecisionTree → List (Nat × Key)
  | leaf => []
  | select selector target next => (target, (selector : Int)) :: next.entries
  | measure target next => (target, Key.fallback) :: next.entries
  | split _ _ taken next => taken.entries ++ next.entries

/-- The blocks of a layout decide, from a block on, as the tree does. -/
inductive Encoded (layout : Layout) : DecisionTree → Block → Prop
  | leaf {b : Block} (ends : b.endsInJumpi = false) : Encoded layout leaf b
  | select {b c : Block} (width : Nat) {selector target : Nat} {next : DecisionTree}
      (compares : b.Compares .eq width selector target) (selector_ne : selector ≠ 0)
      (target_ne : target ≠ 0) (noSize : b.uses [.callDataSize] = false)
      (noGt : b.uses [.gt] = false) (located : (layout.blockAt? target).isSome)
      (follows : layout.blockAt? (b.stop + 1) = some c) (rest : Encoded layout next c) :
      Encoded layout (select selector target next) b
  | measure {b c : Block} (n : Nat) {target : Nat} {next : DecisionTree}
      (jumps : b.EndsWith [.push n target, .plain .jumpi]) (target_ne : target ≠ 0)
      (size : b.uses [.callDataSize]) (noGt : b.uses [.gt] = false)
      (located : (layout.blockAt? target).isSome)
      (follows : layout.blockAt? (b.stop + 1) = some c) (rest : Encoded layout next c) :
      Encoded layout (measure target next) b
  | split {a b c : Block} (width : Nat) {pivot target : Nat} {taken next : DecisionTree}
      (compares : b.Compares .gt width pivot target) (pivot_ne : pivot ≠ 0)
      (target_ne : target ≠ 0) (noSize : b.uses [.callDataSize] = false)
      (located : layout.blockAt? target = some a) (low : Encoded layout taken a)
      (follows : layout.blockAt? (b.stop + 1) = some c) (rest : Encoded layout next c) :
      Encoded layout (split pivot target taken next) b

/-- A walk through the blocks of a tree finds the functions that it tells apart. -/
theorem Encoded.finds {layout : Layout} {tree : DecisionTree} {b : Block}
    (encoded : tree.Encoded layout b) :
    ∃ found, Dispatch.Finds layout b found ∧
      found.map (fun new => (new.start, new.key)) = tree.entries := by
  induction encoded with
  | leaf ends =>
      exact ⟨[], Dispatch.finds_of_undecided (Dispatch.undecided_of_not_jumpi ends), rfl⟩
  | select _ compares selector_ne target_ne noSize noGt located follows _ ih =>
      obtain ⟨found, finds, found_eq⟩ := ih
      obtain ⟨entry, located⟩ := Option.isSome_iff_exists.1 located
      have decided :=
        (Dispatch.decision_of_compares compares noSize).trans (if_neg selector_ne)
      exact ⟨_, .select decided target_ne follows finds noGt located, by
        rw [List.map_cons, found_eq, entries]⟩
  | measure _ jumps target_ne size noGt located follows _ ih =>
      obtain ⟨found, finds, found_eq⟩ := ih
      obtain ⟨entry, located⟩ := Option.isSome_iff_exists.1 located
      have decided := Dispatch.decision_of_size jumps size
      exact ⟨_, .select decided target_ne follows finds noGt located, by
        rw [List.map_cons, found_eq, entries]⟩
  | split _ compares pivot_ne target_ne noSize located _ follows _ low_ih ih =>
      obtain ⟨earlier, taken, earlier_eq⟩ := low_ih
      obtain ⟨later, finds, later_eq⟩ := ih
      have decided := (Dispatch.decision_of_compares compares noSize).trans (if_neg pivot_ne)
      exact ⟨_, .split decided target_ne follows finds compares.uses located taken, by
        rw [List.map_append, earlier_eq, later_eq, entries]⟩

end DecisionTree

/-- Finding the functions of code that decides by a tree lists those that the tree tells apart, each
with the block at its address, and the dispatcher after them.  Of functions at one address the last
in the tree is listed, in the place of the first. -/
theorem decisionTree_recovered (code : Code) {d : Disassembler} (directory : Directory)
    (tree : DecisionTree) (entry : Block) (first : (Layout.ofCode code d).blockAt? 0 = some entry)
    (unpaid : entry.uses [.callValue] = false) (encoded : tree.Encoded (.ofCode code d) entry) :
    let outcome := Contract.findFunctions { code := some code } directory d
    outcome.failure = none ∧
      outcome.state.functions.map (fun f => (f.start, f.key)) =
        (latest tree.entries).map (fun pair => ((pair.1 : Int), pair.2)) ++
          [(0, Key.dispatcher)] ∧
      ∀ f ∈ outcome.state.functions, ∃ address b,
        (Layout.ofCode code d).blockAt? address = some b ∧
          f = Contract.named directory (.unexplored f.key address b.start) := by
  obtain ⟨found, finds, found_eq⟩ := encoded.finds
  have walked := finds.walk_eq (Layout.mem_of_blockAt? first).1 (Dispatch.accepts_of_unused unpaid)
  refine ⟨Contract.findFunctions_completes first walked directory, ?_, fun f member => ?_⟩
  · rw [← found_eq]
    exact Contract.pairs_findFunctions first walked directory
  · exact Contract.located_of_mem_findFunctions first walked directory member

/-- Code that splits its functions by the number 5.  The two selectors 7 and 8 are decided on where
the jump leads, and 3 and then the fallback after it; 7 and 3 share an address. -/
def forkCode : Code :=
  [0x80, 0x60, 0x05, 0x11, 0x60, 0x13, 0x57, 0x80, 0x60, 0x03, 0x14, 0x60, 0x23, 0x57, 0x36, 0x60,
    0x25, 0x57, 0x00, 0x5b, 0x80, 0x60, 0x07, 0x14, 0x60, 0x23, 0x57, 0x80, 0x60, 0x08, 0x14, 0x60,
    0x27, 0x57, 0x00, 0x5b, 0x00, 0x5b, 0x00, 0x5b, 0x00]

/-- The tree by which this code decides. -/
def forkTree : DecisionTree :=
  .split 5 19 (.select 7 35 (.select 8 39 .leaf)) (.select 3 35 (.measure 37 .leaf))

set_option maxRecDepth 10000 in
theorem forkCode_encoded : ∃ entry, (Layout.ofCode forkCode).blockAt? 0 = some entry ∧
    entry.uses [.callValue] = false ∧ forkTree.Encoded (.ofCode forkCode) entry := by
  refine ⟨_, rfl, by decide, ?_⟩
  refine .split 1 ⟨1, by decide⟩ (by decide) (by decide) (by decide) rfl ?_ rfl ?_
  · refine .select 1 ⟨1, by decide⟩ (by decide) (by decide) (by decide) (by decide) rfl rfl ?_
    refine .select 1 ⟨1, by decide⟩ (by decide) (by decide) (by decide) (by decide) rfl rfl ?_
    exact .leaf (by decide)
  · refine .select 1 ⟨1, by decide⟩ (by decide) (by decide) (by decide) (by decide) rfl rfl ?_
    refine .measure 1 (by decide) (by decide) (by decide) (by decide) rfl rfl ?_
    exact .leaf (by decide)

theorem forkCode_recovered :
    (∃ entry, (Layout.ofCode forkCode).blockAt? 0 = some entry ∧
      entry.uses [.callValue] = false ∧ forkTree.Encoded (.ofCode forkCode) entry) ∧
    (Contract.findFunctions { code := some forkCode } {}).state.functions.map
      (fun f => (f.start, f.key)) =
        [(35, 3), (39, 8), (37, Key.fallback), (0, Key.dispatcher)] := by
  refine ⟨forkCode_encoded, ?_⟩
  obtain ⟨entry, first, unpaid, encoded⟩ := forkCode_encoded
  rw [(decisionTree_recovered forkCode {} forkTree entry first unpaid encoded).2.1]
  decide

end EvmFlow
