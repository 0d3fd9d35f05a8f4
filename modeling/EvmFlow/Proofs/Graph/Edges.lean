import EvmFlow.Graph.Edges
import EvmFlow.Proofs.Graph.Layout

/-!
# Edges and how they are added

An edge is recorded at both its ends, so successors and predecessors grow together.  The edges that
need no computed jump lead from a block into the one that adjoins it; adding them fails exactly when
the code ends with a conditional jump.
-/

namespace EvmFlow

/-- Control can go on from the end of the first block into the second. -/
structure Block.FallsTo (b c : Block) : Prop where
  adjoins : b.Adjoins c
  goesOn : b.endsInJumpi ∨ b.isClosed = false

theorem Block.next_last_of_endsInJumpi (b : Block) (conditional : b.endsInJumpi) :
    b.last.next = b.last.address + 1 := by
  have jumpi : b.last.operation = .plain .jumpi := by
    simpa [Block.endsInJumpi, Instruction.is] using conditional
  simp [Instruction.next, jumpi, Operation.operandSize]

namespace Edges

/-! ## Connecting blocks -/

theorem mem_addNeighbour {lists : Std.TreeMap Nat (List Nat)} {block neighbour x c : Nat} :
    c ∈ (addNeighbour lists block neighbour).getD x [] ↔
      c ∈ lists.getD x [] ∨ (x = block ∧ c = neighbour) := by
  simp only [addNeighbour, List.contains_eq_mem, decide_eq_true_eq]
  split
  · grind
  · simp only [Std.TreeMap.getD_insert, Nat.compare_eq_eq]
    grind

theorem nodup_addNeighbour {lists : Std.TreeMap Nat (List Nat)} {block neighbour : Nat}
    (nodup : ∀ x, (lists.getD x []).Nodup) (x : Nat) :
    ((addNeighbour lists block neighbour).getD x []).Nodup := by
  simp only [addNeighbour, List.contains_eq_mem, decide_eq_true_eq]
  split
  · exact nodup x
  · rename_i new
    rw [Std.TreeMap.getD_insert]
    split
    · exact List.nodup_append.2 ⟨nodup block, by simp, by grind⟩
    · exact nodup x

@[simp]
theorem mem_successors_connect {edges : Edges} {source target x c : Nat} :
    c ∈ (edges.connect source target).successors x ↔
      c ∈ edges.successors x ∨ (x = source ∧ c = target) :=
  mem_addNeighbour

@[simp]
theorem mem_predecessors_connect {edges : Edges} {source target x c : Nat} :
    c ∈ (edges.connect source target).predecessors x ↔
      c ∈ edges.predecessors x ∨ (x = target ∧ c = source) :=
  mem_addNeighbour

/-- Records several edges. -/
def connectAll (edges : Edges) (pairs : List (Nat × Nat)) : Edges :=
  pairs.foldl (fun edges pair => edges.connect pair.1 pair.2) edges

@[simp]
theorem connectAll_nil (edges : Edges) : edges.connectAll [] = edges := rfl

@[simp]
theorem connectAll_cons (edges : Edges) (pair : Nat × Nat) (pairs : List (Nat × Nat)) :
    edges.connectAll (pair :: pairs) = (edges.connect pair.1 pair.2).connectAll pairs := rfl

@[simp]
theorem mem_successors_connectAll {edges : Edges} {pairs : List (Nat × Nat)} {x c : Nat} :
    c ∈ (edges.connectAll pairs).successors x ↔ c ∈ edges.successors x ∨ (x, c) ∈ pairs := by
  induction pairs generalizing edges with
  | nil => simp
  | cons pair pairs ih =>
      obtain ⟨source, target⟩ := pair
      simp [ih, or_assoc]

@[simp]
theorem mem_predecessors_connectAll {edges : Edges} {pairs : List (Nat × Nat)} {x c : Nat} :
    c ∈ (edges.connectAll pairs).predecessors x ↔ c ∈ edges.predecessors x ∨ (c, x) ∈ pairs := by
  induction pairs generalizing edges with
  | nil => simp
  | cons pair pairs ih =>
      obtain ⟨source, target⟩ := pair
      simp only [connectAll_cons, ih, mem_predecessors_connect, List.mem_cons, Prod.mk.injEq]
      grind

/-- Blocks that receive no new predecessor keep their list as it is. -/
theorem predecessors_connectAll_of_notMem {edges : Edges} {pairs : List (Nat × Nat)} {x : Nat}
    (untouched : ∀ c, (c, x) ∉ pairs) :
    (edges.connectAll pairs).predecessors x = edges.predecessors x := by
  induction pairs generalizing edges with
  | nil => rfl
  | cons pair pairs ih =>
      rw [connectAll_cons, ih fun c => by grind]
      have distinct : x ≠ pair.2 := by
        rintro rfl
        exact untouched pair.1 (by simp)
      simp only [predecessors, connect, addNeighbour]
      split
      · rfl
      · rw [Std.TreeMap.getD_insert, if_neg]
        simpa [Nat.compare_eq_eq] using distinct.symm

@[simp]
theorem loose_connectAll (edges : Edges) (pairs : List (Nat × Nat)) :
    (edges.connectAll pairs).loose = edges.loose := by
  induction pairs generalizing edges with
  | nil => rfl
  | cons pair pairs ih =>
      rw [connectAll_cons, ih]
      rfl

/-! ## Edges between the blocks of a layout -/

/-- The edges lead to blocks of a layout, none is recorded twice, and none is loose. -/
structure Within (layout : Layout) (edges : Edges) : Prop where
  exists_block : ∀ {a c}, c ∈ edges.successors a → ∃ b ∈ layout.blocks, b.start = c
  nodup : ∀ a, (edges.successors a).Nodup
  tight : ∀ a, edges.isLoose a = false

theorem Within.ends_eq {layout : Layout} {edges : Edges} (within : edges.Within layout) (a : Nat) :
    edges.ends a = (edges.successors a).map some := by
  have tight := within.tight a
  rw [isLoose, Std.TreeMap.contains_eq_isSome_getElem?, Option.isSome_eq_false_iff,
    Option.isNone_iff_eq_none] at tight
  simp [ends, tight]

theorem Within.connectAll {layout : Layout} {edges : Edges} (within : edges.Within layout)
    {pairs : List (Nat × Nat)}
    (targets : ∀ pair ∈ pairs, ∃ b ∈ layout.blocks, b.start = pair.2) :
    (edges.connectAll pairs).Within layout where
  exists_block := by
    intro a c member
    rcases mem_successors_connectAll.1 member with member | member
    · exact within.exists_block member
    · exact targets _ member
  nodup := by
    have nodup := within.nodup
    clear within targets
    induction pairs generalizing edges with
    | nil => exact nodup
    | cons pair pairs ih => exact ih (nodup_addNeighbour nodup)
  tight := by
    intro a
    simp only [isLoose, loose_connectAll]
    exact within.tight a

/-- There are no edges at all. -/
structure Vacant (edges : Edges) : Prop where
  successors_eq : ∀ a, edges.successors a = []
  predecessors_eq : ∀ a, edges.predecessors a = []
  tight : ∀ a, edges.isLoose a = false

theorem vacant_empty : Vacant {} where
  successors_eq _ := Std.TreeMap.getD_emptyc
  predecessors_eq _ := Std.TreeMap.getD_emptyc
  tight _ := Std.TreeMap.contains_emptyc

theorem Vacant.within {edges : Edges} (vacant : edges.Vacant) (layout : Layout) :
    edges.Within layout where
  exists_block member := by simp [vacant.successors_eq] at member
  nodup a := by simp [vacant.successors_eq]
  tight := vacant.tight

/-! ## Edges that need no computed jump -/

theorem simpleTarget?_eq (b : Block) :
    simpleTarget? b = if b.endsInJumpi ∨ b.isClosed = false then some b.last.next else none := by
  rw [simpleTarget?]
  by_cases conditional : b.endsInJumpi
  · simp [conditional, Block.stop, b.next_last_of_endsInJumpi conditional]
  · by_cases closed : b.isClosed <;> simp [conditional, closed]

/-- The edge that leads from a block without a computed jump. -/
def simplePair? (layout : Layout) (b : Block) : Option (Nat × Nat) :=
  ((simpleTarget? b).bind layout.blockAt?).map fun target => (b.start, target.start)

/-- No conditional jump among some blocks lacks code after it. -/
def GoOn (layout : Layout) (bs : List Block) : Prop :=
  ∀ b ∈ bs, b.endsInJumpi → layout.blockAt? b.last.next ≠ none

theorem connectSimple_cons {layout : Layout} {b : Block} (bs : List Block)
    (found : b.endsInJumpi → layout.blockAt? b.last.next ≠ none) (edges : Edges) :
    connectSimple layout (b :: bs) edges =
      connectSimple layout bs (edges.connectAll (simplePair? layout b).toList) := by
  rw [connectSimple, simplePair?]
  cases target : simpleTarget? b with
  | none => rfl
  | some address =>
      have address_eq : address = b.last.next := by
        rw [simpleTarget?_eq] at target
        split at target <;> simp_all
      cases block : layout.blockAt? address with
      | some c => simp [block]
      | none =>
          have unconditional : b.endsInJumpi = false := by
            rw [← Bool.not_eq_true]
            intro conditional
            exact found conditional (address_eq ▸ block)
          simp [block, unconditional]

theorem connectSimple_append {layout : Layout} {before : List Block} (goOn : GoOn layout before)
    (after : List Block) (edges : Edges) :
    connectSimple layout (before ++ after) edges =
      connectSimple layout after (edges.connectAll (before.filterMap (simplePair? layout))) := by
  induction before generalizing edges with
  | nil => rfl
  | cons b bs ih =>
      rw [List.cons_append, connectSimple_cons _ (goOn b List.mem_cons_self),
        ih fun c member => goOn c (List.mem_cons_of_mem b member)]
      cases pair : simplePair? layout b <;> simp [pair]

end Edges

namespace Layout

/-- Whether the code ends with a conditional jump. -/
def endsInJumpi (layout : Layout) : Bool := layout.instructions.getLast?.any (·.is .jumpi)

namespace Coherent

variable {layout : Layout} (coherent : layout.Coherent)
include coherent

theorem endsInJumpi_of_getLast? {b : Block} (last : layout.blocks.getLast? = some b) :
    layout.endsInJumpi = b.endsInJumpi := by
  simp [endsInJumpi, coherent.getLast?_instructions last, Block.endsInJumpi]

/-- The simple edges are those along which control can fall from a block into the next. -/
theorem simplePair?_eq_some {b : Block} (b_mem : b ∈ layout.blocks) {x c : Nat} :
    Edges.simplePair? layout b = some (x, c) ↔
      b.start = x ∧ ∃ t ∈ layout.blocks, b.FallsTo t ∧ t.start = c := by
  simp only [Edges.simplePair?, Edges.simpleTarget?_eq]
  constructor
  · intro pair
    split at pair
    · rename_i goesOn
      obtain ⟨t, found, pair⟩ := Option.map_eq_some_iff.1 pair
      cases pair
      rw [Option.bind_some] at found
      exact ⟨rfl, t, (mem_of_blockAt? found).1, ⟨coherent.adjoins_of_next b_mem found, goesOn⟩, rfl⟩
    · simp at pair
  · rintro ⟨rfl, t, t_mem, falls, rfl⟩
    rw [if_pos falls.goesOn, Option.bind_some, falls.adjoins.next_eq,
      coherent.blockAt?_start t_mem]
    rfl

/-- The edges that need no computed jump. -/
theorem mem_simplePairs {x c : Nat} :
    (x, c) ∈ layout.blocks.filterMap (Edges.simplePair? layout) ↔
      ∃ b ∈ layout.blocks, ∃ t ∈ layout.blocks, b.FallsTo t ∧ b.start = x ∧ t.start = c := by
  rw [List.mem_filterMap]
  constructor
  · rintro ⟨b, b_mem, pair⟩
    obtain ⟨start_eq, t, t_mem, falls, target_eq⟩ := (coherent.simplePair?_eq_some b_mem).1 pair
    exact ⟨b, b_mem, t, t_mem, falls, start_eq, target_eq⟩
  · rintro ⟨b, b_mem, t, t_mem, falls, start_eq, target_eq⟩
    exact ⟨b, b_mem, (coherent.simplePair?_eq_some b_mem).2 ⟨start_eq, t, t_mem, falls, target_eq⟩⟩

/-- Every block but the last goes on. -/
theorem blockAt?_next_ne_none {b : Block} (b_mem : b ∈ layout.blocks)
    (notLast : layout.blocks.getLast? ≠ some b) : layout.blockAt? b.last.next ≠ none := by
  rcases coherent.exists_adjoining b_mem with last | ⟨c, c_mem, adjoins⟩
  · exact absurd last notLast
  · simp [adjoins.next_eq, coherent.blockAt?_start c_mem]

/-- A block that is left open falls into a jump destination. -/
theorem isDestination_of_next {b c : Block} (b_mem : b ∈ layout.blocks) (opened : b.isClosed = false)
    (next : layout.blockAt? b.last.next = some c) : c.isDestination :=
  (coherent.adjoins_of_next b_mem next).parted.resolve_left (by simp [opened])

theorem goOn_blocks (noJumpi : layout.endsInJumpi = false) : Edges.GoOn layout layout.blocks := by
  intro b b_mem conditional
  apply coherent.blockAt?_next_ne_none b_mem
  intro last
  simp [coherent.endsInJumpi_of_getLast? last, conditional] at noJumpi

/-- Unless the code ends with a conditional jump, the simple edges are added. -/
theorem addSimple_eq (noJumpi : layout.endsInJumpi = false) (edges : Edges) :
    edges.addSimple layout =
      { state := edges.connectAll (layout.blocks.filterMap (Edges.simplePair? layout)) } := by
  have appended := Edges.connectSimple_append (coherent.goOn_blocks noJumpi) [] edges
  rw [List.append_nil] at appended
  rw [Edges.addSimple, appended]
  rfl

/-- If the code ends with a conditional jump, adding the simple edges fails there. -/
theorem addSimple_failure (jumpi : layout.endsInJumpi) (edges : Edges) :
    ∃ i, layout.instructions.getLast? = some i ∧ i.is .jumpi ∧
      (edges.addSimple layout).failure = some (.missingBlock (i.address + 1)) := by
  cases last : layout.blocks.getLast? with
  | none =>
      have noBlocks : layout.blocks = [] := List.getLast?_eq_none_iff.1 last
      simp [endsInJumpi, ← coherent.flatMap_eq, noBlocks] at jumpi
  | some b =>
      have conditional : b.endsInJumpi := coherent.endsInJumpi_of_getLast? last ▸ jumpi
      have missing := coherent.blockAt?_next_eq_none last
      obtain ⟨before, split⟩ := List.getLast?_eq_some_iff.1 last
      have goOn : Edges.GoOn layout before := by
        intro c c_mem _
        apply coherent.blockAt?_next_ne_none (by simp [split, c_mem])
        rw [last]
        rintro ⟨rfl⟩
        have precedes := coherent.precedes
        rw [split] at precedes
        have below := (List.pairwise_append.1 precedes).2.2 b c_mem b (by simp)
        exact absurd (below b.first b.first_mem b.first b.first_mem) (Nat.lt_irrefl _)
      have target : Edges.simpleTarget? b = some b.last.next := by
        simp [Edges.simpleTarget?_eq, conditional]
      refine ⟨b.last, coherent.getLast?_instructions last, conditional, ?_⟩
      rw [Edges.addSimple, split, Edges.connectSimple_append goOn, Edges.connectSimple, target]
      simp only [missing, conditional, ↓reduceIte]
      rw [b.next_last_of_endsInJumpi conditional]

end Coherent
end Layout
end EvmFlow
