import Std.Data.TreeMap
import EvmFlow.Graph.Block

/-!
# Assembling blocks

Instructions are taken one by one.  Each is added to the block that grows; a jump destination begins
another block, and an operation after which control does not simply go on ends the block.  One table
tells which block is found at an address, by the first or by the last instruction.  A block is in the
table while it still grows, so the table has the numbers of blocks and not what they hold.

What comes of ascending instructions is a list of blocks with a table in which each block is found at
its first address, and at its last one unless it still grows (`run_finds`).
-/

namespace EvmFlow

/-- Blocks under construction, numbered in the order in which they begin. -/
structure Assembly where
  /-- The blocks that no longer grow. -/
  done : List Block := []
  /-- The block that grows, once it has an instruction. -/
  growing : Option Block := none
  /-- The number of the block that is found at an address. -/
  table : Std.TreeMap Nat Nat := {}

namespace Assembly

/-- The blocks in the order of their numbers. -/
def blocks (a : Assembly) : List Block := a.done ++ a.growing.toList

/-- Enters the block that grows, or the one that is about to, under an address. -/
def enter (a : Assembly) (address : Nat) : Assembly :=
  { a with table := a.table.insert address a.done.length }

/-- Enters the block that grows under its last address, and lets it grow no longer. -/
def close (a : Assembly) : Assembly :=
  match a.growing with
  | none => a
  | some b => { a.enter b.stop with done := a.done ++ [b], growing := none }

/-- Adds an instruction to the block that grows, and enters the block if it is the first. -/
def add (a : Assembly) (i : Instruction) : Assembly :=
  let b := Block.extended i a.growing
  let a := { a with growing := some b }
  if b.start = i.address then a.enter i.address else a

/-- Takes the next instruction: a jump destination closes the block before it, and the block that the
instruction is added to is closed if it ends there. -/
def step (a : Assembly) (i : Instruction) : Assembly :=
  let a := if i.is .jumpDest then a.close.enter i.address else a
  let a := a.add i
  if a.growing.any Block.isClosed then a.close else a

/-- Takes instructions one after the other. -/
def run (instructions : List Instruction) : Assembly := instructions.foldl step {}

end Assembly

/-! ## Blocks in order -/

namespace Block

theorem first_mem (b : Block) : b.first ∈ b.instructions := List.mem_cons_self

theorem getLast?_instructions (b : Block) : b.instructions.getLast? = some b.last := by
  simp [instructions, last, List.getLast?_cons]

theorem last_mem (b : Block) : b.last ∈ b.instructions :=
  List.mem_of_getLast? b.getLast?_instructions

theorem instructions_extended (i : Instruction) (growing : Option Block) :
    (extended i growing).instructions = growing.toList.flatMap instructions ++ [i] := by
  cases growing <;> simp [extended, instructions]

/-- Every address of the first block lies below every address of the second. -/
def Precedes (b c : Block) : Prop :=
  ∀ i ∈ b.instructions, ∀ j ∈ c.instructions, i.address < j.address

theorem Precedes.bounds_lt {b c : Block} (precedes : b.Precedes c) :
    (b.start < c.start ∧ b.start < c.stop) ∧ b.stop < c.start ∧ b.stop < c.stop :=
  ⟨⟨precedes _ b.first_mem _ c.first_mem, precedes _ b.first_mem _ c.last_mem⟩,
    precedes _ b.last_mem _ c.first_mem, precedes _ b.last_mem _ c.last_mem⟩

theorem Precedes.ne {b c : Block} (precedes : b.Precedes c) : b ≠ c := by
  rintro rfl
  exact Nat.lt_irrefl _ precedes.bounds_lt.1.1

/-- Finds a block by the address of its first or last instruction. -/
def findAt? (address : Nat) : List Block → Option Block
  | [] => none
  | [b] => if b.start == address || (b.stop == address && b.isClosed) then some b else none
  | b :: bs => if b.start == address || b.stop == address then some b else findAt? address bs

/-- Among blocks that share no address, one is found at its first address and at its last, but for a
final block that is not closed. -/
theorem findAt?_eq_some_iff {address : Nat} {bs : List Block} {b : Block}
    (precedes : bs.Pairwise Precedes) :
    findAt? address bs = some b ↔
      b ∈ bs ∧ (b.start = address ∨
        (b.stop = address ∧ ¬ (bs.getLast? = some b ∧ b.isClosed = false))) := by
  induction bs with
  | nil => simp [findAt?]
  | cons c bs ih =>
      obtain ⟨before, precedes⟩ := List.pairwise_cons.1 precedes
      cases bs with
      | nil =>
          simp only [findAt?, List.mem_singleton, List.getLast?_singleton]
          split <;> grind
      | cons d bs =>
          have front_ne_last : (d :: bs).getLast? ≠ some c := by
            intro last
            exact (before c (List.mem_of_getLast? last)).ne rfl
          rw [findAt?.eq_3 address c (d :: bs) (by simp), List.getLast?_cons_cons, List.mem_cons]
          split
          · -- No later block has an address of the one in front.
            rename_i here
            simp only [Bool.or_eq_true, beq_iff_eq] at here
            constructor
            · rintro ⟨rfl⟩
              exact ⟨.inl rfl,
                here.imp_right fun stop_eq => ⟨stop_eq, fun last => front_ne_last last.1⟩⟩
            · rintro ⟨rfl | member, found⟩
              · rfl
              · have bounds_lt := (before b member).bounds_lt
                omega
          · rename_i elsewhere
            simp only [Bool.or_eq_true, beq_iff_eq, not_or] at elsewhere
            rw [ih precedes]
            constructor
            · exact fun found => ⟨.inr found.1, found.2⟩
            · rintro ⟨rfl | member, found⟩
              · exact absurd found (by grind)
              · exact ⟨member, found⟩

end Block

/-! ## What the table holds -/

/-- The addresses of instructions ascend. -/
def Instruction.Ascending (is : List Instruction) : Prop :=
  is.Pairwise fun i j : Instruction => i.address < j.address

theorem Instruction.Ascending.precedes {bs : List Block}
    (ascending : Ascending (bs.flatMap Block.instructions)) : bs.Pairwise Block.Precedes := by
  rw [Ascending, List.pairwise_flatMap] at ascending
  exact ascending.2

namespace Assembly

/-- The blocks hold the instructions taken so far.  A block that no longer grows is in the table under
its first and its last address, and the one that grows under its first; nothing else is there. -/
structure Holds (a : Assembly) (is : List Instruction) : Prop where
  whole : a.blocks.flatMap Block.instructions = is
  entered : ∀ address n, a.table[address]? = some n ↔
    (∃ b, a.done[n]? = some b ∧ (b.start = address ∨ b.stop = address)) ∨
      (n = a.done.length ∧ a.growing.map Block.start = some address)

theorem getElem?_insert_eq (table : Std.TreeMap Nat Nat) (address n other : Nat) :
    (table.insert address n)[other]? = if other = address then some n else table[other]? := by
  rw [Std.TreeMap.getElem?_insert]
  simp only [Nat.compare_eq_eq, eq_comm (a := address)]

variable {a : Assembly} {is : List Instruction} {i : Instruction}

/-- An entry is about an instruction that was taken. -/
theorem Holds.exists_mem (holds : a.Holds is) {address n : Nat}
    (entered : a.table[address]? = some n) : ∃ j ∈ is, j.address = address := by
  have taken : ∀ b ∈ a.blocks, ∀ j ∈ b.instructions, j ∈ is := fun b b_mem j j_mem =>
    holds.whole ▸ List.mem_flatMap_of_mem b_mem j_mem
  rcases (holds.entered address n).1 entered with ⟨b, here, bounds⟩ | ⟨-, here⟩
  · have b_mem : b ∈ a.blocks := List.mem_append_left _ (List.mem_of_getElem? here)
    rcases bounds with start_eq | stop_eq
    · exact ⟨b.first, taken b b_mem _ b.first_mem, start_eq⟩
    · exact ⟨b.last, taken b b_mem _ b.last_mem, stop_eq⟩
  · obtain ⟨b, grows, start_eq⟩ := Option.map_eq_some_iff.1 here
    have b_mem : b ∈ a.blocks := List.mem_append_right _ (by simp [grows])
    exact ⟨b.first, taken b b_mem _ b.first_mem, start_eq⟩

/-- The block that grows lies above the blocks that no longer do. -/
theorem Holds.below_growing (holds : a.Holds is) (ascending : Instruction.Ascending is) {g : Block}
    (grows : a.growing = some g) {b : Block} (b_mem : b ∈ a.done) : b.Precedes g := by
  have precedes : a.blocks.Pairwise Block.Precedes := (holds.whole ▸ ascending).precedes
  rw [blocks, grows, List.pairwise_append] at precedes
  exact precedes.2.2 b b_mem g (by simp)

theorem getElem?_concat_eq_some_iff {bs : List Block} {b g : Block} {n : Nat} :
    (bs ++ [g])[n]? = some b ↔ bs[n]? = some b ∨ (n = bs.length ∧ g = b) := by
  rw [List.getElem?_append]
  split
  · grind
  · grind

theorem Holds.close (holds : a.Holds is) (ascending : Instruction.Ascending is) :
    a.close.Holds is := by
  rw [Assembly.close]
  split
  · exact holds
  · rename_i g grows
    refine ⟨by simpa [blocks, grows] using holds.whole, fun address n => ?_⟩
    simp only [enter, getElem?_insert_eq, getElem?_concat_eq_some_iff, Option.map_none,
      reduceCtorEq, and_false, or_false]
    by_cases here : address = g.stop
    · rw [if_pos here, Option.some.injEq]
      constructor
      · rintro rfl
        exact ⟨g, .inr ⟨rfl, rfl⟩, .inr here.symm⟩
      · rintro ⟨b, there | ⟨rfl, -⟩, bounds⟩
        · have below := holds.below_growing ascending grows (List.mem_of_getElem? there)
          have bounds_lt := below.bounds_lt
          omega
        · rfl
    · rw [if_neg here, holds.entered, grows]
      grind

/-- The first instruction of a block is entered. -/
theorem Holds.begin (holds : a.Holds is) (above : ∀ j ∈ is, j.address < i.address)
    (idle : a.growing = none) {table : Std.TreeMap Nat Nat}
    (entered : ∀ address, table[address]? =
      if address = i.address then some a.done.length else a.table[address]?) :
    Holds { done := a.done, growing := some (Block.extended i none), table } (is ++ [i]) := by
  have vacant : ∀ n, a.table[i.address]? ≠ some n := by
    intro n there
    obtain ⟨j, taken, same⟩ := holds.exists_mem there
    exact Nat.ne_of_lt (above j taken) same
  have whole : a.done.flatMap Block.instructions = is := by
    simpa [blocks, idle] using holds.whole
  refine ⟨by simp [blocks, Block.instructions_extended, whole], fun address n => ?_⟩
  have start_eq : (Block.extended i none).start = i.address := rfl
  simp only [entered, Option.map_some, start_eq, Option.some.injEq]
  have former := holds.entered address n
  simp only [idle, Option.map_none, reduceCtorEq, and_false, or_false] at former
  by_cases here : address = i.address
  · subst here
    rw [← former]
    simp [vacant, eq_comm]
  · simp [here, former, Ne.symm here]

theorem Holds.extend (holds : a.Holds is) {g : Block} (grows : a.growing = some g) :
    Holds { a with growing := some (Block.extended i (some g)) } (is ++ [i]) := by
  refine ⟨?_, fun address n => ?_⟩
  · simp [← holds.whole, blocks, Block.instructions_extended, grows]
  · rw [holds.entered, grows]
    rfl

@[simp]
theorem growing_close (a : Assembly) : a.close.growing = none := by
  rw [close]
  split
  · assumption
  · rfl

@[simp]
theorem growing_add (a : Assembly) (i : Instruction) :
    (a.add i).growing = some (Block.extended i a.growing) := by
  rw [add]
  split <;> rfl

theorem Holds.add (holds : a.Holds is) (above : ∀ j ∈ is, j.address < i.address) :
    (a.add i).Holds (is ++ [i]) := by
  cases grows : a.growing with
  | none =>
      have start_eq : (Block.extended i none).start = i.address := rfl
      rw [Assembly.add, grows, if_pos start_eq]
      exact holds.begin above grows (getElem?_insert_eq a.table i.address a.done.length)
  | some g =>
      have g_mem : g ∈ a.blocks := List.mem_append_right _ (by simp [grows])
      have taken : g.first ∈ is := holds.whole ▸ List.mem_flatMap_of_mem g_mem g.first_mem
      have start_ne : (Block.extended i (some g)).start ≠ i.address := Nat.ne_of_lt (above _ taken)
      rw [Assembly.add, grows, if_neg start_ne]
      exact holds.extend grows

/-- A jump destination is entered before it is added, and once more afterwards. -/
theorem Holds.add_enter (holds : a.Holds is) (above : ∀ j ∈ is, j.address < i.address)
    (idle : a.growing = none) : ((a.enter i.address).add i).Holds (is ++ [i]) := by
  have start_eq : (Block.extended i none).start = i.address := rfl
  have idle_entered : (a.enter i.address).growing = none := idle
  rw [Assembly.add, idle_entered, if_pos start_eq]
  refine holds.begin above idle fun address => ?_
  rw [getElem?_insert_eq]
  split
  · rfl
  · rename_i elsewhere
    rw [enter, getElem?_insert_eq, if_neg elsewhere]

theorem Holds.step (holds : a.Holds is) (ascending : Instruction.Ascending (is ++ [i])) :
    (a.step i).Holds (is ++ [i]) := by
  obtain ⟨ascending_before, -, above⟩ := List.pairwise_append.1 ascending
  have above : ∀ j ∈ is, j.address < i.address := fun j taken => above j taken i (by simp)
  have added :
      ((if i.is .jumpDest then a.close.enter i.address else a).add i).Holds (is ++ [i]) := by
    split
    · exact (holds.close ascending_before).add_enter above a.growing_close
    · exact holds.add above
  rw [Assembly.step]
  generalize (if i.is .jumpDest then a.close.enter i.address else a).add i = taken at added
  split
  · exact added.close ascending
  · exact added

/-- After a step the last block grows unless it is closed. -/
def Settled (a : Assembly) : Prop := ∀ b ∈ a.blocks.getLast?, a.growing = none ↔ b.isClosed

theorem blocks_close (a : Assembly) : a.close.blocks = a.blocks := by
  rw [close]
  split
  · rfl
  · rename_i grows
    simp [blocks, grows]

theorem settled_step (a : Assembly) (i : Instruction) : (a.step i).Settled := by
  rw [step]
  generalize added : (if i.is .jumpDest then a.close.enter i.address else a).add i = taken
  obtain ⟨b, grows⟩ : ∃ b, taken.growing = some b := by
    rw [← added, growing_add]
    exact ⟨_, rfl⟩
  have last_eq : taken.blocks.getLast? = some b := by simp [blocks, grows]
  rw [grows, Option.any_some]
  split
  · rename_i closed
    simp [Settled, blocks_close, last_eq, closed]
  · rename_i unclosed
    simp [Settled, last_eq, grows, unclosed]

/-- The instructions taken are all in the blocks, and the table tells where each block is found. -/
theorem holds_foldl {later : List Instruction} (holds : a.Holds is) (settled : a.Settled)
    (ascending : Instruction.Ascending (is ++ later)) :
    (later.foldl step a).Holds (is ++ later) ∧ (later.foldl step a).Settled := by
  induction later generalizing a is with
  | nil => exact ⟨by simpa using holds, settled⟩
  | cons i later ih =>
      rw [List.append_cons] at ascending ⊢
      exact ih (holds.step (List.pairwise_append.1 ascending).1) (settled_step a i) ascending

theorem run_holds (ascending : Instruction.Ascending is) : (run is).Holds is ∧ (run is).Settled := by
  have holds : Holds {} [] := ⟨rfl, fun address n => by simp⟩
  exact holds_foldl holds (fun b last => by cases last) ascending

/-- A block is in the table under its first address, and under its last one unless it is a final block
that is not closed. -/
theorem Holds.entered_iff (holds : a.Holds is) (settled : a.Settled)
    (ascending : Instruction.Ascending is) {n : Nat} {b : Block} (here : a.blocks[n]? = some b)
    (address : Nat) :
    a.table[address]? = some n ↔ b.start = address ∨
      (b.stop = address ∧ ¬ (a.blocks.getLast? = some b ∧ b.isClosed = false)) := by
  rw [holds.entered]
  cases grows : a.growing with
  | none =>
      have blocks_eq : a.blocks = a.done := by simp [blocks, grows]
      have closed : a.blocks.getLast? = some b → b.isClosed := fun last =>
        (settled b last).1 grows
      rw [blocks_eq] at here closed ⊢
      simp only [here]
      grind
  | some g =>
      have blocks_eq : a.blocks = a.done ++ [g] := by simp [blocks, grows]
      have unclosed : g.isClosed = false := by
        have last : a.blocks.getLast? = some g := by simp [blocks_eq]
        simpa [grows] using settled g last
      rw [blocks_eq, List.getLast?_concat]
      rw [blocks_eq, getElem?_concat_eq_some_iff] at here
      rcases here with there | ⟨rfl, rfl⟩
      · have ne : b ≠ g :=
          (holds.below_growing ascending grows (List.mem_of_getElem? there)).ne
        have lt : n < a.done.length := (List.getElem?_eq_some_iff.1 there).1
        simp only [there]
        grind
      · simp [unclosed]

/-- The table finds the blocks by their first and last addresses. -/
theorem run_finds (ascending : Instruction.Ascending is) (address : Nat) :
    (run is).table[address]?.bind ((run is).blocks[·]?) =
      Block.findAt? address (run is).blocks := by
  obtain ⟨holds, settled⟩ := run_holds ascending
  generalize run is = a at holds settled
  ext b
  rw [Block.findAt?_eq_some_iff (holds.whole ▸ ascending).precedes, Option.bind_eq_some_iff,
    List.mem_iff_getElem?]
  constructor
  · rintro ⟨n, entered, here⟩
    exact ⟨⟨n, here⟩, (holds.entered_iff settled ascending here address).1 entered⟩
  · rintro ⟨⟨n, here⟩, bounds⟩
    exact ⟨n, (holds.entered_iff settled ascending here address).2 bounds, here⟩

end Assembly
end EvmFlow
