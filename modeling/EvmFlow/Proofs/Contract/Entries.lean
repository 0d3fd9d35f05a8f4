import EvmFlow.Proofs.Contract.Listing
import EvmFlow.Proofs.Graph.Partition

/-!
# Where functions begin

The dispatcher names the address of each function in a push before a jump.  The entry of the
function is the block found by this address, and blocks are found by their last addresses too; nor
need there be a jump destination.  A function begins at its address, with a jump destination,
exactly if this address is one that can be jumped to.
-/

namespace EvmFlow

/-- The block found by an address begins there with a jump destination if the address is one. -/
theorem Layout.begins_iff_mem_destinations {code : Code} {d : Disassembler} {address : Nat}
    {b : Block} (here : (Layout.ofCode code d).blockAt? address = some b) :
    address = b.start ∧ b.isDestination ↔ address ∈ (Layout.ofCode code d).destinations := by
  have coherent := Layout.ofCode_coherent code d
  constructor
  · rintro ⟨rfl, destination⟩
    exact coherent.start_mem_destinations (Layout.mem_of_blockAt? here).1 destination
  · intro member
    obtain ⟨i, i_mem, rfl⟩ := List.mem_map.1 member
    obtain ⟨i_mem, destination⟩ := List.mem_filter.1 i_mem
    obtain ⟨t, t_mem, start_eq, t_destination⟩ := Layout.exists_block_of_jumpDest i_mem destination
    have found := coherent.blockAt?_start t_mem
    rw [start_eq, here] at found
    obtain rfl := Option.some.inj found
    exact ⟨start_eq.symm, t_destination⟩

/-- The block found by the address zero begins there. -/
theorem Layout.Coherent.start_eq_zero {layout : Layout} (coherent : layout.Coherent) {b : Block}
    (here : layout.blockAt? 0 = some b) : b.start = 0 := by
  obtain ⟨b_mem, at_zero⟩ := Layout.mem_of_blockAt? here
  have ordered := coherent.start_le_stop b_mem
  omega

/-- Each function found in a code enters the block whose first or last address is that of the
function.  The dispatcher begins at zero.  Every other function begins at its own address, and with
a jump destination, exactly if its address can be jumped to. -/
theorem functions_begin_iff_destinations (code : Code) {d : Disassembler} (directory : Directory)
    (completed : (Contract.findFunctions { code := some code } directory d).failure = none) :
    let contract := (Contract.findFunctions { code := some code } directory d).state
    ∀ f ∈ contract.functions, ∃ b ∈ contract.layout.blocks, b.start = f.entry ∧
      (f.start = b.start ∨ f.start = b.stop) ∧
      (f.key = Key.dispatcher → f.start = 0 ∧ b.start = 0) ∧
      (f.key ≠ Key.dispatcher →
        (f.start = b.start ∧ b.isDestination ↔
          ∃ address ∈ contract.layout.destinations, f.start = address)) := by
  intro contract f member
  obtain ⟨entry, found, first, walked⟩ := Contract.exists_walk_of_completed completed
  have layout_eq : contract.layout = .ofCode code d := by
    simp only [contract, Contract.findFunctions_of_walk first walked]
  rw [layout_eq]
  rcases Contract.cases_of_mem_findFunctions first walked directory member with
    ⟨new, fits, rfl⟩ | rfl
  · have kin := Contract.kin_named directory (Contract.ofFound new)
    obtain ⟨b, here, entry_eq⟩ := fits.located
    obtain ⟨b_mem, bounds⟩ := Layout.mem_of_blockAt? here
    have begins_iff := Layout.begins_iff_mem_destinations here
    rw [kin.start_eq, kin.key_eq, kin.entry_eq]
    simp only [Contract.ofFound, Function.unexplored, Int.natCast_inj]
    refine ⟨b, b_mem, entry_eq, bounds.imp Eq.symm Eq.symm, fun dispatcher => ?_, fun _ => ?_⟩
    · exact absurd dispatcher fits.key_ne
    · rw [begins_iff]
      simp
  · have kin := Contract.kin_named directory (.unexplored Key.dispatcher 0 entry.start)
    have entry_mem := (Layout.mem_of_blockAt? first).1
    have start_eq := (Layout.ofCode_coherent code d).start_eq_zero first
    rw [kin.start_eq, kin.key_eq, kin.entry_eq]
    refine ⟨entry, entry_mem, rfl, .inl ?_, fun _ => ⟨rfl, start_eq⟩, fun other => ?_⟩
    · rw [start_eq]
      rfl
    · exact absurd rfl other

/-- Code that decides on three selectors.  The first leads to the end of a block, the second to a
block without a jump destination, the third to a jump destination. -/
def misledCode : Code :=
  [0x80, 0x60, 0x01, 0x14, 0x60, 0x18, 0x57, 0x80, 0x60, 0x02, 0x14, 0x60, 0x15, 0x57, 0x80, 0x60,
    0x03, 0x14, 0x60, 0x16, 0x57, 0x00, 0x5b, 0x33, 0x00]

/-- The third function begins where it should. -/
theorem misledCode_third_begins :
    let found := Contract.findFunctions { code := some misledCode } {}
    found.failure = none ∧ ∃ f ∈ found.state.functions, f.key = 3 ∧ f.start = 22 ∧
      ∃ b ∈ found.state.layout.blocks, b.start = f.entry ∧ f.start = b.start ∧ b.isDestination := by
  have completed : (Contract.findFunctions { code := some misledCode } {}).failure = none := by
    decide +kernel
  have listed : ∃ f ∈ (Contract.findFunctions { code := some misledCode } {}).state.functions,
      f.key = 3 ∧ f.start = 22 := by decide +kernel
  have destination :
      22 ∈ (Contract.findFunctions { code := some misledCode } {}).state.layout.destinations := by
    decide +kernel
  obtain ⟨f, f_mem, key_eq, start_eq⟩ := listed
  have key_ne : f.key ≠ Key.dispatcher := by
    rw [key_eq]
    decide
  obtain ⟨b, b_mem, entry_eq, -, -, begins_iff⟩ :=
    functions_begin_iff_destinations misledCode {} completed f f_mem
  obtain ⟨begins, b_destination⟩ := (begins_iff key_ne).2 ⟨22, destination, start_eq⟩
  exact ⟨completed, f, f_mem, key_eq, start_eq, b, b_mem, entry_eq, begins, b_destination⟩

/-- The first function enters a block that begins elsewhere, and the second one a block that cannot
be jumped to. -/
theorem misledCode_begins_elsewhere :
    let found := Contract.findFunctions { code := some misledCode } {}
    found.failure = none ∧
      (∃ f ∈ found.state.functions, f.key = 1 ∧ f.start = 24 ∧ f.entry = 22) ∧
      (∃ f ∈ found.state.functions, f.key = 2 ∧ f.start = 21 ∧ f.entry = 21) ∧
      found.state.layout.isDestination 21 = false := by
  decide +kernel

end EvmFlow
