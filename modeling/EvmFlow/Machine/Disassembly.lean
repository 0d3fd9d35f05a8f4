import EvmFlow.Machine.Instruction
import EvmFlow.Code.Source

/-!
# Disassembly

A disassembler reads code as instructions.  What else is worked out of code needs only this of it:
the instructions stand one after the other from the first byte on, a pushed number is a word, and what
is copied is counted from one.  `Disassembler` holds a reading with these facts.

The one that is used reads code from its first byte on.  A push is complete once its last operand byte
has been read; a push that the end of the code cuts short is no instruction.
-/

namespace EvmFlow

/-- The number that a push carries is a word. -/
def Operation.FitsWord : Operation → Prop
  | .push _ value => value < 1 <<< 256
  | _ => True

/-- A copy is of an element counted from one. -/
def Operation.CountsFromOne : Operation → Prop
  | .dup n => 0 < n
  | _ => True

/-- Instructions stand one after the other, the first at an address. -/
def Instruction.Consecutive (address : Nat) : List Instruction → Prop
  | [] => True
  | i :: rest => i.address = address ∧ Consecutive i.next rest

/-- A reading of code as instructions. -/
structure Disassembler where
  read : Code → List Instruction
  consecutive : ∀ code, Instruction.Consecutive 0 (read code)
  fitsWord : ∀ code, ∀ i ∈ read code, i.operation.FitsWord
  countsFromOne : ∀ code, ∀ i ∈ read code, i.operation.CountsFromOne

namespace Disassembly

/-- The place of the reader: before an operation, or inside the operand of a push. -/
inductive Place
  | operation
  | operand (start width missing value : Nat)

/-- Reads code from a place on; the address is that of the next byte. -/
def scan : Place → Nat → Code → List Instruction
  | _, _, [] => []
  | .operation, address, byte :: rest =>
    match Operation.ofByte byte with
    | .push width _ => scan (.operand address width width 0) (address + 1) rest
    | operation => ⟨address, operation⟩ :: scan .operation (address + 1) rest
  | .operand start width missing value, address, byte :: rest =>
    let value := value * 256 + byte.toNat
    if missing ≤ 1 then
      ⟨start, .push width value⟩ :: scan .operation (address + 1) rest
    else
      scan (.operand start width (missing - 1) value) (address + 1) rest

/-! ## What the reader reads -/

/-- The address of the instruction that the reader is about to complete. -/
def Place.begin (address : Nat) : Place → Nat
  | .operation => address
  | .operand start _ _ _ => start

/-- The bytes missing from an operand end where its push ends. -/
def Place.Fits (address : Nat) : Place → Prop
  | .operation => True
  | .operand start width missing _ => 0 < missing ∧ address + missing = start + 1 + width

/-- The part of an operand read so far is no longer than the bytes read. -/
def Place.Bounded : Place → Prop
  | .operation => True
  | .operand _ width missing value =>
    0 < missing ∧ missing ≤ width ∧ width ≤ 32 ∧ value < 1 <<< (8 * (width - missing))

theorem pushWidth_bounds {byte : UInt8} {width value : Nat}
    (isPush : Operation.ofByte byte = .push width value) : 0 < width ∧ width ≤ 32 := by
  simp only [Operation.ofByte] at isPush
  split at isPush
  · cases isPush
    omega
  · split at isPush
    · cases isPush
    · split at isPush <;> cases isPush

/-- One more byte adds one more digit. -/
theorem operand_lt {width missing value : Nat} (byte : UInt8) (some_missing : 0 < missing)
    (missing_le : missing ≤ width) (bounded : value < 1 <<< (8 * (width - missing))) :
    value * 256 + byte.toNat < 1 <<< (8 * (width - (missing - 1))) := by
  have digit : byte.toNat < 256 := byte.toNat_lt
  have bits : 8 * (width - (missing - 1)) = 8 * (width - missing) + 8 := by omega
  rw [bits, Nat.shiftLeft_add]
  omega

theorem scan_consecutive (place : Place) (address : Nat) (code : Code) (fits : place.Fits address) :
    Instruction.Consecutive (place.begin address) (scan place address code) := by
  fun_induction scan place address code with
  | case1 => trivial
  | case2 address byte rest width value isPush ih =>
      exact ih ⟨(pushWidth_bounds isPush).1, by omega⟩
  | case3 address byte rest notPush ih =>
      have noOperand : (Operation.ofByte byte).operandSize = 0 := by
        cases operation : Operation.ofByte byte with
        | push width value => exact absurd operation (notPush width value)
        | dup | swap | plain => rfl
      refine ⟨rfl, ?_⟩
      rw [Instruction.next, noOperand]
      exact ih trivial
  | case4 start width missing previous address byte rest value last ih =>
      have next_eq : start + 1 + width = address + 1 := by
        simp only [Place.Fits] at fits
        omega
      refine ⟨rfl, ?_⟩
      rw [Instruction.next, Operation.operandSize, next_eq]
      exact ih trivial
  | case5 start width missing previous address byte rest value notLast ih =>
      simp only [Place.Fits] at fits
      exact ih ⟨by omega, by omega⟩

theorem scan_fitsWord (place : Place) (address : Nat) (code : Code) (bounded : place.Bounded) :
    ∀ i ∈ scan place address code, i.operation.FitsWord := by
  fun_induction scan place address code with
  | case1 => simp
  | case2 address byte rest width value isPush ih =>
      obtain ⟨width_pos, width_le⟩ := pushWidth_bounds isPush
      exact ih ⟨width_pos, Nat.le_refl width, width_le, by simp⟩
  | case3 address byte rest notPush ih =>
      refine List.forall_mem_cons.2 ⟨?_, ih trivial⟩
      cases operation : Operation.ofByte byte with
      | push width value => exact absurd operation (notPush width value)
      | dup | swap | plain => trivial
  | case4 start width missing previous address byte rest value last ih =>
      obtain ⟨some_missing, missing_le, width_le, bounded⟩ := bounded
      refine List.forall_mem_cons.2 ⟨?_, ih trivial⟩
      have operand := operand_lt byte some_missing missing_le bounded
      have bits : 8 * (width - (missing - 1)) ≤ 256 := by omega
      refine Nat.lt_of_lt_of_le operand ?_
      rw [Nat.one_shiftLeft, Nat.one_shiftLeft]
      exact Nat.pow_le_pow_right (by decide) bits
  | case5 start width missing previous address byte rest value notLast ih =>
      obtain ⟨some_missing, missing_le, width_le, bounded⟩ := bounded
      exact ih ⟨by omega, by omega, width_le, operand_lt byte some_missing missing_le bounded⟩

theorem countsFromOne_ofByte (byte : UInt8) : (Operation.ofByte byte).CountsFromOne := by
  simp only [Operation.ofByte]
  split
  · trivial
  · split
    · change 0 < byte.toNat - 0x7f
      omega
    · split <;> trivial

theorem scan_countsFromOne (place : Place) (address : Nat) (code : Code) :
    ∀ i ∈ scan place address code, i.operation.CountsFromOne := by
  fun_induction scan place address code with
  | case1 => simp
  | case2 address byte rest width value isPush ih => exact ih
  | case3 address byte rest notPush ih =>
      exact List.forall_mem_cons.2 ⟨countsFromOne_ofByte byte, ih⟩
  | case4 start width missing previous address byte rest value last ih =>
      exact List.forall_mem_cons.2 ⟨trivial, ih⟩
  | case5 start width missing previous address byte rest value notLast ih => exact ih

end Disassembly

/-- The disassembler that is used if no other is asked for. -/
def Disassembler.evm : Disassembler where
  read := Disassembly.scan .operation 0
  consecutive code := Disassembly.scan_consecutive .operation 0 code trivial
  fitsWord code := Disassembly.scan_fitsWord .operation 0 code trivial
  countsFromOne code := Disassembly.scan_countsFromOne .operation 0 code

end EvmFlow
