/-!
# Opcodes

The operations of the machine, the bytes that encode them, their names, and how many stack elements
each takes and leaves.
-/

namespace EvmFlow

/-- An operation that is encoded in one byte and carries no number. -/
inductive Mnemonic
  | stop | add | mul | sub | div | sdiv | mod | smod | addMod | mulMod | exp | signExtend | lt | gt
  | slt | sgt | eq | isZero | and | or | xor | not | byte | shl | shr | sar | sha3 | address
  | balance | origin | caller | callValue | callDataLoad | callDataSize | callDataCopy | codeSize
  | codeCopy | gasPrice | extCodeSize | extCodeCopy | returnDataSize | returnDataCopy | extCodeHash
  | blockHash | coinbase | timestamp | number | difficulty | gasLimit | chainId | selfBalance | pop
  | mload | mstore | mstore8 | sload | sstore | jump | jumpi | getPc | msize | gas | jumpDest
  | log0 | log1 | log2 | log3 | log4 | create | call | callCode | returnData | delegateCall
  | create2 | staticCall | revert | invalid | selfDestruct
deriving DecidableEq

namespace Mnemonic

/-- The operation that a byte encodes; a byte without an operation is invalid. -/
def ofByte (byte : Nat) : Mnemonic :=
  match byte with
  | 0x00 => .stop
  | 0x01 => .add
  | 0x02 => .mul
  | 0x03 => .sub
  | 0x04 => .div
  | 0x05 => .sdiv
  | 0x06 => .mod
  | 0x07 => .smod
  | 0x08 => .addMod
  | 0x09 => .mulMod
  | 0x0a => .exp
  | 0x0b => .signExtend
  | 0x10 => .lt
  | 0x11 => .gt
  | 0x12 => .slt
  | 0x13 => .sgt
  | 0x14 => .eq
  | 0x15 => .isZero
  | 0x16 => .and
  | 0x17 => .or
  | 0x18 => .xor
  | 0x19 => .not
  | 0x1a => .byte
  | 0x1b => .shl
  | 0x1c => .shr
  | 0x1d => .sar
  | 0x20 => .sha3
  | 0x30 => .address
  | 0x31 => .balance
  | 0x32 => .origin
  | 0x33 => .caller
  | 0x34 => .callValue
  | 0x35 => .callDataLoad
  | 0x36 => .callDataSize
  | 0x37 => .callDataCopy
  | 0x38 => .codeSize
  | 0x39 => .codeCopy
  | 0x3a => .gasPrice
  | 0x3b => .extCodeSize
  | 0x3c => .extCodeCopy
  | 0x3d => .returnDataSize
  | 0x3e => .returnDataCopy
  | 0x3f => .extCodeHash
  | 0x40 => .blockHash
  | 0x41 => .coinbase
  | 0x42 => .timestamp
  | 0x43 => .number
  | 0x44 => .difficulty
  | 0x45 => .gasLimit
  | 0x46 => .chainId
  | 0x47 => .selfBalance
  | 0x50 => .pop
  | 0x51 => .mload
  | 0x52 => .mstore
  | 0x53 => .mstore8
  | 0x54 => .sload
  | 0x55 => .sstore
  | 0x56 => .jump
  | 0x57 => .jumpi
  | 0x58 => .getPc
  | 0x59 => .msize
  | 0x5a => .gas
  | 0x5b => .jumpDest
  | 0xa0 => .log0
  | 0xa1 => .log1
  | 0xa2 => .log2
  | 0xa3 => .log3
  | 0xa4 => .log4
  | 0xf0 => .create
  | 0xf1 => .call
  | 0xf2 => .callCode
  | 0xf3 => .returnData
  | 0xf4 => .delegateCall
  | 0xf5 => .create2
  | 0xfa => .staticCall
  | 0xfd => .revert
  | 0xff => .selfDestruct
  | _ => .invalid

/-- The name, the number of elements taken, and the number of elements left. -/
def entry : Mnemonic → String × Nat × Nat
  | .stop => ("STOP", 0, 0)
  | .add => ("ADD", 2, 1)
  | .mul => ("MUL", 2, 1)
  | .sub => ("SUB", 2, 1)
  | .div => ("DIV", 2, 1)
  | .sdiv => ("SDIV", 2, 1)
  | .mod => ("MOD", 2, 1)
  | .smod => ("SMOD", 2, 1)
  | .addMod => ("ADDMOD", 3, 1)
  | .mulMod => ("MULMOD", 3, 1)
  | .exp => ("EXP", 2, 1)
  | .signExtend => ("SIGNEXTEND", 2, 1)
  | .lt => ("LT", 2, 1)
  | .gt => ("GT", 2, 1)
  | .slt => ("SLT", 2, 1)
  | .sgt => ("SGT", 2, 1)
  | .eq => ("EQ", 2, 1)
  | .isZero => ("ISZERO", 1, 1)
  | .and => ("AND", 2, 1)
  | .or => ("OR", 2, 1)
  | .xor => ("XOR", 2, 1)
  | .not => ("NOT", 1, 1)
  | .byte => ("BYTE", 2, 1)
  | .shl => ("SHL", 2, 1)
  | .shr => ("SHR", 2, 1)
  | .sar => ("SAR", 2, 1)
  | .sha3 => ("SHA3", 2, 1)
  | .address => ("ADDRESS", 0, 1)
  | .balance => ("BALANCE", 1, 1)
  | .origin => ("ORIGIN", 0, 1)
  | .caller => ("CALLER", 0, 1)
  | .callValue => ("CALLVALUE", 0, 1)
  | .callDataLoad => ("CALLDATALOAD", 1, 1)
  | .callDataSize => ("CALLDATASIZE", 0, 1)
  | .callDataCopy => ("CALLDATACOPY", 3, 0)
  | .codeSize => ("CODESIZE", 0, 1)
  | .codeCopy => ("CODECOPY", 3, 0)
  | .gasPrice => ("GASPRICE", 0, 1)
  | .extCodeSize => ("EXTCODESIZE", 1, 1)
  | .extCodeCopy => ("EXTCODECOPY", 4, 0)
  | .returnDataSize => ("RETURNDATASIZE", 0, 1)
  | .returnDataCopy => ("RETURNDATACOPY", 3, 0)
  | .extCodeHash => ("EXTCODEHASH", 1, 1)
  | .blockHash => ("BLOCKHASH", 1, 1)
  | .coinbase => ("COINBASE", 0, 1)
  | .timestamp => ("TIMESTAMP", 0, 1)
  | .number => ("NUMBER", 0, 1)
  | .difficulty => ("DIFFICULTY", 0, 1)
  | .gasLimit => ("GASLIMIT", 0, 1)
  | .chainId => ("CHAINID", 0, 1)
  | .selfBalance => ("SELFBALANCE", 0, 1)
  | .pop => ("POP", 1, 0)
  | .mload => ("MLOAD", 1, 1)
  | .mstore => ("MSTORE", 2, 0)
  | .mstore8 => ("MSTORE8", 2, 0)
  | .sload => ("SLOAD", 1, 1)
  | .sstore => ("SSTORE", 2, 0)
  | .jump => ("JUMP", 1, 0)
  | .jumpi => ("JUMPI", 2, 0)
  | .getPc => ("GETPC", 0, 1)
  | .msize => ("MSIZE", 0, 1)
  | .gas => ("GAS", 0, 1)
  | .jumpDest => ("JUMPDEST", 0, 0)
  | .log0 => ("LOG0", 2, 0)
  | .log1 => ("LOG1", 3, 0)
  | .log2 => ("LOG2", 4, 0)
  | .log3 => ("LOG3", 5, 0)
  | .log4 => ("LOG4", 6, 0)
  | .create => ("CREATE", 3, 1)
  | .call => ("CALL", 7, 1)
  | .callCode => ("CALLCODE", 7, 1)
  | .returnData => ("RETURN", 2, 0)
  | .delegateCall => ("DELEGATECALL", 6, 1)
  | .create2 => ("CREATE2", 3, 1)
  | .staticCall => ("STATICCALL", 6, 1)
  | .revert => ("REVERT", 2, 0)
  | .invalid => ("INVALID", 0, 0)
  | .selfDestruct => ("SELFDESTRUCT", 1, 0)

/-- The name of an operation. -/
def name (m : Mnemonic) : String := m.entry.1

/-- The number of elements an operation takes from the stack. -/
def pops (m : Mnemonic) : Nat := m.entry.2.1

/-- The number of elements an operation leaves on the stack. -/
def pushes (m : Mnemonic) : Nat := m.entry.2.2

end Mnemonic

/-- An operation with the numbers that belong to it. -/
inductive Operation
  /-- Pushes a number written in the `width` bytes that follow. -/
  | push (width value : Nat)
  /-- Copies the `n`-th element from the top onto the top. -/
  | dup (n : Nat)
  /-- Exchanges the top with the element `n` places below it. -/
  | swap (n : Nat)
  | plain (mnemonic : Mnemonic)
deriving DecidableEq

namespace Operation

/-- The operation that a byte encodes; a push still lacks its number. -/
def ofByte (byte : UInt8) : Operation :=
  let b := byte.toNat
  if 0x60 ≤ b ∧ b ≤ 0x7f then .push (b - 0x5f) 0
  else if 0x80 ≤ b ∧ b ≤ 0x8f then .dup (b - 0x7f)
  else if 0x90 ≤ b ∧ b ≤ 0x9f then .swap (b - 0x8f)
  else .plain (Mnemonic.ofByte b)

/-- The name of an operation. -/
def name : Operation → String
  | .push width _ => "PUSH" ++ toString width
  | .dup n => "DUP" ++ toString n
  | .swap n => "SWAP" ++ toString n
  | .plain m => m.name

/-- The number of elements an operation takes from the stack. -/
def pops : Operation → Nat
  | .push _ _ => 0
  | .dup n => n
  | .swap n => n + 1
  | .plain m => m.pops

/-- The number of elements an operation leaves on the stack. -/
def pushes : Operation → Nat
  | .push _ _ => 1
  | .dup n => n + 1
  | .swap n => n + 1
  | .plain m => m.pushes

/-- The number of bytes of the operand. -/
def operandSize : Operation → Nat
  | .push width _ => width
  | _ => 0

/-- The number a push carries. -/
def operand? : Operation → Option Nat
  | .push _ value => some value
  | _ => none

/-- Whether control does not simply go on to the next instruction. -/
def endsBlock : Operation → Bool
  | .plain .stop | .plain .selfDestruct | .plain .returnData | .plain .revert | .plain .invalid
  | .plain .jump | .plain .jumpi => true
  | _ => false

/-- Whether the operation jumps, conditionally or not. -/
def isJump : Operation → Bool
  | .plain .jump | .plain .jumpi => true
  | _ => false

end Operation
end EvmFlow
