import EvmFlow.Text.Quoted
import EvmFlow.Text.Utf8

/-!
# Reasons to stop

Every operation that can stop early names its reason here, and `Failure.message` is the one place
that puts a reason into words.
-/

namespace EvmFlow

/-- Why a file cannot be used. -/
inductive FileFault
  | missing
  | occupied
  | notFolder
  | isFolder
  | nameTooLong
deriving DecidableEq

/-- A fault in words, with its number. -/
def FileFault.message : FileFault → String
  | .missing => "[Errno 2] No such file or directory"
  | .occupied => "[Errno 17] File exists"
  | .notFolder => "[Errno 20] Not a directory"
  | .isFolder => "[Errno 21] Is a directory"
  | .nameTooLong => "[Errno 36] File name too long"

/-- Why an operation stopped before its end. -/
inductive Failure
  /-- No block is known at an address. -/
  | missingBlock (address : Nat)
  /-- An exploration was asked for a step with nothing left to explore. -/
  | nothingToExplore
  /-- A jump was recorded at an address without a block. -/
  | unknownJump
  /-- A jump was recorded to an address without a block. -/
  | unknownTarget
  /-- An edge was to be shown or visited that leads to no block. -/
  | looseEdgeShown
  /-- An edge was to be followed that leads to no block. -/
  | looseEdgeFollowed
  /-- An edge was to be visited on behalf of the dispatcher that leads to no block. -/
  | looseEdgeMarked
  /-- Code is given neither as text nor as bytes. -/
  | unsupportedCode
  /-- What is to be read as code is neither text nor bytes. -/
  | unreadableCode
  /-- The payment check at the entry has no pushed destination before its jump. -/
  | malformedPaymentCheck
  /-- A branch was asked of a block that does not end in a conditional jump. -/
  | notConditional
  /-- There is no function to add. -/
  | noFunction
  /-- The text stops being hexadecimal at a position. -/
  | notHexadecimal (position : Nat)
  /-- The bytes are not a text. -/
  | malformedText (malformed : Utf8.Malformed)
  /-- There is no code to strip of its metadata. -/
  | nothingToStrip
  /-- There is no code to disassemble. -/
  | nothingToDisassemble
  /-- A list has no element at an index. -/
  | indexOutOfRange
  /-- An index does not fit in a machine word. -/
  | indexTooLarge
  /-- The chosen branch is a block, and has no length. -/
  | branchWithoutLength
  /-- The chosen branch is a block, and cannot be stepped through. -/
  | branchNotStepwise
  /-- A value was added to an element that holds every value. -/
  | extendedTop
  /-- Nothing has been given a name. -/
  | unknownName (name : String)
  /-- The walk through the dispatcher does not end. -/
  | endlessDispatch
  /-- A file cannot be used. -/
  | file (fault : FileFault) (path : String)
  /-- The name of a file holds a character with number zero. -/
  | zeroInPath
deriving DecidableEq

namespace Failure

/-- The sentence on a malformed sequence of bytes. -/
def malformedMessage (malformed : Utf8.Malformed) : String :=
  let start := toString malformed.position
  let place :=
    match malformed.bytes with
    | [b] => "byte 0x" ++ String.ofList (Quoted.padded 2 b.toNat) ++ " in position " ++ start
    | seen => "bytes in position " ++ start ++ "-" ++ toString (malformed.position + seen.length - 1)
  "'utf-8' codec can't decode " ++ place ++ ": " ++ malformed.fault.message

/-- A reason in words. -/
def message : Failure → String
  | .missingBlock address => toString address
  | .nothingToExplore => "'pop from an empty set'"
  | .unknownJump => "'NoneType' object has no attribute 'add_outgoing_basic_block'"
  | .unknownTarget => "'NoneType' object has no attribute 'add_incoming_basic_block'"
  | .looseEdgeShown => "'NoneType' object has no attribute 'start'"
  | .looseEdgeFollowed => "'NoneType' object has no attribute 'outgoing_basic_blocks'"
  | .looseEdgeMarked => "'NoneType' object has no attribute 'reacheable'"
  | .unsupportedCode | .malformedPaymentCheck | .notConditional | .noFunction => ""
  | .notHexadecimal position =>
    "non-hexadecimal number found in fromhex() arg at position " ++ toString position
  | .malformedText malformed => malformedMessage malformed
  | .unreadableCode => "expected string or bytes-like object, got 'int'"
  | .nothingToStrip => "expected string or bytes-like object, got 'NoneType'"
  | .nothingToDisassemble => "'NoneType' object is not iterable"
  | .indexOutOfRange => "list index out of range"
  | .indexTooLarge => "cannot fit 'int' into an index-sized integer"
  | .branchWithoutLength => "object of type 'BasicBlock' has no len()"
  | .branchNotStepwise => "'BasicBlock' object is not an iterator"
  | .extendedTop => "'NoneType' object has no attribute 'add'"
  | .unknownName name => Quoted.name name
  | .endlessDispatch => "maximum recursion depth exceeded"
  | .file fault path => fault.message ++ ": " ++ Quoted.name path
  | .zeroInPath => "embedded null byte"

end Failure

/-- What an operation leaves behind: the state it reached, what it has to tell, and why it stopped
early, if it did. -/
structure Outcome (σ : Type) where
  state : σ
  notices : List String := []
  failure : Option Failure := none

namespace Outcome

variable {σ : Type}

/-- Goes on from an outcome; after a failure nothing more happens. -/
def andThen (first : Outcome σ) (next : σ → Outcome σ) : Outcome σ :=
  match first.failure with
  | some _ => first
  | none =>
    let second := next first.state
    { second with notices := first.notices ++ second.notices }

end Outcome
end EvmFlow
