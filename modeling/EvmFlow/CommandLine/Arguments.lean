import EvmFlow.Text.Decimal

/-!
# The arguments of the command

An argument is an option, possibly with a value attached, or plain.  The name of an option may be cut
short as long as no other option begins in the same way.  After two dashes every argument is plain.
-/

namespace EvmFlow
namespace CommandLine

/-- What the arguments ask for. -/
structure Options where
  /-- The folder for drawings; none are written if it is empty. -/
  graphFolder : String := "crytic-export/evm"
  /-- The file for the interface; none is written if it is empty. -/
  interfaceFile : String := ""
  exploresFunctions : Bool := true
  /-- Asks for the optimised exploration, which is the only one. -/
  optimizes : Bool := false

/-- An option of the command. -/
inductive Flag
  | help
  | version
  | graphFolder
  | interfaceFile
  | withoutExploration
  | withoutOptimization
  | measured
deriving DecidableEq

namespace Flag

/-- All options. -/
def all : List Flag :=
  [.help, .version, .graphFolder, .interfaceFile, .withoutExploration, .withoutOptimization,
    .measured]

/-- The name of an option. -/
def name : Flag → List Char
  | .help => "--help".toList
  | .version => "--version".toList
  | .graphFolder => "--export-dot".toList
  | .interfaceFile => "--export-abi".toList
  | .withoutExploration => "--disable-cfg".toList
  | .withoutOptimization => "--disable-optimizations".toList
  | .measured => "--perf".toList

/-- The option with a name. -/
def ofName? (name : List Char) : Option Flag := all.find? (·.name = name)

/-- The options whose names begin in a given way. -/
def beginning (start : List Char) : List Flag := all.filter fun flag => start.isPrefixOf flag.name

end Flag

/-- What an argument is. -/
inductive Word
  /-- Neither an option nor two dashes. -/
  | plain (text : String)
  /-- Two dashes. -/
  | separator
  /-- An option, with the value attached to it by an equals sign, if there is one. -/
  | option (flag : Flag) (value? : Option String)
  /-- The short form of help with more attached to it. -/
  | shortHelp (attached : List Char)
  /-- Something like an option, but none. -/
  | unknown

/-- Whether text is a negative number: digits after the minus sign, or a point with digits after it and
possibly before; a line end may follow. -/
def isNegativeNumber (text : List Char) : Bool :=
  let line := if text.getLast? = some '\n' then text.dropLast else text
  match line with
  | '-' :: rest =>
    let whole := rest.takeWhile Decimal.isDigit
    match rest.dropWhile Decimal.isDigit with
    | [] => !whole.isEmpty
    | '.' :: fraction => !fraction.isEmpty && fraction.all Decimal.isDigit
    | _ => false
  | _ => false

/-- What text that begins like an option is, if it names none. -/
def strangeWord (text : List Char) : Word :=
  if isNegativeNumber text || text.contains ' ' then .plain (String.ofList text) else .unknown

/-- A text cut at its first equals sign; without one there is no second part. -/
def cutAtEquals (text : List Char) : List Char × Option (List Char) :=
  match text.dropWhile (· ≠ '=') with
  | [] => (text, none)
  | _ :: value => (text.takeWhile (· ≠ '='), some value)

/-- What text with two dashes in front is; `none` if it can be more than one option. -/
def longWord? (text : List Char) : Option Word :=
  let (start, value?) := cutAtEquals text
  match Flag.ofName? start with
  | some flag => some (.option flag (value?.map String.ofList))
  | none =>
    match Flag.beginning start with
    | [] => some (strangeWord text)
    | [flag] => some (.option flag (value?.map String.ofList))
    | _ => none

/-- What an argument is; `none` if it can be more than one option. -/
def word? (argument : String) : Option Word :=
  match argument.toList with
  | '-' :: '-' :: rest => longWord? ('-' :: '-' :: rest)
  | ['-', 'h'] => some (.option .help none)
  | '-' :: 'h' :: '=' :: rest => some (.shortHelp rest)
  | '-' :: 'h' :: rest => some (.shortHelp rest)
  | ['-'] => some (.plain argument)
  | '-' :: rest => some (strangeWord ('-' :: rest))
  | _ => some (.plain argument)

/-- What the arguments are; `none` if one of them can be more than one option. -/
def words? : List String → Option (List Word)
  | [] => some []
  | argument :: rest =>
    if argument = "--" then some (.separator :: rest.map .plain)
    else
      match word? argument, words? rest with
      | some word, some others => some (word :: others)
      | _, _ => none

/-- What has been read of the arguments. -/
structure Reading where
  options : Options := {}
  target? : Option String := none
  /-- Whether an argument was left over. -/
  leftover : Bool := false

namespace Reading

/-- Sets an option to a value; `none` if the option takes none. -/
def assign? (reading : Reading) (value : String) : Flag → Option Reading
  | .graphFolder => some { reading with options.graphFolder := value }
  | .interfaceFile => some { reading with options.interfaceFile := value }
  | _ => none

/-- Reads words one after the other; stops with a status if help is asked for, or if something is
wrong.  Two dashes are dropped if they stand right before or after the target. -/
def take (reading : Reading) : List Word → Except Nat Reading
  | [] => .ok reading
  | .option flag (some value) :: rest =>
    match reading.assign? (if value = "--" then "" else value) flag with
    | some assigned => take assigned rest
    | none => .error 2
  | .option .help none :: _ => .error 0
  | .option .version none :: _ => .error 0
  | .option .withoutExploration none :: rest =>
    take { reading with options.exploresFunctions := false } rest
  | .option .withoutOptimization none :: rest =>
    take { reading with options.optimizes := true } rest
  | .option .measured none :: rest => take reading rest
  | .option flag none :: .plain value :: rest =>
    match reading.assign? value flag with
    | some assigned => take assigned rest
    | none => .error 2
  | .option _ none :: _ => .error 2
  | .shortHelp attached :: _ =>
    if !attached.isEmpty && attached.all (· = 'h') then .error 0 else .error 2
  | .unknown :: rest => take { reading with leftover := true } rest
  | .separator :: .plain text :: rest =>
    if reading.target?.isNone then take { reading with target? := some text } rest
    else .error 2
  | .separator :: rest => take { reading with leftover := true } rest
  | .plain text :: .separator :: rest =>
    if reading.target?.isNone then take { reading with target? := some text } rest
    else .error 2
  | .plain text :: rest =>
    if reading.target?.isNone then take { reading with target? := some text } rest
    else take { reading with leftover := true } rest

end Reading

/-- The target and the options that the arguments ask for, or the status with which the command ends at
once. -/
def parse (arguments : List String) : Except Nat (String × Options) :=
  if arguments.isEmpty then .error 1
  else
    match words? arguments with
    | none => .error 2
    | some words =>
      match Reading.take {} words with
      | .error status => .error status
      | .ok { options, target? := some target, leftover := false } => .ok (target, options)
      | .ok _ => .error 2

end CommandLine
end EvmFlow
