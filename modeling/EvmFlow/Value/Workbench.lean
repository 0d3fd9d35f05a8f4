import Std.Data.TreeMap
import EvmFlow.Value.Display
import EvmFlow.Value.Merge

/-!
# A workbench for elements and stacks

Named elements and stacks that are changed step by step.  An element refers to a cell with its set of
values.  A stack and a name can refer to the same element, and a copy of an element shares its cell as
long as there is a value in it, so a change can be seen in several places.
-/

namespace EvmFlow
namespace Workbench

/-- An element: the values it keeps apart, and the cell with its values; without a cell it holds every
value. -/
structure Element where
  tracked : ValueSet
  cell? : Option Nat

/-- A stack of elements, given by their numbers, the top in front. -/
structure Pile where
  tracked : ValueSet
  slots : List Nat := []

/-- The cells, the elements, and what the names refer to. -/
structure Bench where
  cells : Array ValueSet := #[]
  elements : Array Element := #[]
  elementNames : Std.TreeMap String Nat := {}
  pileNames : Std.TreeMap String Pile := {}

/-- A step that changes the bench or is refused. -/
abbrev Work := StateT Bench (Except Failure)

/-- Makes an element with a value of its own. -/
def make (tracked : ValueSet) (value : AbstractValue) : Work Nat := do
  let bench ← get
  match value with
  | .top => set { bench with elements := bench.elements.push ⟨tracked, none⟩ }
  | .among values =>
    set
      { bench with
        cells := bench.cells.push values
        elements := bench.elements.push ⟨tracked, some bench.cells.size⟩ }
  return bench.elements.size

/-- The element under a number. -/
def element (number : Nat) : Work Element := do
  return ((← get).elements[number]?).getD ⟨.empty, none⟩

/-- The value of an element. -/
def valueOf (bench : Bench) (number : Nat) : AbstractValue :=
  match (bench.elements[number]?).bind (·.cell?) with
  | some cell => .among ((bench.cells[cell]?).getD .empty)
  | none => .top

/-- The value of the element under a number. -/
def value (number : Nat) : Work AbstractValue := do
  return valueOf (← get) number

/-- Copies an element; a set with values is shared. -/
def copy (number : Nat) : Work Nat := do
  let old ← element number
  match ← value number with
  | .top => make old.tracked .nothing
  | .among values =>
    if values.isEmpty then make old.tracked .nothing
    else
      let bench ← get
      set { bench with elements := bench.elements.push old }
      return bench.elements.size

/-- Replaces the values of an element by others in a new cell. -/
def replace (number : Nat) (value : AbstractValue) : Work Unit := do
  let old ← element number
  let bench ← get
  match value with
  | .top =>
    set { bench with elements := bench.elements.setIfInBounds number { old with cell? := none } }
  | .among values =>
    set
      { bench with
        cells := bench.cells.push values
        elements :=
          bench.elements.setIfInBounds number { old with cell? := some bench.cells.size } }

/-- Adds a value to an element, in its cell. -/
def extend (number : Nat) (v : Value) : Work Unit := do
  let old ← element number
  match AbstractValue.extended old.tracked v (← value number), old.cell? with
  | .error failure, _ => throw failure
  | .ok (.among values), some cell =>
    modify fun bench => { bench with cells := bench.cells.setIfInBounds cell values }
  | .ok _, _ => return

/-- The number of the element under a name. -/
def named (name : String) : Work Nat := do
  match (← get).elementNames.get? name with
  | some number => return number
  | none => throw (.unknownName name)

/-- The stack under a name. -/
def pile (name : String) : Work Pile := do
  match (← get).pileNames.get? name with
  | some pile => return pile
  | none => throw (.unknownName name)

/-- Lets a name, if there is one, refer to an element. -/
def nameElement (name? : Option String) (number : Nat) : Work Unit :=
  match name? with
  | some name =>
    modify fun bench => { bench with elementNames := bench.elementNames.insert name number }
  | none => return

/-- Lets a name, if there is one, refer to a stack. -/
def namePile (name? : Option String) (pile : Pile) : Work Unit :=
  match name? with
  | some name => modify fun bench => { bench with pileNames := bench.pileNames.insert name pile }
  | none => return

/-- The values on a stack. -/
def stackOf (pile : Pile) : Work AbstractStack := do
  let bench ← get
  return pile.slots.map (valueOf bench)

/-- What is put on a stack: a named element, or a value. -/
inductive Item
  | element (name : String)
  | value (v : Value)

/-- The element to be put on a stack, new for a value. -/
def itemFor (pile : Pile) : Item → Work Nat
  | .element name => named name
  | .value v => make pile.tracked (.ofValue pile.tracked v)

/-- Makes elements of which nothing is known, enough to reach a depth, and gives their numbers. -/
def makeUnknown (tracked : ValueSet) (depth : Nat) : Work (Nat → Nat) := do
  let first := (← get).elements.size
  for _ in List.range (depth + 1) do
    let _ ← make tracked .unknown
  return (first + ·)

/-- The element on top of a stack, new if the stack is empty, and the stack with it. -/
def topOf (pile : Pile) : Work (Nat × List Nat) := do
  match pile.slots with
  | number :: rest => return (number, number :: rest)
  | [] =>
    let number ← make pile.tracked .unknown
    return (number, [number])

/-- The element at a position of a stack, counted from the bottom. -/
def slotAt (pile : Pile) (position : Int) : Work Nat := do
  match pile.slots[← Stack.place pile.slots.length position]? with
  | some number => return number
  | none => throw .indexOutOfRange

/-- The stack after an exchange of the top with the element `n` places below it. -/
def swapped (pile : Pile) (n : Int) : Work (List Nat) := do
  if n + 1 ≤ pile.slots.length then
    return Stack.exchange (← Stack.place pile.slots.length (-1 - n)) pile.slots
  else
    let fresh ← makeUnknown pile.tracked n.toNat
    return Stack.sink fresh n.toNat pile.slots

/-- The stack with a copy of its `n`-th element on top. -/
def duplicated (pile : Pile) (n : Int) : Work (List Nat) := do
  if n ≤ pile.slots.length then
    return (← slotAt pile (-n)) :: pile.slots
  else
    return (← make pile.tracked .unknown) :: pile.slots

/-- Merges elements onto copies of at least as many, top by top. -/
def mergeOnto : List Nat → List Nat → Work (List Nat)
  | high, [] => return high
  | [], _ :: _ => return []
  | a :: high, b :: low => do
    let tracked := (← element a).tracked
    let merged ← make tracked (.merge tracked (← value a) (← value b))
    return merged :: (← mergeOnto high low)

/-- The elements of two stacks merged, aligned at their tops. -/
def merged (s t : Pile) : Work (List Nat) := do
  let (high, low) :=
    if t.slots.length ≤ s.slots.length then (s.slots, t.slots) else (t.slots, s.slots)
  mergeOnto (← high.mapM copy) low

/-- What can be done on a workbench; a result goes to the name that stands last, if there is one. -/
inductive Step
  | makeElement (tracked values : List Value) (target? : Option String)
  | extend (element : String) (v : Value)
  | replace (element : String) (values? : Option (List Value))
  | look (element : String)
  | and (first second : String) (target? : Option String)
  | merge (first second : String) (target? : Option String)
  | areEqual (first second : String)
  | copy (element : String) (target? : Option String)
  | describe (element : String)
  | makeStack (tracked : List Value) (target? : Option String)
  | push (stack : String) (item : Item)
  | insert (stack : String) (item : Item)
  | pop (stack : String) (target? : Option String)
  | top (stack : String) (target? : Option String)
  | get (stack : String) (index : Int) (target? : Option String)
  | swap (stack : String) (n : Int)
  | dup (stack : String) (n : Int)
  | setElements (stack : String) (elements : List String)
  | copyStack (stack source : String)
  | mergeStacks (first second : String) (target? : Option String)
  | joinStacks (names : List String) (tracked : List Value) (target? : Option String)
  | areEqualStacks (first second : String)
  | depth (stack : String)
  | describeStack (stack : String)
  | lookStack (stack : String)

/-- What a step shows. -/
inductive Answer
  | element (value : AbstractValue)
  | stack (values : AbstractStack)
  | both (value : AbstractValue) (values : AbstractStack)
  | truth (holds : Bool)
  | number (n : Nat)
  | text (words : String)

/-- Shows an element, after a name refers to it. -/
def answerElement (target? : Option String) (number : Nat) : Work Answer := do
  nameElement target? number
  return .element (← value number)

/-- Shows a stack, after a name refers to it. -/
def answerPile (target? : Option String) (pile : Pile) : Work Answer := do
  namePile target? pile
  return .stack (← stackOf pile)

/-- Makes elements for the values of a stack, bottom last. -/
def makeAll (tracked : ValueSet) (values : AbstractStack) : Work (List Nat) :=
  values.mapM (make tracked)

/-- Does one step. -/
def perform : Step → Work Answer
  | .makeElement tracked values target? => do
    answerElement target? (← make (.ofList tracked) (.among (.ofList values)))
  | .extend e v => do
    let number ← named e
    extend number v
    return .element (← value number)
  | .replace e values? => do
    let number ← named e
    replace number (values?.elim .top fun values => .among (.ofList values))
    return .element (← value number)
  | .look e => return .element (← value (← named e))
  | .and e f target? => do
    let number ← named e
    let tracked := (← element number).tracked
    answerElement target?
      (← make tracked (.and tracked (← value number) (← value (← named f))))
  | .merge e f target? => do
    let number ← named e
    let tracked := (← element number).tracked
    answerElement target?
      (← make tracked (.merge tracked (← value number) (← value (← named f))))
  | .areEqual e f => return .truth ((← value (← named e)) = (← value (← named f)))
  | .copy e target? => do answerElement target? (← copy (← named e))
  | .describe e => return .text (← value (← named e)).text
  | .makeStack tracked target? => answerPile target? { tracked := .ofList tracked }
  | .push s item => do
    let old ← pile s
    let number ← itemFor old item
    answerPile (some s) { old with slots := number :: old.slots }
  | .insert s item => do
    let old ← pile s
    let number ← itemFor old item
    answerPile (some s) { old with slots := old.slots ++ [number] }
  | .pop s target? => do
    let old ← pile s
    let (number, slots) ← topOf old
    let remaining := { old with slots := slots.tail }
    namePile (some s) remaining
    nameElement target? number
    return .both (← value number) (← stackOf remaining)
  | .top s target? => do
    let old ← pile s
    let (number, slots) ← topOf old
    let same := { old with slots }
    namePile (some s) same
    nameElement target? number
    return .both (← value number) (← stackOf same)
  | .get s index target? => do
    answerElement target? (← slotAt (← pile s) index)
  | .swap s n => do
    let old ← pile s
    answerPile (some s) { old with slots := ← swapped old n }
  | .dup s n => do
    let old ← pile s
    answerPile (some s) { old with slots := ← duplicated old n }
  | .setElements s elements => do
    let old ← pile s
    answerPile (some s) { old with slots := (← elements.mapM named).reverse }
  | .copyStack s source => do
    let old ← pile s
    answerPile (some s) { old with slots := ← (← pile source).slots.mapM copy }
  | .mergeStacks s t target? => do
    let first ← pile s
    answerPile target? { first with slots := ← merged first (← pile t) }
  | .joinStacks names tracked target? => do
    let group ← names.mapM fun name => do stackOf (← pile name)
    let tracked := ValueSet.ofList tracked
    answerPile target? ⟨tracked, ← makeAll tracked (AbstractStack.join tracked group)⟩
  | .areEqualStacks s t => return .truth ((← stackOf (← pile s)) = (← stackOf (← pile t)))
  | .depth s => return .number (← pile s).slots.length
  | .describeStack s => return .text (AbstractStack.text (← stackOf (← pile s)))
  | .lookStack s => return .stack (← stackOf (← pile s))

/-- Does one step; a step that is refused changes nothing. -/
def run (bench : Bench) (step : Step) : Except Failure Answer × Bench :=
  match (perform step).run bench with
  | .ok (answer, after) => (.ok answer, after)
  | .error failure => (.error failure, bench)

end Workbench
end EvmFlow
