import EvmFlow.Value.Stack

/-!
# Abstract values and stacks in words

A set is written between braces, unknown first; the empty set and the element that holds every value
have words of their own.  A stack is written with its bottom in front.
-/

namespace EvmFlow

/-- A value in words. -/
def Value.text : Value → String
  | none => "None"
  | some n => toString n

/-- An element in words. -/
def AbstractValue.text : AbstractValue → String
  | .top => "None"
  | .among s =>
    if s.isEmpty then "set()"
    else "\x7b" ++ ", ".intercalate (s.members.map Value.text) ++ "\x7d"

/-- The hundred topmost elements of a stack in words. -/
def AbstractStack.text (s : AbstractStack) : String :=
  "[" ++ ", ".intercalate ((s.take 100).reverse.map fun e => "'" ++ e.text ++ "'") ++ "]"

end EvmFlow
