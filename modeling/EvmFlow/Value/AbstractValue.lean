import EvmFlow.Failure
import EvmFlow.Value.ValueSet

/-!
# Abstract values

What is known of a stack element: a set of values it may have, or nothing at all.
-/

namespace EvmFlow

/-- Every value, or one of a set. -/
inductive AbstractValue
  | top
  | among (values : ValueSet)
deriving DecidableEq

namespace AbstractValue

/-- An element of which only its being there is known. -/
def unknown : AbstractValue := .among (.single none)

/-- An element that holds no value. -/
def nothing : AbstractValue := .among .empty

/-- The element that holds one value, as far as it matters. -/
def ofValue (tracked : ValueSet) (v : Value) : AbstractValue := .among (tracked.recorded v)

/-- The conjunction of two elements, value by value. -/
def and (tracked : ValueSet) : AbstractValue → AbstractValue → AbstractValue
  | .among s, .among t =>
    .among ((s.members.flatMap fun a => t.members.map fun b => a.and b).foldl
      (fun result v => tracked.recorded v ∪ result) .empty)
  | _, _ => .top

/-- The values of either element; everything, once they are more than the capacity. -/
def merge (tracked : ValueSet) : AbstractValue → AbstractValue → AbstractValue
  | .among s, .among t => if tracked.capacity < (s ∪ t).size then .top else .among (s ∪ t)
  | _, _ => .top

/-- The element that a copy begins as: the same set of values, and no value instead of every value. -/
def copied : AbstractValue → AbstractValue
  | .top => nothing
  | .among s => .among s

/-- Adds a value to an element, as far as it matters. -/
def extended (tracked : ValueSet) (v : Value) : AbstractValue → Except Failure AbstractValue
  | .among s => .ok (.among (tracked.recorded v ∪ s))
  | .top => if (tracked.recorded v).isEmpty then .ok .top else .error .extendedTop

end AbstractValue
end EvmFlow
