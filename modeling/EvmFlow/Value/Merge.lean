import EvmFlow.Value.Stack

/-!
# Merging stacks

Two ways to merge.  `merge` aligns two stacks at their tops and keeps the elements below the shorter
one.  `join` aligns any number of stacks at their bottoms and puts an element without values on top; a
place at which some stack holds every value, or the stacks hold too many, ends up without values.
-/

namespace EvmFlow
namespace AbstractStack

/-- Merges a stack onto one that is at least as high, top by top. -/
def mergeOnto (tracked : ValueSet) : AbstractStack → AbstractStack → AbstractStack
  | high, [] => high.map AbstractValue.copied
  | [], _ :: _ => []
  | a :: high, b :: low => AbstractValue.merge tracked a.copied b :: mergeOnto tracked high low

/-- Merges two stacks aligned at their tops. -/
def merge (tracked : ValueSet) (s t : AbstractStack) : AbstractStack :=
  if t.length ≤ s.length then mergeOnto tracked s t else mergeOnto tracked t s

/-- Goes through the lowest elements of columns from left to right, and gives the values up at the
first one that is everything or makes them too many.  Tells whether some column has an element, and the
values. -/
def gather (tracked : ValueSet) :
    List (List AbstractValue) → Bool → ValueSet → Bool × Option ValueSet
  | [], found, values => (found, some values)
  | [] :: rest, found, values => gather tracked rest found values
  | (.top :: _) :: _, _, _ => (true, none)
  | (.among more :: _) :: rest, _, values =>
    if tracked.capacity < (values ∪ more).size then (true, none)
    else gather tracked rest true (values ∪ more)

theorem exists_ne_nil_of_gather {tracked : ValueSet} {columns : List (List AbstractValue)}
    {values : ValueSet} (found : (gather tracked columns false values).1 = true) :
    ∃ column ∈ columns, column ≠ [] := by
  induction columns with
  | nil => cases found
  | cons column columns ih =>
      cases column with
      | nil =>
          obtain ⟨column, member, nonempty⟩ := ih found
          exact ⟨column, List.mem_cons_of_mem _ member, nonempty⟩
      | cons e column => exact ⟨e :: column, List.mem_cons_self, by simp⟩

/-- The columns without their lowest elements. -/
def raised (columns : List (List AbstractValue)) : List (List AbstractValue) :=
  columns.map List.tail

theorem length_flatten_raised_le (columns : List (List AbstractValue)) :
    (raised columns).flatten.length ≤ columns.flatten.length := by
  induction columns with
  | nil => exact Nat.le_refl 0
  | cons column columns ih =>
      simp only [raised, List.map_cons, List.flatten_cons, List.length_append,
        List.length_tail] at ih ⊢
      omega

theorem length_flatten_raised_lt {columns : List (List AbstractValue)}
    (nonempty : ∃ column ∈ columns, column ≠ []) :
    (raised columns).flatten.length < columns.flatten.length := by
  induction columns with
  | nil => simp at nonempty
  | cons column columns ih =>
      have rest_le := length_flatten_raised_le columns
      simp only [raised, List.map_cons, List.flatten_cons, List.length_append,
        List.length_tail] at rest_le ⊢
      cases column with
      | nil => simpa [raised] using ih (by simpa using nonempty)
      | cons e column =>
          simp only [List.length_cons]
          omega

/-- Joins columns, given with their bottoms in front, place by place.  It ends with the first place at
which no column has an element, and has nothing there. -/
@[semireducible]
def joinColumns (tracked : ValueSet) (columns : List (List AbstractValue)) : List AbstractValue :=
  let met := gather tracked columns false .empty
  .among (met.2.getD .empty) ::
    if _found : met.1 then joinColumns tracked (raised columns) else []
termination_by columns.flatten.length
decreasing_by exact length_flatten_raised_lt (exists_ne_nil_of_gather _found)

/-- Joins stacks aligned at their bottoms. -/
def join (tracked : ValueSet) (group : List AbstractStack) : AbstractStack :=
  (joinColumns tracked (group.map List.reverse)).reverse

end AbstractStack
end EvmFlow
