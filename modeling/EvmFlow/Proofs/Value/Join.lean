import EvmFlow.Value.Merge
import Mathlib.Data.List.Perm.Subperm

/-!
# What a join is

A join goes through the stacks one by one and gives a place up as soon as one of them holds
everything there, or the values so far are too many.  Since sets only grow while they are united,
giving up early makes no difference: a place ends up without values if some stack holds everything
there or all the values together are too many, and else with all these values.  So the order in which
the stacks come, and how often each comes, does not matter (`join_exact`).
-/

namespace EvmFlow

/-! ## Sets of values -/

namespace ValueSet

theorem nodup_members (s : ValueSet) : s.members.Nodup := by
  refine s.ascending.imp fun {a b} lt => ?_
  rintro rfl
  exact Value.lt_irrefl a lt

theorem ext_mem {s t : ValueSet} (same : ∀ v, v ∈ s ↔ v ∈ t) : s = t := by
  have perm : s.members.Perm t.members :=
    (List.perm_ext_iff_of_nodup s.nodup_members t.nodup_members).2 same
  refine ext_members (perm.eq_of_pairwise (fun a b _ _ lt gt => ?_) s.ascending t.ascending)
  exact absurd (Value.lt_trans lt gt) (Value.lt_irrefl a)

theorem mem_ofList {values : List Value} {v : Value} : v ∈ ofList values ↔ v ∈ values := by
  suffices ∀ s : ValueSet, v ∈ values.foldl insert s ↔ v ∈ values ∨ v ∈ s by
    refine (this empty).trans (or_iff_left ?_)
    intro member
    cases member
  intro s
  induction values generalizing s with
  | nil => simp
  | cons u values ih =>
      rw [List.foldl_cons, ih, insert, mem_union, List.mem_cons]
      have mem_single : v ∈ single u ↔ v = u := List.mem_singleton
      rw [mem_single]
      tauto

theorem ofList_members (s : ValueSet) : ofList s.members = s :=
  ext_mem fun _ => mem_ofList

theorem size_le_of_subset {s t : ValueSet} (subset : ∀ v ∈ s, v ∈ t) : s.size ≤ t.size :=
  (List.subperm_of_subset s.nodup_members subset).length_le

theorem notMem_empty (v : Value) : v ∉ empty := List.not_mem_nil

end ValueSet

/-- The values that an element lists. -/
def AbstractValue.listed : AbstractValue → ValueSet
  | .top => .empty
  | .among values => values

@[simp]
theorem AbstractValue.listed_top : top.listed = .empty := rfl

@[simp]
theorem AbstractValue.listed_among (values : ValueSet) : (among values).listed = values := rfl

namespace AbstractStack

/-! ## One place -/

/-- All the values that elements list. -/
def listedTogether (elements : List AbstractValue) : ValueSet :=
  elements.foldr (fun e values => e.listed ∪ values) .empty

theorem mem_listedTogether {elements : List AbstractValue} {v : Value} :
    v ∈ listedTogether elements ↔ ∃ values, .among values ∈ elements ∧ v ∈ values := by
  induction elements with
  | nil => simp [listedTogether, ValueSet.notMem_empty]
  | cons e elements ih =>
      rw [listedTogether, List.foldr_cons, ValueSet.mem_union, ← listedTogether, ih]
      cases e with
      | top => simp [ValueSet.notMem_empty]
      | among s => simp [or_and_right, exists_or]

/-- What a join has at a place at which the stacks have some elements. -/
def level (tracked : ValueSet) (elements : List AbstractValue) : AbstractValue :=
  if .top ∈ elements ∨ tracked.capacity < (listedTogether elements).size then .nothing
  else .among (listedTogether elements)

theorem level_congr (tracked : ValueSet) {elements others : List AbstractValue}
    (same : ∀ e, e ∈ elements ↔ e ∈ others) : level tracked elements = level tracked others := by
  have together_eq : listedTogether elements = listedTogether others :=
    ValueSet.ext_mem fun v => by simp only [mem_listedTogether, same]
  rw [level, level, together_eq]
  simp only [same]

/-- One round finds out whether some column has an element, and gives the values up exactly if one of
the lowest elements is everything or the values of all of them are too many. -/
theorem gather_eq (tracked : ValueSet) (columns : List (List AbstractValue)) (found : Bool)
    {values : ValueSet} (few : values.size ≤ tracked.capacity) :
    let lowest := columns.filterMap List.head?
    let together := values ∪ listedTogether lowest
    gather tracked columns found values =
      (found || !lowest.isEmpty,
        if .top ∈ lowest ∨ tracked.capacity < together.size then none else some together) := by
  induction columns generalizing found values with
  | nil =>
      have together_eq : values ∪ listedTogether [] = values :=
        ValueSet.ext_mem fun v => by
          simp [listedTogether, ValueSet.mem_union, ValueSet.notMem_empty]
      simp [gather, together_eq, few]
  | cons column columns ih =>
      cases column with
      | nil => exact ih found few
      | cons e column =>
          cases e with
          | top => simp [gather]
          | among more =>
              let lowest := columns.filterMap List.head?
              have lowest_eq : ((.among more :: column) :: columns).filterMap List.head? =
                  .among more :: lowest := rfl
              have together_eq : (values ∪ more) ∪ listedTogether lowest =
                  values ∪ listedTogether (.among more :: lowest) :=
                ValueSet.ext_mem fun v => by
                  simp [listedTogether, ValueSet.mem_union, or_assoc]
              rw [gather]
              simp only [lowest_eq, ← together_eq]
              split
              · -- Once the values are too many, they stay too many.
                rename_i many
                have grows : (values ∪ more).size ≤
                    ((values ∪ more) ∪ listedTogether lowest).size :=
                  ValueSet.size_le_of_subset fun _ member => ValueSet.mem_union.2 (.inl member)
                simp [Nat.lt_of_lt_of_le many grows]
              · rename_i few
                rw [ih true (Nat.le_of_not_lt few)]
                simp [lowest]

/-! ## All places -/

/-- The greatest depth among stacks. -/
def greatestDepth (group : List AbstractStack) : Nat := (group.map List.length).max?.getD 0

theorem greatestDepth_le_iff {group : List AbstractStack} {depth : Nat} :
    greatestDepth group ≤ depth ↔ ∀ s ∈ group, s.length ≤ depth := by
  rw [greatestDepth]
  cases greatest : (group.map List.length).max? with
  | none => simp_all
  | some n =>
      rw [Option.getD_some, List.max?_le_iff greatest, List.forall_mem_map]

theorem length_le_greatestDepth {group : List AbstractStack} {s : AbstractStack}
    (member : s ∈ group) : s.length ≤ greatestDepth group :=
  greatestDepth_le_iff.1 (Nat.le_refl _) s member

theorem greatestDepth_raised (columns : List AbstractStack) :
    greatestDepth (raised columns) = greatestDepth columns - 1 := by
  refine Nat.le_antisymm ?_ ?_
  · refine greatestDepth_le_iff.2 (List.forall_mem_map.2 fun column member => ?_)
    rw [List.length_tail]
    exact Nat.sub_le_sub_right (length_le_greatestDepth member) 1
  · refine Nat.sub_le_of_le_add (greatestDepth_le_iff.2 fun column member => ?_)
    have below : column.tail.length ≤ greatestDepth (raised columns) :=
      length_le_greatestDepth (List.mem_map_of_mem member)
    rw [List.length_tail] at below
    omega

theorem filterMap_head?_eq_nil_iff {columns : List AbstractStack} :
    columns.filterMap List.head? = [] ↔ greatestDepth columns = 0 := by
  rw [← Nat.le_zero, greatestDepth_le_iff]
  simp

/-- What one round of the loop finds and puts at its place. -/
theorem gather_empty (tracked : ValueSet) (columns : List AbstractStack) :
    let met := gather tracked columns false .empty
    (met.1 = true ↔ greatestDepth columns ≠ 0) ∧
      .among (met.2.getD .empty) = level tracked (columns.filterMap List.head?) := by
  intro met
  let lowest := columns.filterMap List.head?
  have together_eq : .empty ∪ listedTogether lowest = listedTogether lowest :=
    ValueSet.ext_mem fun v => by simp [ValueSet.mem_union, ValueSet.notMem_empty]
  have met_eq : met = (!lowest.isEmpty,
      if .top ∈ lowest ∨ tracked.capacity < (listedTogether lowest).size then none
      else some (listedTogether lowest)) := by
    have few : ValueSet.empty.size ≤ tracked.capacity := Nat.zero_le _
    rw [← together_eq]
    exact gather_eq tracked columns false few
  rw [met_eq, level]
  constructor
  · simp [← filterMap_head?_eq_nil_iff, lowest]
  · change AbstractValue.among (Option.getD (if _ then none else some _) _) = _
    split <;> rfl

/-- The loop joins as many places as the highest column has, and adds one without values. -/
theorem joinColumns_eq (tracked : ValueSet) (columns : List AbstractStack) :
    joinColumns tracked columns =
      (List.range (greatestDepth columns)).map
        (fun i => level tracked (columns.filterMap (·[i]?))) ++ [.nothing] := by
  fun_induction joinColumns tracked columns with
  | case1 columns met ih =>
      obtain ⟨found_iff, first⟩ := gather_empty tracked columns
      rw [first]
      by_cases found : met.1 = true
      · have deep : greatestDepth columns = greatestDepth (raised columns) + 1 := by
          have := found_iff.1 found
          rw [greatestDepth_raised]
          omega
        rw [dif_pos found, ih found, deep, List.range_succ_eq_map]
        simp [raised, List.head?_eq_getElem?, List.filterMap_map, Function.comp_def]
      · have flat : greatestDepth columns = 0 := by_contra fun deep => found (found_iff.2 deep)
        rw [dif_neg found, flat, filterMap_head?_eq_nil_iff.2 flat]
        rfl

/-- The elements of stacks at a place, counted from the bottom. -/
def column (group : List AbstractStack) (i : Nat) : List AbstractValue :=
  group.filterMap (·.reverse[i]?)

theorem mem_column {group : List AbstractStack} {i : Nat} {e : AbstractValue} :
    e ∈ column group i ↔ ∃ s ∈ group, s.reverse[i]? = some e :=
  List.mem_filterMap

theorem join_eq (tracked : ValueSet) (group : List AbstractStack) :
    join tracked group = .nothing ::
      ((List.range (greatestDepth group)).map fun i => level tracked (column group i)).reverse := by
  have depth_eq : greatestDepth (group.map List.reverse) = greatestDepth group := by
    simp [greatestDepth, Function.comp_def]
  rw [join, joinColumns_eq, depth_eq, List.reverse_append, List.reverse_singleton]
  simp only [List.filterMap_map]
  rfl

/-- What a join has at a place, counted from the bottom. -/
theorem getElem?_reverse_join (tracked : ValueSet) {group : List AbstractStack} {i : Nat}
    (inside : i < greatestDepth group) :
    (join tracked group).reverse[i]? = some (level tracked (column group i)) := by
  rw [join_eq, List.reverse_cons, List.reverse_reverse,
    List.getElem?_append_left (by simpa using inside), List.getElem?_map,
    List.getElem?_range inside, Option.map_some]

theorem length_join (tracked : ValueSet) (group : List AbstractStack) :
    (join tracked group).length = 1 + greatestDepth group := by
  simp only [join_eq, List.length_cons, List.length_reverse, List.length_map, List.length_range,
    Nat.add_comm]

theorem join_congr (tracked : ValueSet) {group others : List AbstractStack}
    (same : ∀ s, s ∈ group ↔ s ∈ others) : join tracked group = join tracked others := by
  have depth_eq : greatestDepth group = greatestDepth others := by
    apply Nat.le_antisymm
    · exact greatestDepth_le_iff.2 fun s member => length_le_greatestDepth ((same s).1 member)
    · exact greatestDepth_le_iff.2 fun s member => length_le_greatestDepth ((same s).2 member)
  have level_eq : ∀ i, level tracked (column group i) = level tracked (column others i) :=
    fun i => level_congr tracked fun e => by simp only [mem_column, same]
  simp only [join_eq, depth_eq, level_eq]

end AbstractStack

/-- A join is one higher than the highest stack, and nothing is on its top.  At every place below,
counted from the bottom, it has nothing if some stack has everything there or the stacks list too
many values there, and all these values otherwise.  Stacks joined in another order or more than once
give the same join. -/
theorem join_exact (tracked : ValueSet) (group : List AbstractStack) :
    let joined := AbstractStack.join tracked group
    let capacity := if tracked.isEmpty then 100 else tracked.size
    joined.length = 1 + (group.map List.length).max?.getD 0 ∧
    joined.head? = some .nothing ∧
    (∀ i, i + 1 < joined.length → ∃ union : ValueSet,
      (∀ v, v ∈ union ↔
        ∃ s ∈ group, ∃ values, s.reverse[i]? = some (.among values) ∧ v ∈ values) ∧
      joined.reverse[i]? = some
        (if (∃ s ∈ group, s.reverse[i]? = some .top) ∨ capacity < union.size then .nothing
        else .among union)) ∧
    ∀ others : List AbstractStack, (∀ s, s ∈ others ↔ s ∈ group) →
      AbstractStack.join tracked others = joined := by
  intro joined capacity
  have length_eq : joined.length = 1 + AbstractStack.greatestDepth group :=
    AbstractStack.length_join tracked group
  have top_eq : joined.head? = some .nothing := by
    simp only [joined, AbstractStack.join_eq, List.head?_cons]
  refine ⟨length_eq, top_eq, fun i below => ?_, fun others same =>
    AbstractStack.join_congr tracked same⟩
  have inside : i < AbstractStack.greatestDepth group := by omega
  let elements := AbstractStack.column group i
  refine ⟨AbstractStack.listedTogether elements, fun v => ?_, ?_⟩
  · rw [AbstractStack.mem_listedTogether]
    constructor
    · rintro ⟨values, member, listed⟩
      obtain ⟨s, s_mem, there⟩ := AbstractStack.mem_column.1 member
      exact ⟨s, s_mem, values, there, listed⟩
    · rintro ⟨s, s_mem, values, there, listed⟩
      exact ⟨values, AbstractStack.mem_column.2 ⟨s, s_mem, there⟩, listed⟩
  · rw [AbstractStack.getElem?_reverse_join tracked inside, AbstractStack.level]
    exact congrArg some (if_congr (or_congr_left AbstractStack.mem_column) rfl rfl)

/-- Two stacks of different heights that list different values at the bottom. -/
def overlappingStacks : List AbstractStack :=
  [[.among (.single (some 1))], [.among (.single (some 2)), .among (.single none)]]

theorem overlappingStacks_joined :
    (∀ s, s ∈ overlappingStacks.reverse ++ overlappingStacks ↔ s ∈ overlappingStacks) ∧
      AbstractStack.join .empty (overlappingStacks.reverse ++ overlappingStacks) =
        AbstractStack.join .empty overlappingStacks := by
  have same : ∀ s, s ∈ overlappingStacks.reverse ++ overlappingStacks ↔ s ∈ overlappingStacks := by
    simp
  obtain ⟨-, -, -, again⟩ := join_exact .empty overlappingStacks
  exact ⟨same, again _ same⟩

end EvmFlow
