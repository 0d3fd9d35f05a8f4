import EvmFlow.Proofs.Value.Growth

/-!
# Merges beside joins

A merge takes two stacks: it copies the higher one and adds to each element of the copy what the
lower one has at the same distance from the top.  A copy of everything is nothing, so everything is
kept where the lower stack has it and is lost where only the higher one has it; of two stacks of the
same height the first counts as the higher.  This says for which stacks the order does not matter.

A join takes any number of stacks and counts from the bottom, and it puts nothing on top.  For two
stacks of known values it is therefore a merge upside down, one element higher: the two differ for
all stacks, by no more than the element on top if the stacks are of the same height.
-/

namespace EvmFlow

/-! ## Elements -/

namespace ValueSet

theorem union_comm (s t : ValueSet) : s ∪ t = t ∪ s :=
  ext_mem fun v => by rw [mem_union, mem_union, or_comm]

theorem size_empty : empty.size = 0 := rfl

theorem union_self (s : ValueSet) : s ∪ s = s :=
  ext_mem fun v => by rw [mem_union, or_self]

theorem union_empty (s : ValueSet) : s ∪ empty = s :=
  ext_mem fun v => by rw [mem_union, or_iff_left (notMem_empty v)]

end ValueSet

namespace AbstractValue

theorem eq_among_listed {e : AbstractValue} (known : e ≠ .top) : e = .among e.listed := by
  cases e with
  | top => exact absurd rfl known
  | among values => rfl

theorem copied_eq (e : AbstractValue) : e.copied = .among e.listed := by
  cases e <;> rfl

/-- What becomes of a copy of an element onto which another one is merged. -/
theorem merge_copied (tracked : ValueSet) (e f : AbstractValue) :
    merge tracked e.copied f =
      if f = .top ∨ tracked.capacity < (e.listed ∪ f.listed).size then .top
      else .among (e.listed ∪ f.listed) := by
  rw [copied_eq]
  cases f with
  | top => simp [merge]
  | among values => simp [merge]

/-- A copy of everything is nothing, so it matters which of two elements is copied unless both are
everything, or neither is, or one of them lists too many values. -/
theorem merge_copied_comm_iff (tracked : ValueSet) (e f : AbstractValue) :
    merge tracked e.copied f = merge tracked f.copied e ↔
      (e = .top ↔ f = .top) ∨ tracked.capacity < e.listed.size ∨
        tracked.capacity < f.listed.size := by
  rw [merge_copied, merge_copied, ValueSet.union_comm f.listed]
  cases e with
  | top =>
      cases f with
      | top => simp
      | among t => simp [ValueSet.union_comm .empty, ValueSet.union_empty, ValueSet.size_empty]
  | among s =>
      cases f with
      | top => simp [ValueSet.union_empty, ValueSet.size_empty]
      | among t => simp

end AbstractValue

namespace AbstractStack

/-! ## Stacks -/

theorem length_mergeOnto (tracked : ValueSet) {high low : AbstractStack}
    (shorter : low.length ≤ high.length) : (mergeOnto tracked high low).length = high.length := by
  induction high, low using mergeOnto.induct with
  | case1 high => simp [mergeOnto]
  | case2 b low => simp at shorter
  | case3 a high b low ih => simp [mergeOnto, ih (by simpa using shorter)]

theorem length_merge (tracked : ValueSet) (s t : AbstractStack) :
    (merge tracked s t).length = max s.length t.length := by
  rw [merge]
  split
  · rename_i shorter
    rw [length_mergeOnto tracked shorter, Nat.max_eq_left shorter]
  · rename_i longer
    have shorter := Nat.le_of_not_le longer
    rw [length_mergeOnto tracked shorter, Nat.max_eq_right shorter]

/-- A merge has everything at a place only if the lower stack has it there, or both list too many
values. -/
theorem mergeOnto_top_iff (tracked : ValueSet) (high low : AbstractStack) (i : Nat) :
    (mergeOnto tracked high low)[i]? = some .top ↔
      ∃ e f, high[i]? = some e ∧ low[i]? = some f ∧
        (f = .top ∨ tracked.capacity < (e.listed ∪ f.listed).size) := by
  induction high, low using mergeOnto.induct generalizing i with
  | case1 high =>
      simp [mergeOnto, AbstractValue.copied_eq]
  | case2 b low => simp [mergeOnto]
  | case3 a high b low ih =>
      rw [mergeOnto]
      cases i with
      | zero => simp [AbstractValue.merge_copied, or_iff_not_imp_left]
      | succ i => simpa using ih i

theorem mergeOnto_comm_iff (tracked : ValueSet) {s t : AbstractStack}
    (same_height : s.length = t.length) :
    mergeOnto tracked s t = mergeOnto tracked t s ↔
      ∀ (i : Nat) (e f : AbstractValue), s[i]? = some e → t[i]? = some f →
        (e = .top ↔ f = .top) ∨ tracked.capacity < e.listed.size ∨
          tracked.capacity < f.listed.size := by
  induction s generalizing t with
  | nil =>
      obtain rfl := List.length_eq_zero_iff.1 same_height.symm
      simp
  | cons a s ih =>
      cases t with
      | nil => cases same_height
      | cons b t =>
          rw [mergeOnto, mergeOnto, List.cons.injEq, AbstractValue.merge_copied_comm_iff,
            ih (Nat.succ_inj.1 same_height)]
          constructor
          · rintro ⟨first, rest⟩ i e f e_there f_there
            cases i with
            | zero =>
                cases e_there
                cases f_there
                exact first
            | succ i => exact rest i e f e_there f_there
          · intro all
            exact ⟨all 0 a b rfl rfl, fun i e f e_there f_there => all (i + 1) e f e_there f_there⟩

/-- Stacks of different heights are merged alike in either order. -/
theorem merge_comm_of_ne (tracked : ValueSet) {s t : AbstractStack} (heights : s.length ≠ t.length) :
    merge tracked s t = merge tracked t s := by
  rw [merge, merge]
  by_cases shorter : t.length ≤ s.length
  · rw [if_pos shorter, if_neg (by omega)]
  · rw [if_neg shorter, if_pos (by omega)]

theorem merge_comm_iff (tracked : ValueSet) (s t : AbstractStack) :
    merge tracked s t = merge tracked t s ↔
      s.length ≠ t.length ∨
      ∀ (i : Nat) (e f : AbstractValue), s[i]? = some e → t[i]? = some f →
        (e = .top ↔ f = .top) ∨ tracked.capacity < e.listed.size ∨
          tracked.capacity < f.listed.size := by
  by_cases same_height : s.length = t.length
  · rw [merge, merge, if_pos same_height.ge, if_pos same_height.le,
      mergeOnto_comm_iff tracked same_height, or_iff_right (not_not.2 same_height)]
  · exact iff_of_true (merge_comm_of_ne tracked same_height) (.inl same_height)

/-! ## Merges and joins of known values -/

/-- No element of two stacks is everything, and no two of them list too many values together. -/
structure Mergeable (tracked : ValueSet) (s t : AbstractStack) : Prop where
  first : ∀ e ∈ s, e ≠ .top
  second : ∀ e ∈ t, e ≠ .top
  fits : ∀ e ∈ s, ∀ f ∈ t, (e.listed ∪ f.listed).size ≤ tracked.capacity

variable {tracked : ValueSet} {s t : AbstractStack}

theorem Mergeable.symm (mergeable : Mergeable tracked s t) : Mergeable tracked t s where
  first := mergeable.second
  second := mergeable.first
  fits f f_mem e e_mem := by
    rw [ValueSet.union_comm]
    exact mergeable.fits e e_mem f f_mem

theorem Mergeable.reverse (mergeable : Mergeable tracked s t) :
    Mergeable tracked s.reverse t.reverse := by
  refine ⟨?_, ?_, ?_⟩
  · simpa using mergeable.first
  · simpa using mergeable.second
  · simpa using mergeable.fits

theorem Mergeable.of_cons {e f : AbstractValue} (mergeable : Mergeable tracked (e :: s) (f :: t)) :
    Mergeable tracked s t where
  first a member := mergeable.first a (List.mem_cons_of_mem e member)
  second b member := mergeable.second b (List.mem_cons_of_mem f member)
  fits a a_mem b b_mem :=
    mergeable.fits a (List.mem_cons_of_mem e a_mem) b (List.mem_cons_of_mem f b_mem)

theorem Mergeable.size_le_of_nonempty (mergeable : Mergeable tracked s t) (nonempty : t ≠ [])
    {e : AbstractValue} (member : e ∈ s) : e.listed.size ≤ tracked.capacity := by
  obtain ⟨f, f_mem⟩ := List.exists_mem_of_ne_nil t nonempty
  have grows : e.listed.size ≤ (e.listed ∪ f.listed).size :=
    ValueSet.size_le_of_subset fun v listed => ValueSet.mem_union.2 (.inl listed)
  exact grows.trans (mergeable.fits e member f f_mem)

/-- What two stacks have at a place together. -/
def unite? : Option AbstractValue → Option AbstractValue → Option AbstractValue :=
  Option.merge fun e f => .among (e.listed ∪ f.listed)

theorem unite?_comm (e? f? : Option AbstractValue) : unite? e? f? = unite? f? e? := by
  cases e? with
  | none => cases f? <;> rfl
  | some e =>
      cases f? with
      | none => rfl
      | some f => simp only [unite?, Option.merge, ValueSet.union_comm]

theorem getElem?_mergeOnto {high low : AbstractStack} (mergeable : Mergeable tracked high low)
    (shorter : low.length ≤ high.length) (i : Nat) :
    (mergeOnto tracked high low)[i]? = unite? high[i]? low[i]? := by
  induction high, low using mergeOnto.induct generalizing i with
  | case1 high =>
      rw [mergeOnto, List.getElem?_map, List.getElem?_nil]
      cases there : high[i]? with
      | none => rfl
      | some e =>
          have known := mergeable.first e (List.mem_of_getElem? there)
          rw [Option.map_some, AbstractValue.copied_eq, ← AbstractValue.eq_among_listed known]
          rfl
  | case2 b low => simp at shorter
  | case3 a high b low ih =>
      rw [mergeOnto]
      cases i with
      | zero =>
          have fit := mergeable.fits a List.mem_cons_self b List.mem_cons_self
          have known := mergeable.second b List.mem_cons_self
          rw [AbstractValue.merge_copied, if_neg (not_or.2 ⟨known, Nat.not_lt.2 fit⟩)]
          rfl
      | succ i => exact ih mergeable.of_cons (Nat.le_of_succ_le_succ shorter) i

/-- Counted from the top, a merge has at each place what the two stacks have there together. -/
theorem getElem?_merge (mergeable : Mergeable tracked s t) (i : Nat) :
    (merge tracked s t)[i]? = unite? s[i]? t[i]? := by
  rw [merge]
  split
  · rename_i shorter
    exact getElem?_mergeOnto mergeable shorter i
  · rename_i longer
    rw [unite?_comm]
    exact getElem?_mergeOnto mergeable.symm (Nat.le_of_not_le longer) i

theorem merge_self (mergeable : Mergeable tracked s s) : merge tracked s s = s := by
  refine List.ext_getElem? fun i => ?_
  rw [getElem?_merge mergeable]
  cases there : s[i]? with
  | none => rfl
  | some e =>
      have known := mergeable.first e (List.mem_of_getElem? there)
      rw [unite?, Option.merge, ValueSet.union_self, ← AbstractValue.eq_among_listed known]

theorem merge_reverse (mergeable : Mergeable tracked s t) (same_height : s.length = t.length) :
    merge tracked s.reverse t.reverse = (merge tracked s t).reverse := by
  have length_eq : (merge tracked s t).length = s.length := by
    rw [length_merge, ← same_height, Nat.max_self]
  refine List.ext_getElem? fun i => ?_
  rw [getElem?_merge mergeable.reverse]
  by_cases inside : i < s.length
  · rw [List.getElem?_reverse (by omega), List.getElem?_reverse (by omega),
      List.getElem?_reverse (by omega), getElem?_merge mergeable, length_eq, ← same_height]
  · rw [List.getElem?_eq_none (by simpa using inside),
      List.getElem?_eq_none (by simpa [← same_height] using inside),
      List.getElem?_eq_none (by simpa [length_eq] using inside)]
    rfl

theorem level_pair {e f : AbstractValue} (e_known : e ≠ .top) (f_known : f ≠ .top)
    (fit : (e.listed ∪ f.listed).size ≤ tracked.capacity) :
    level tracked [e, f] = .among (e.listed ∪ f.listed) := by
  have together_eq : listedTogether [e, f] = e.listed ∪ f.listed := by
    simp [listedTogether, ValueSet.union_empty]
  rw [level, together_eq, if_neg]
  simp [Ne.symm e_known, Ne.symm f_known, fit]

theorem level_single {e : AbstractValue} (known : e ≠ .top)
    (fit : e.listed.size ≤ tracked.capacity) : level tracked [e] = e := by
  have together_eq : listedTogether [e] = e.listed := by
    simp [listedTogether, ValueSet.union_empty]
  rw [level, together_eq, if_neg]
  · exact (AbstractValue.eq_among_listed known).symm
  · simp [Ne.symm known, fit]

/-- Counted from the bottom, a join has at each place what the two stacks have there together. -/
theorem unite?_eq_level (mergeable : Mergeable tracked s t)
    (fit : ∀ e ∈ s ++ t, e.listed.size ≤ tracked.capacity) {i : Nat}
    (inside : i < max s.length t.length) :
    unite? s.reverse[i]? t.reverse[i]? = some (level tracked (column [s, t] i)) := by
  have mem_of_there : ∀ {u : AbstractStack} {e}, u.reverse[i]? = some e → e ∈ u := fun there =>
    List.mem_reverse.1 (List.mem_of_getElem? there)
  cases s_there : s.reverse[i]? with
  | none =>
      cases t_there : t.reverse[i]? with
      | none =>
          rw [List.getElem?_eq_none_iff, List.length_reverse] at s_there t_there
          omega
      | some f =>
          have f_mem := mem_of_there t_there
          have column_eq : column [s, t] i = [f] := by simp [column, s_there, t_there]
          rw [column_eq, level_single (mergeable.second f f_mem)
            (fit f (List.mem_append_right s f_mem))]
          rfl
  | some e =>
      have e_mem := mem_of_there s_there
      have e_known := mergeable.first e e_mem
      cases t_there : t.reverse[i]? with
      | none =>
          have column_eq : column [s, t] i = [e] := by simp [column, s_there, t_there]
          rw [column_eq, level_single e_known (fit e (List.mem_append_left t e_mem))]
          rfl
      | some f =>
          have f_mem := mem_of_there t_there
          have column_eq : column [s, t] i = [e, f] := by simp [column, s_there, t_there]
          rw [column_eq, level_pair e_known (mergeable.second f f_mem)
            (mergeable.fits e e_mem f f_mem)]
          rfl

theorem greatestDepth_pair (s t : AbstractStack) :
    greatestDepth [s, t] = max s.length t.length := by
  simp [greatestDepth]

/-- A join of two stacks is the merge of the stacks turned upside down, turned back, with nothing on
top. -/
theorem join_pair_eq (mergeable : Mergeable tracked s t)
    (fit : ∀ e ∈ s ++ t, e.listed.size ≤ tracked.capacity) :
    join tracked [s, t] = .nothing :: (merge tracked s.reverse t.reverse).reverse := by
  rw [join_eq, greatestDepth_pair]
  congr 2
  refine List.ext_getElem? fun i => ?_
  rw [getElem?_merge mergeable.reverse]
  by_cases inside : i < max s.length t.length
  · rw [List.getElem?_map, List.getElem?_range inside, unite?_eq_level mergeable fit inside]
    rfl
  · rw [List.getElem?_eq_none (by simpa using inside),
      List.getElem?_eq_none (by rw [List.length_reverse]; omega),
      List.getElem?_eq_none (by rw [List.length_reverse]; omega)]
    rfl

theorem join_pair_of_same_height (mergeable : Mergeable tracked s t)
    (same_height : s.length = t.length) : join tracked [s, t] = .nothing :: merge tracked s t := by
  -- Neither stack is empty if the other has an element, so no element is without a partner.
  have fit : ∀ e ∈ s ++ t, e.listed.size ≤ tracked.capacity := by
    intro e member
    rcases List.mem_append.1 member with s_mem | t_mem
    · refine mergeable.size_le_of_nonempty ?_ s_mem
      exact List.ne_nil_of_length_pos (same_height ▸ List.length_pos_of_mem s_mem)
    · refine mergeable.symm.size_le_of_nonempty ?_ t_mem
      exact List.ne_nil_of_length_pos (same_height ▸ List.length_pos_of_mem t_mem)
  rw [join_pair_eq mergeable fit, merge_reverse mergeable same_height, List.reverse_reverse]

end AbstractStack

open Workbench (Bench Step)

/-- Two stacks whose elements keep the same values apart.  Merged in either order they give the same
if and only if their heights differ or, at every place, both have everything or neither has, or one
lists too many values.  A merge has everything at a place if and only if the lower stack, which is
the second one if they are of the same height, has it there, or the two list too many values there
together.  A workbench that shows the two stacks answers with this merge. -/
theorem merge_commutes_iff (tracked : ValueSet) (s t : AbstractStack) :
    let merged := AbstractStack.merge tracked s t
    let high := if t.length ≤ s.length then s else t
    let low := if t.length ≤ s.length then t else s
    (merged = AbstractStack.merge tracked t s ↔
      s.length ≠ t.length ∨
      ∀ (i : Nat) (e f : AbstractValue), s[i]? = some e → t[i]? = some f →
        (e = .top ↔ f = .top) ∨ tracked.capacity < e.listed.size ∨
          tracked.capacity < f.listed.size) ∧
    (∀ i : Nat, merged[i]? = some .top ↔
      ∃ e f, high[i]? = some e ∧ low[i]? = some f ∧
        (f = .top ∨ tracked.capacity < (e.listed ∪ f.listed).size)) ∧
    ∀ (steps : List Step) (first second : String) (target? : Option String),
      (Bench.afterAll {} steps).Shows first tracked s →
      (Bench.afterAll {} steps).Shows second tracked t →
        (Workbench.run (Bench.afterAll {} steps) (.mergeStacks first second target?)).1 =
          .ok (.stack merged) := by
  intro merged high low
  have merged_eq : merged = AbstractStack.mergeOnto tracked high low := by
    simp only [merged, high, low, AbstractStack.merge]
    split <;> rfl
  refine ⟨AbstractStack.merge_comm_iff tracked s t, fun i => ?_, ?_⟩
  · rw [merged_eq]
    exact AbstractStack.mergeOnto_top_iff tracked high low i
  · intro steps first second target? first_shows second_shows
    exact Workbench.run_mergeStacks steps target? first_shows second_shows

/-- Puts a stack that holds everything on a bench, and another one that holds 1. -/
def unequalSteps : List Step :=
  [.makeElement [] [] (some "everything"), .replace "everything" none,
    .makeStack [] (some "s"), .push "s" (.element "everything"),
    .makeStack [] (some "t"), .push "t" (.value (some 1))]

theorem unequalSteps_merged :
    let bench := Bench.afterAll {} unequalSteps
    let known : AbstractStack := [.among (.single (some 1))]
    bench.Shows "s" .empty [.top] ∧ bench.Shows "t" .empty known ∧
      (Workbench.run bench (.mergeStacks "t" "s" none)).1 =
        .ok (.stack (AbstractStack.merge .empty known [.top])) := by
  intro bench known
  have s_shows : bench.Shows "s" .empty [.top] := ⟨⟨.empty, [0]⟩, rfl, rfl, by decide, rfl⟩
  have t_shows : bench.Shows "t" .empty known := ⟨⟨.empty, [1]⟩, rfl, rfl, by decide, rfl⟩
  obtain ⟨-, -, answers⟩ := merge_commutes_iff .empty known [.top]
  exact ⟨s_shows, t_shows, answers unequalSteps "t" "s" none t_shows s_shows⟩

/-- The stack that holds everything gives way to the other one if it comes first, and is kept if it
comes second. -/
theorem unequalSteps_not_commuting :
    let bench := Bench.afterAll {} unequalSteps
    (Workbench.run bench (.lookStack "s")).1 = .ok (.stack [.top]) ∧
      (Workbench.run bench (.mergeStacks "s" "t" none)).1 =
        .ok (.stack [.among (.single (some 1))]) ∧
      (Workbench.run bench (.mergeStacks "t" "s" none)).1 = .ok (.stack [.top]) :=
  ⟨rfl, rfl, rfl⟩

/-- Two stacks without an element that is everything, of which no two elements list too many values
together.  Their join is one higher than their merge, so the two are never the same.  As long as no
element lists too many values on its own, the join is the merge of the stacks turned upside down,
turned back, with nothing on top; and nothing on top is all that the merge lacks if the stacks are of
the same height.  A stack merged with itself is the same stack.  A workbench that shows the two
stacks answers with this join and this merge. -/
theorem join_inverts_merge (tracked : ValueSet) (s t : AbstractStack)
    (mergeable : AbstractStack.Mergeable tracked s t) :
    let joined := AbstractStack.join tracked [s, t]
    let merged := AbstractStack.merge tracked s t
    joined.length = merged.length + 1 ∧ joined ≠ merged ∧
    ((∀ e ∈ s ++ t, e.listed.size ≤ tracked.capacity) →
      joined = .nothing :: (AbstractStack.merge tracked s.reverse t.reverse).reverse) ∧
    (s.length = t.length → joined = .nothing :: merged) ∧
    (s = t → merged = s ∧ joined = .nothing :: s) ∧
    ∀ (steps : List Step) (first second : String) (target? : Option String),
      (Bench.afterAll {} steps).Shows first tracked s →
      (Bench.afterAll {} steps).Shows second tracked t →
        (Workbench.run (Bench.afterAll {} steps)
          (.joinStacks [first, second] tracked.members target?)).1 = .ok (.stack joined) ∧
        (Workbench.run (Bench.afterAll {} steps) (.mergeStacks first second target?)).1 =
          .ok (.stack merged) := by
  intro joined merged
  have higher : joined.length = merged.length + 1 := by
    rw [AbstractStack.length_join, AbstractStack.length_merge, AbstractStack.greatestDepth_pair,
      Nat.add_comm]
  refine ⟨higher, ?_, AbstractStack.join_pair_eq mergeable,
    AbstractStack.join_pair_of_same_height mergeable, ?_, ?_⟩
  · intro same
    rw [same] at higher
    omega
  · rintro rfl
    have merged_eq : merged = s := AbstractStack.merge_self mergeable
    have joined_eq : joined = .nothing :: merged :=
      AbstractStack.join_pair_of_same_height mergeable rfl
    exact ⟨merged_eq, by rw [joined_eq, merged_eq]⟩
  · intro steps first second target? first_shows second_shows
    exact ⟨Workbench.run_joinStacks steps target? (.cons first_shows (.cons second_shows .nil)),
      Workbench.run_mergeStacks steps target? first_shows second_shows⟩

/-- Puts two stacks of different heights on a bench. -/
def unevenSteps : List Step :=
  [.makeStack [] (some "s"), .push "s" (.value (some 3)), .push "s" (.value (some 1)),
    .makeStack [] (some "t"), .push "t" (.value (some 2))]

theorem unevenSteps_joined :
    let bench := Bench.afterAll {} unevenSteps
    let s : AbstractStack := [.among (.single (some 1)), .among (.single (some 3))]
    let t : AbstractStack := [.among (.single (some 2))]
    AbstractStack.Mergeable .empty s t ∧ bench.Shows "s" .empty s ∧ bench.Shows "t" .empty t ∧
      AbstractStack.join .empty [s, t] =
        .nothing :: (AbstractStack.merge .empty s.reverse t.reverse).reverse ∧
      (Workbench.run bench (.joinStacks ["s", "t"] [] none)).1 =
        .ok (.stack (AbstractStack.join .empty [s, t])) := by
  intro bench s t
  have mergeable : AbstractStack.Mergeable .empty s t := ⟨by decide, by decide, by decide⟩
  have s_shows : bench.Shows "s" .empty s := ⟨⟨.empty, [1, 0]⟩, rfl, rfl, by decide, rfl⟩
  have t_shows : bench.Shows "t" .empty t := ⟨⟨.empty, [2]⟩, rfl, rfl, by decide, rfl⟩
  obtain ⟨-, -, upside_down, -, -, answers⟩ := join_inverts_merge .empty s t mergeable
  exact ⟨mergeable, s_shows, t_shows, upside_down (by decide),
    (answers unevenSteps "s" "t" none s_shows t_shows).1⟩

/-- A stack that is joined with itself and merged with itself. -/
def twofoldSteps : List Step :=
  [.makeStack [] (some "s"), .push "s" (.value (some 1)),
    .joinStacks ["s", "s"] [] (some "joined"), .mergeStacks "s" "s" (some "merged")]

/-- The join has one element more. -/
theorem twofoldSteps_differ :
    let bench := Bench.afterAll {} twofoldSteps
    let known : AbstractValue := .among (.single (some 1))
    (Workbench.run bench (.lookStack "s")).1 = .ok (.stack [known]) ∧
      (Workbench.run bench (.lookStack "joined")).1 = .ok (.stack [.nothing, known]) ∧
      (Workbench.run bench (.lookStack "merged")).1 = .ok (.stack [known]) ∧
      (Workbench.run bench (.areEqualStacks "joined" "merged")).1 = .ok (.truth false) :=
  ⟨rfl, rfl, rfl, rfl⟩

end EvmFlow
