import EvmFlow.Proofs.Value.Soundness

/-!
# How many values an element holds

An element is meant to hold no more values than are worth distinguishing, and to stand for every
value once it would hold more.  A merge keeps to that.  A conjunction does not look at the number of
its values: where every value matters it holds all the conjunctions of the values of both sides, and
where some values are tracked it can hold all of these and unknown besides, which is one too many.
`capacity_kept_iff` says when this happens.
-/

namespace EvmFlow

/-! ## The conjunctions of two sets -/

namespace ValueSet

theorem mem_single {u v : Value} : u ∈ single v ↔ u = v := List.mem_singleton

theorem size_ofList_le (values : List Value) : (ofList values).size ≤ values.length :=
  (List.subperm_of_subset (ofList values).nodup_members fun _ => mem_ofList.1).length_le

/-- All conjunctions of a value of one set with a value of another. -/
def conjunctions (s t : ValueSet) : ValueSet :=
  ofList (s.members.flatMap fun a => t.members.map fun b => a.and b)

theorem size_conjunctions_le (s t : ValueSet) : (conjunctions s t).size ≤ s.size * t.size := by
  refine (size_ofList_le _).trans (Nat.le_of_eq ?_)
  simp [List.length_flatMap, size]

/-- What is recorded of all conjunctions of two sets. -/
def recordedConjunctions (tracked s t : ValueSet) : ValueSet :=
  (s.members.flatMap fun a => t.members.map fun b => a.and b).foldl
    (fun result v => tracked.recorded v ∪ result) .empty

theorem mem_recordedConjunctions {tracked s t : ValueSet} {u : Value} :
    u ∈ recordedConjunctions tracked s t ↔
      ∃ v ∈ conjunctions s t, u ∈ tracked.recorded v := by
  rw [recordedConjunctions, mem_foldl_recorded, or_iff_right (notMem_empty u)]
  simp only [conjunctions, mem_ofList]

theorem recordedConjunctions_of_isEmpty {tracked : ValueSet} (all : tracked.isEmpty)
    (s t : ValueSet) : recordedConjunctions tracked s t = conjunctions s t := by
  refine ext_mem fun u => ?_
  simp [mem_recordedConjunctions, recorded, all, mem_single]

/-! ## Where some values are tracked -/

section Tracked

variable {tracked s t : ValueSet} (tracks : tracked.isEmpty = false)
include tracks

/-- A tracked value is recorded as it is, any other as unknown, unless unknown is tracked. -/
theorem mem_recorded_iff {u v : Value} :
    u ∈ tracked.recorded v ↔
      (v ∈ tracked ∧ u = v) ∨ (v ∉ tracked ∧ none ∉ tracked ∧ u = none) := by
  by_cases known : v ∈ tracked
  · simp [recorded, known, mem_single]
  · by_cases unknown : none ∈ tracked
    · simp [recorded, tracks, known, unknown, notMem_empty]
    · simp [recorded, tracks, known, unknown, mem_single]

/-- The tracked conjunctions are recorded, and unknown if some conjunction is not tracked. -/
theorem mem_recordedConjunctions_iff {u : Value} :
    u ∈ recordedConjunctions tracked s t ↔
      (u ∈ conjunctions s t ∧ u ∈ tracked) ∨
        (u = none ∧ none ∉ tracked ∧ ∃ v ∈ conjunctions s t, v ∉ tracked) := by
  simp only [mem_recordedConjunctions, mem_recorded_iff tracks]
  constructor
  · rintro ⟨v, made, ⟨known, rfl⟩ | ⟨untracked, unknown, rfl⟩⟩
    · exact .inl ⟨made, known⟩
    · exact .inr ⟨rfl, unknown, v, made, untracked⟩
  · rintro (⟨made, known⟩ | ⟨rfl, unknown, v, made, untracked⟩)
    · exact ⟨u, made, .inl ⟨known, rfl⟩⟩
    · exact ⟨v, made, .inr ⟨untracked, unknown, rfl⟩⟩

theorem size_recordedConjunctions_le :
    (recordedConjunctions tracked s t).size ≤ tracked.size + 1 := by
  have subset : (recordedConjunctions tracked s t).members ⊆ none :: tracked.members := by
    intro u member
    rcases (mem_recordedConjunctions_iff tracks).1 member with ⟨-, known⟩ | ⟨rfl, -⟩
    · exact List.mem_cons_of_mem _ known
    · exact List.mem_cons_self
  exact (List.subperm_of_subset (nodup_members _) subset).length_le

/-- All tracked values and unknown are recorded, which is one value too many. -/
theorem lt_size_recordedConjunctions (unknown : none ∉ tracked)
    (covered : ∀ v ∈ tracked, v ∈ conjunctions s t)
    (other : ∃ v ∈ conjunctions s t, v ∉ tracked) :
    tracked.size < (recordedConjunctions tracked s t).size := by
  have subset : none :: tracked.members ⊆ (recordedConjunctions tracked s t).members := by
    refine List.forall_mem_cons.2 ⟨?_, fun v known => ?_⟩
    · exact (mem_recordedConjunctions_iff tracks).2 (.inr ⟨rfl, unknown, other⟩)
    · exact (mem_recordedConjunctions_iff tracks).2 (.inl ⟨covered v known, known⟩)
  have nodup : (none :: tracked.members).Nodup := List.nodup_cons.2 ⟨unknown, tracked.nodup_members⟩
  exact (List.subperm_of_subset nodup subset).length_le

/-- If a tracked value is no conjunction, unknown can take its place. -/
theorem size_recordedConjunctions_of_missing {v : Value} (known : v ∈ tracked)
    (missing : v ∉ conjunctions s t) : (recordedConjunctions tracked s t).size ≤ tracked.size := by
  have subset : (recordedConjunctions tracked s t).members ⊆ none :: tracked.members.erase v := by
    intro u member
    rcases (mem_recordedConjunctions_iff tracks).1 member with ⟨made, u_known⟩ | ⟨rfl, -⟩
    · have different : u ≠ v := fun same => missing (same ▸ made)
      exact List.mem_cons_of_mem _ ((List.mem_erase_of_ne different).2 u_known)
    · exact List.mem_cons_self
  have length_le := (List.subperm_of_subset (nodup_members _) subset).length_le
  rw [List.length_cons, List.length_erase_of_mem known] at length_le
  have positive : 0 < tracked.members.length := List.length_pos_of_mem known
  simp only [size]
  omega

theorem size_recordedConjunctions_le_iff :
    (recordedConjunctions tracked s t).size ≤ tracked.size ↔
      ¬ (none ∉ tracked ∧ (∀ v ∈ tracked, v ∈ conjunctions s t) ∧
        ∃ v ∈ conjunctions s t, v ∉ tracked) := by
  constructor
  · rintro le ⟨unknown, covered, other⟩
    exact Nat.not_le_of_lt (lt_size_recordedConjunctions tracks unknown covered other) le
  · intro kept
    by_cases missing : ∃ v ∈ tracked, v ∉ conjunctions s t
    · obtain ⟨v, known, missing⟩ := missing
      exact size_recordedConjunctions_of_missing tracks known missing
    · refine size_le_of_subset fun u member => ?_
      rcases (mem_recordedConjunctions_iff tracks).1 member with ⟨-, known⟩ | ⟨-, unknown, other⟩
      · exact known
      · exact absurd ⟨unknown, by simpa using missing, other⟩ kept

end Tracked
end ValueSet

/-! ## Elements -/

namespace AbstractValue

/-- An element stands for every value, or holds at most a number of values. -/
def HoldsAtMost (number : Nat) : AbstractValue → Prop
  | .top => True
  | .among values => values.size ≤ number

instance (number : Nat) (e : AbstractValue) : Decidable (e.HoldsAtMost number) :=
  match e with
  | .top => inferInstanceAs (Decidable True)
  | .among values => inferInstanceAs (Decidable (values.size ≤ number))

/-- The conjunction of two elements holds too many values.  Where every value matters, the
conjunctions themselves are too many.  Where some values are tracked, all of these come about, and
another one as well that is recorded as unknown. -/
def Overflows (tracked : ValueSet) : AbstractValue → AbstractValue → Prop
  | .among s, .among t =>
    if tracked.isEmpty then tracked.capacity < (ValueSet.conjunctions s t).size
    else
      none ∉ tracked ∧ (∀ v ∈ tracked, v ∈ ValueSet.conjunctions s t) ∧
        ∃ v ∈ ValueSet.conjunctions s t, v ∉ tracked
  | _, _ => False

variable {tracked : ValueSet}

theorem merge_holdsAtMost (e f : AbstractValue) :
    (merge tracked e f).HoldsAtMost tracked.capacity := by
  rw [merge.eq_def]
  split
  · split
    · trivial
    · rename_i fits
      exact Nat.le_of_not_lt fits
  · trivial

theorem capacity_of_tracks (tracks : tracked.isEmpty = false) :
    tracked.capacity = tracked.size := by
  rw [ValueSet.capacity, tracks, if_neg Bool.false_ne_true]

theorem and_holdsAtMost_iff (e f : AbstractValue) :
    (and tracked e f).HoldsAtMost tracked.capacity ↔ ¬ Overflows tracked e f := by
  cases e with
  | top => simp [and, HoldsAtMost, Overflows]
  | among s =>
      cases f with
      | top => simp [and, HoldsAtMost, Overflows]
      | among t =>
          change (ValueSet.recordedConjunctions tracked s t).size ≤ _ ↔ _
          cases tracks : tracked.isEmpty with
          | true =>
              simp only [Overflows, tracks, if_true]
              rw [ValueSet.recordedConjunctions_of_isEmpty tracks, Nat.not_lt]
          | false =>
              simp only [Overflows, tracks, Bool.false_eq_true, if_false]
              rw [capacity_of_tracks tracks]
              exact ValueSet.size_recordedConjunctions_le_iff tracks

/-- How many values the conjunction of two elements can hold. -/
theorem and_holdsAtMost {e f : AbstractValue} (first : e.HoldsAtMost tracked.capacity)
    (second : f.HoldsAtMost tracked.capacity) :
    (and tracked e f).HoldsAtMost
      (if tracked.isEmpty then tracked.capacity * tracked.capacity else tracked.capacity + 1) := by
  cases e with
  | top => trivial
  | among s =>
      cases f with
      | top => trivial
      | among t =>
          change (ValueSet.recordedConjunctions tracked s t).size ≤ _
          cases tracks : tracked.isEmpty with
          | true =>
              rw [ValueSet.recordedConjunctions_of_isEmpty tracks, if_pos rfl]
              exact (ValueSet.size_conjunctions_le s t).trans (Nat.mul_le_mul first second)
          | false =>
              rw [if_neg Bool.false_ne_true, capacity_of_tracks tracks]
              exact ValueSet.size_recordedConjunctions_le tracks

end AbstractValue

open AbstractValue

/-- A merge of two elements keeps to the capacity.  A conjunction of elements that keep to it can
hold as many values as there are pairs, or, where some values are tracked, one value too many; it
keeps to the capacity if and only if it does not overflow. -/
theorem capacity_kept_iff (tracked : ValueSet) (e f : AbstractValue)
    (first : e.HoldsAtMost tracked.capacity) (second : f.HoldsAtMost tracked.capacity) :
    (merge tracked e f).HoldsAtMost tracked.capacity ∧
      (and tracked e f).HoldsAtMost
        (if tracked.isEmpty then tracked.capacity * tracked.capacity else tracked.capacity + 1) ∧
      ((and tracked e f).HoldsAtMost tracked.capacity ↔ ¬ Overflows tracked e f) :=
  ⟨merge_holdsAtMost e f, and_holdsAtMost first second, and_holdsAtMost_iff e f⟩

/-- The values 1 and 2, whose conjunction is another one. -/
def disjointPair : ValueSet := .ofList [some 1, some 2]

theorem disjointPair_overflows :
    let e := among disjointPair
    e.HoldsAtMost disjointPair.capacity ∧
      (merge disjointPair e e).HoldsAtMost disjointPair.capacity ∧
      (and disjointPair e e).HoldsAtMost (disjointPair.capacity + 1) ∧
      Overflows disjointPair e e := by
  intro e
  have within : e.HoldsAtMost disjointPair.capacity := by decide
  obtain ⟨merged, made, kept_iff⟩ := capacity_kept_iff disjointPair e e within within
  have exceeds : ¬ (and disjointPair e e).HoldsAtMost disjointPair.capacity := by decide
  exact ⟨within, merged, made, not_not.1 (mt kept_iff.2 exceeds)⟩

/-- Eleven values that differ in their low four bits and have the next four set. -/
def lowDigits : ValueSet := .ofList ((List.range 11).map fun n => some (240 + n))

/-- Eleven values that have the low four bits set and differ in the next four. -/
def highDigits : ValueSet := .ofList ((List.range 11).map fun n => some (16 * n + 15))

/-- Two tracked values are kept beside unknown, and 121 values where a hundred are the most. -/
theorem conjunction_exceeds_capacity :
    let pair := among disjointPair
    (pair.HoldsAtMost disjointPair.capacity ∧
      and disjointPair pair pair = among (.ofList [none, some 1, some 2]) ∧
      ¬ (and disjointPair pair pair).HoldsAtMost disjointPair.capacity) ∧
    let low := among lowDigits
    let high := among highDigits
    low.HoldsAtMost ValueSet.empty.capacity ∧ high.HoldsAtMost ValueSet.empty.capacity ∧
      ¬ (and .empty low high).HoldsAtMost ValueSet.empty.capacity := by
  decide +kernel

end EvmFlow
