import EvmFlow.Proofs.Value.Capacity
import EvmFlow.Proofs.Value.Growth
import Mathlib.Order.Bounds.Basic

/-!
# Merges as least bounds

Elements are ordered by what they allow: one set of values is below another that has all its members,
and every element is below the one that stands for every value.  Among the elements that keep to the
capacity, those above a merge are exactly those above both its sides (`merge_le_iff`).  This
determines the merge, and so all its laws follow; in particular it does not matter in which order
elements are merged, although a group that comes early may overflow where another one does not.
-/

namespace EvmFlow

/-! ## The order of elements -/

namespace AbstractValue

/-- One element allows no more than another: the other one stands for every value, or it has all the
values of the first. -/
protected def le : AbstractValue → AbstractValue → Prop
  | _, .top => True
  | .top, .among _ => False
  | .among s, .among t => ∀ v ∈ s, v ∈ t

instance : PartialOrder AbstractValue where
  le := AbstractValue.le
  le_refl e := by
    cases e with
    | top => trivial
    | among s => exact fun v member => member
  le_trans e f g e_le f_le := by
    cases g with
    | top => trivial
    | among u =>
        cases f with
        | top => exact f_le.elim
        | among t =>
            cases e with
            | top => exact e_le.elim
            | among s => exact fun v member => f_le v (e_le v member)
  le_antisymm e f e_le f_le := by
    cases e with
    | top =>
        cases f with
        | top => rfl
        | among t => exact e_le.elim
    | among s =>
        cases f with
        | top => exact f_le.elim
        | among t =>
            exact congrArg among (ValueSet.ext_mem fun v => ⟨e_le v, f_le v⟩)

theorem le_top (e : AbstractValue) : e ≤ .top := trivial

theorem nothing_le (e : AbstractValue) : nothing ≤ e := by
  cases e with
  | top => exact le_top _
  | among s => exact fun v member => absurd member (ValueSet.notMem_empty v)

theorem among_le_among {s t : ValueSet} : among s ≤ among t ↔ ∀ v ∈ s, v ∈ t := Iff.rfl

theorem not_top_le_among (s : ValueSet) : ¬ AbstractValue.top ≤ among s := id

/-! ## What is above a merge -/

variable {tracked : ValueSet} {e f g : AbstractValue}

/-- The elements above a merge that keep to the capacity are those above both its sides. -/
theorem merge_le_iff (within : g.HoldsAtMost tracked.capacity) :
    merge tracked e f ≤ g ↔ e ≤ g ∧ f ≤ g := by
  cases g with
  | top => exact iff_of_true (le_top _) ⟨le_top _, le_top _⟩
  | among u =>
      cases e with
      | top => exact iff_of_false (not_top_le_among u) fun le => not_top_le_among u le.1
      | among s =>
          cases f with
          | top => exact iff_of_false (not_top_le_among u) fun le => not_top_le_among u le.2
          | among t =>
              have union_le_iff :
                  among (s ∪ t) ≤ among u ↔ among s ≤ among u ∧ among t ≤ among u := by
                simp only [among_le_among, ValueSet.mem_union, or_imp, forall_and]
              rw [merge]
              split
              · -- A union below the bound would not have overflowed.
                rename_i many
                refine iff_of_false (not_top_le_among u) fun le => ?_
                have le_u := ValueSet.size_le_of_subset (union_le_iff.2 le)
                exact Nat.not_le_of_lt many (le_u.trans within)
              · exact union_le_iff

theorem le_merge_left (e f : AbstractValue) : e ≤ merge tracked e f :=
  ((merge_le_iff (merge_holdsAtMost e f)).1 le_rfl).1

theorem le_merge_right (e f : AbstractValue) : f ≤ merge tracked e f :=
  ((merge_le_iff (merge_holdsAtMost e f)).1 le_rfl).2

theorem merge_isLeast (e f : AbstractValue) :
    IsLeast {g | g.HoldsAtMost tracked.capacity ∧ e ≤ g ∧ f ≤ g} (merge tracked e f) := by
  refine ⟨⟨merge_holdsAtMost e f, le_merge_left e f, le_merge_right e f⟩, ?_⟩
  rintro g ⟨within, above⟩
  exact (merge_le_iff within).2 above

/-- An element that keeps to the capacity is determined by the elements above it that do so. -/
theorem eq_of_same_bounds (e_within : e.HoldsAtMost tracked.capacity)
    (f_within : f.HoldsAtMost tracked.capacity)
    (same : ∀ g : AbstractValue, g.HoldsAtMost tracked.capacity → (e ≤ g ↔ f ≤ g)) : e = f :=
  le_antisymm ((same f f_within).2 le_rfl) ((same e e_within).1 le_rfl)

/-! ## The laws of merging -/

theorem merge_comm (e f : AbstractValue) : merge tracked e f = merge tracked f e := by
  refine eq_of_same_bounds (merge_holdsAtMost e f) (merge_holdsAtMost f e) fun g within => ?_
  rw [merge_le_iff within, merge_le_iff within, and_comm]

theorem merge_assoc (e f g : AbstractValue) :
    merge tracked (merge tracked e f) g = merge tracked e (merge tracked f g) := by
  refine eq_of_same_bounds (merge_holdsAtMost _ g) (merge_holdsAtMost e _) fun h within => ?_
  simp only [merge_le_iff within, and_assoc]

theorem merge_top (e : AbstractValue) : merge tracked e .top = .top := by
  cases e <;> rfl

theorem merge_idem (within : e.HoldsAtMost tracked.capacity) : merge tracked e e = e := by
  refine eq_of_same_bounds (merge_holdsAtMost e e) within fun g g_within => ?_
  rw [merge_le_iff g_within, and_self]

theorem merge_nothing (within : e.HoldsAtMost tracked.capacity) :
    merge tracked e .nothing = e := by
  refine eq_of_same_bounds (merge_holdsAtMost e _) within fun g g_within => ?_
  rw [merge_le_iff g_within, and_iff_left (nothing_le g)]

end AbstractValue

/-! ## Named elements -/

namespace Workbench

/-- A name refers to an element that keeps some values apart and holds a value. -/
def Bench.Holds (bench : Bench) (name : String) (tracked : ValueSet) (e : AbstractValue) : Prop :=
  ∃ number, bench.elementNames.get? name = some number ∧
    (bench.elementAt number).tracked = tracked ∧ valueOf bench number = e

section

variable {bench : Bench} {first second : String} {tracked : ValueSet} {e f : AbstractValue}

theorem run_named_of_named {name : String} {number : Nat}
    (named_eq : bench.elementNames.get? name = some number) :
    (named name).run bench = .ok (number, bench) := by
  rw [run_named, named_eq, Option.elim_some]

/-- The bench with a new element under a name. -/
def Bench.withNamed (bench : Bench) (name : String) (tracked : ValueSet) (e : AbstractValue) :
    Bench :=
  { bench.withValue tracked e with
    elementNames := bench.elementNames.insert name bench.elements.size }

theorem Bench.Sound.holds_withNamed (sound : bench.Sound) (name : String) (tracked : ValueSet)
    (e : AbstractValue) : (bench.withNamed name tracked e).Holds name tracked e := by
  have gains := sound.gains_withValue tracked e
  refine ⟨bench.elements.size, ?_, gains.tracked, gains.value⟩
  rw [Bench.withNamed, Std.TreeMap.get?_eq_getElem?, Std.TreeMap.getElem?_insert_self]

/-- A new element under a name changes nothing under other names. -/
theorem Bench.Sound.holds_withNamed_of_ne (sound : bench.Sound) {name other : String}
    (different : other ≠ name) {held : ValueSet} (holds : bench.Holds other held f) :
    (bench.withNamed name tracked e).Holds other held f := by
  obtain ⟨number, named_eq, tracked_eq, value_eq⟩ := holds
  have inside := sound.named other number named_eq
  have kept := (sound.gains_withValue tracked e).kept
  refine ⟨number, ?_, (congrArg Element.tracked (kept.elementAt_eq inside)).trans tracked_eq,
    (kept.valueOf_eq sound inside).trans value_eq⟩
  rw [Bench.withNamed, Std.TreeMap.get?_eq_getElem?, Std.TreeMap.getElem?_insert, if_neg]
  · exact named_eq
  · simpa using different.symm

theorem run_answerElement_new (sound : bench.Sound) (target : String) (tracked : ValueSet)
    (e : AbstractValue) :
    (answerElement (some target) bench.elements.size).run (bench.withValue tracked e) =
      .ok (.element e, bench.withNamed target tracked e) := by
  have value_eq := (sound.gains_withValue tracked e).value
  have answered : (answerElement (some target) bench.elements.size).run (bench.withValue tracked e) =
      .ok (.element (valueOf (bench.withValue tracked e) bench.elements.size),
        bench.withNamed target tracked e) := by
    cases e <;> rfl
  rw [answered, value_eq]

/-- A step that merges two elements answers with the merge of what they hold. -/
theorem run_merge (sound : bench.Sound) (first_holds : bench.Holds first tracked e)
    (second_holds : bench.Holds second tracked f) (target : String) :
    run bench (.merge first second (some target)) =
      (.ok (.element (.merge tracked e f)),
        bench.withNamed target tracked (.merge tracked e f)) := by
  obtain ⟨n, n_named, rfl, rfl⟩ := first_holds
  obtain ⟨m, m_named, -, rfl⟩ := second_holds
  have done : (perform (.merge first second (some target))).run bench =
      .ok (.element (.merge (bench.elementAt n).tracked (valueOf bench n) (valueOf bench m)),
        bench.withNamed target (bench.elementAt n).tracked
          (.merge (bench.elementAt n).tracked (valueOf bench n) (valueOf bench m))) := by
    rw [perform, run_bind_of_ok (run_named_of_named n_named), run_bind_of_ok (run_element bench n),
      run_bind_of_ok (run_value bench n), run_bind_of_ok (run_named_of_named m_named),
      run_bind_of_ok (run_value bench m), run_bind_of_ok (run_make bench _ _),
      run_answerElement_new sound]
  rw [run, done]

theorem run_areEqual {held : ValueSet} (first_holds : bench.Holds first tracked e)
    (second_holds : bench.Holds second held f) :
    (run bench (.areEqual first second)).1 = .ok (.truth (e = f)) := by
  obtain ⟨n, n_named, -, rfl⟩ := first_holds
  obtain ⟨m, m_named, -, rfl⟩ := second_holds
  have done : (perform (.areEqual first second)).run bench =
      .ok (.truth (valueOf bench n = valueOf bench m), bench) := by
    rw [perform, run_bind_of_ok (run_named_of_named n_named), run_bind_of_ok (run_value bench n),
      run_bind_of_ok (run_named_of_named m_named), run_bind_of_ok (run_value bench m)]
    rfl
  rw [run, done]

end
end Workbench

open AbstractValue
open Workbench (Bench Step)

/-- Merging elements that keep the same values apart is commutative and associative, and what stands
for every value absorbs any other element.  An element that keeps to the capacity is merged with
itself, and with nothing, to itself.  A merge is the least element above both its sides among those
that keep to the capacity.  A workbench answers with this merge, keeps it under the name it is given,
and leaves what is under other names; it takes two elements for equal if and only if they hold the
same. -/
theorem merge_bounded_join (tracked : ValueSet) :
    (∀ e f, merge tracked e f = merge tracked f e) ∧
    (∀ e f g, merge tracked (merge tracked e f) g = merge tracked e (merge tracked f g)) ∧
    (∀ e, merge tracked e .top = .top ∧ merge tracked .top e = .top) ∧
    (∀ e : AbstractValue, e.HoldsAtMost tracked.capacity →
      merge tracked e e = e ∧ merge tracked e .nothing = e ∧ merge tracked .nothing e = e) ∧
    (∀ e f, IsLeast {g | g.HoldsAtMost tracked.capacity ∧ e ≤ g ∧ f ≤ g} (merge tracked e f)) ∧
    ∀ (steps : List Step) (first second : String) (e f : AbstractValue),
      let bench := Bench.afterAll {} steps
      bench.Holds first tracked e → bench.Holds second tracked f →
        (∀ target, let outcome := Workbench.run bench (.merge first second (some target))
          outcome.1 = .ok (.element (merge tracked e f)) ∧
          outcome.2.Holds target tracked (merge tracked e f) ∧
          ∀ other held g, other ≠ target → bench.Holds other held g →
            outcome.2.Holds other held g) ∧
        (Workbench.run bench (.areEqual first second)).1 = .ok (.truth (e = f)) := by
  refine ⟨merge_comm, merge_assoc, fun e => ⟨merge_top e, ?_⟩, fun e within => ?_, merge_isLeast, ?_⟩
  · rw [merge_comm, merge_top]
  · rw [merge_comm .nothing]
    exact ⟨merge_idem within, merge_nothing within, merge_nothing within⟩
  · intro steps first second e f bench first_holds second_holds
    have sound : bench.Sound := Workbench.sound_afterAll steps
    refine ⟨fun target => ?_, Workbench.run_areEqual first_holds second_holds⟩
    rw [Workbench.run_merge sound first_holds second_holds]
    exact ⟨rfl, sound.holds_withNamed target tracked _, fun other held g different holds =>
      sound.holds_withNamed_of_ne different holds⟩

/-- Merges three elements that keep 1 and 2 apart in both groupings.  The first two overflow together,
the last two do not. -/
def groupedSteps : List Step :=
  [.makeElement [some 1, some 2] [some 1] (some "x"),
    .makeElement [some 1, some 2] [none, some 2] (some "y"),
    .makeElement [some 1, some 2] [some 2] (some "z"),
    .merge "x" "y" (some "early"), .merge "early" "z" (some "left"),
    .merge "y" "z" (some "late"), .merge "x" "late" (some "right")]

theorem groupedSteps_agree :
    let bench := Bench.afterAll {} groupedSteps
    let x := among (.single (some 1))
    let y := among (.ofList [none, some 2])
    let z := among (.single (some 2))
    bench.Holds "early" disjointPair .top ∧ bench.Holds "late" disjointPair y ∧
      bench.Holds "left" disjointPair (merge disjointPair (merge disjointPair x y) z) ∧
      bench.Holds "right" disjointPair (merge disjointPair x (merge disjointPair y z)) ∧
      (Workbench.run bench (.areEqual "left" "right")).1 = .ok (.truth true) ∧
      y.HoldsAtMost disjointPair.capacity ∧ merge disjointPair y y = y := by
  intro bench x y z
  have left_holds : bench.Holds "left" disjointPair (merge disjointPair (merge disjointPair x y) z) :=
    ⟨4, rfl, rfl, rfl⟩
  have right_holds :
      bench.Holds "right" disjointPair (merge disjointPair x (merge disjointPair y z)) :=
    ⟨6, rfl, rfl, rfl⟩
  have within : y.HoldsAtMost disjointPair.capacity := by decide
  obtain ⟨-, assoc, -, idem, -, answers⟩ := merge_bounded_join disjointPair
  have equal := (answers groupedSteps "left" "right" _ _ left_holds right_holds).2
  rw [assoc x y z, decide_eq_true rfl] at equal
  exact ⟨⟨3, rfl, rfl, rfl⟩, ⟨5, rfl, rfl, rfl⟩, left_holds, right_holds, equal, within,
    (idem y within).1⟩

end EvmFlow
