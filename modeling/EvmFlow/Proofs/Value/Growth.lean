import EvmFlow.Proofs.Value.Join
import EvmFlow.Proofs.Value.Workbench

/-!
# Merging stacks on a workbench

Stacks on a workbench are merged or joined by making new elements, some of which share the cells of
old ones.  Nothing that is there changes meanwhile, so the new stack holds what the merge or the join
of the values is (`run_mergeStacks`, `run_joinStacks`).
-/

namespace EvmFlow

theorem AbstractValue.copied_copied (e : AbstractValue) : e.copied.copied = e.copied := by
  cases e <;> rfl

theorem AbstractStack.mergeOnto_map_copied (tracked : ValueSet) (s t : AbstractStack) :
    mergeOnto tracked (s.map .copied) t = mergeOnto tracked s t := by
  induction s, t using mergeOnto.induct with
  | case1 s => simp [mergeOnto, AbstractValue.copied_copied]
  | case2 b t => rfl
  | case3 a s b t ih =>
      rw [List.map_cons, mergeOnto, mergeOnto, ih, AbstractValue.copied_copied]

namespace Workbench

theorem getElem?_of_begins {α : Type} {before after : Array α}
    (kept : before.toList <+: after.toList) {n : Nat} (inside : n < before.size) :
    after[n]? = before[n]? := by
  obtain ⟨rest, after_eq⟩ := kept
  rw [← Array.getElem?_toList, ← after_eq, List.getElem?_append_left inside, Array.getElem?_toList]

/-- All that is on a bench is still there, and has not changed. -/
structure Bench.KeptIn (bench after : Bench) : Prop where
  elements : bench.elements.toList <+: after.elements.toList
  cells : bench.cells.toList <+: after.cells.toList

namespace Bench.KeptIn

variable {bench middle after : Bench}

theorem refl (bench : Bench) : bench.KeptIn bench := ⟨List.prefix_rfl, List.prefix_rfl⟩

theorem trans (first : bench.KeptIn middle) (second : middle.KeptIn after) : bench.KeptIn after :=
  ⟨first.elements.trans second.elements, first.cells.trans second.cells⟩

theorem withElement (bench : Bench) (e : Element) : bench.KeptIn (bench.withElement e) :=
  ⟨by simp [Bench.withElement], List.prefix_rfl⟩

theorem withCell (bench : Bench) (values : ValueSet) : bench.KeptIn (bench.withCell values) :=
  ⟨List.prefix_rfl, by simp [Bench.withCell]⟩

theorem withValue (bench : Bench) (tracked : ValueSet) (value : AbstractValue) :
    bench.KeptIn (bench.withValue tracked value) := by
  cases value with
  | top => exact withElement bench _
  | among values => exact (withCell bench values).trans (withElement _ _)

theorem size_le (kept : bench.KeptIn after) : bench.elements.size ≤ after.elements.size :=
  kept.elements.length_le

theorem elementAt_eq (kept : bench.KeptIn after) {n : Nat} (inside : n < bench.elements.size) :
    after.elementAt n = bench.elementAt n := by
  rw [Bench.elementAt, Bench.elementAt, getElem?_of_begins kept.elements inside]

theorem valueOf_eq (kept : bench.KeptIn after) (sound : bench.Sound) {n : Nat}
    (inside : n < bench.elements.size) : valueOf after n = valueOf bench n := by
  rw [valueOf, valueOf, getElem?_of_begins kept.elements inside]
  cases refers : (bench.elements[n]?).bind (·.cell?) with
  | none => rfl
  | some cell =>
      obtain ⟨e, there, cell_eq⟩ := Option.bind_eq_some_iff.1 refers
      have cell_lt := sound.cells e (Array.mem_of_getElem? there) cell cell_eq
      dsimp only
      rw [getElem?_of_begins kept.cells cell_lt]

theorem map_valueOf_eq (kept : bench.KeptIn after) (sound : bench.Sound) {slots : List Nat}
    (inside : ∀ n ∈ slots, n < bench.elements.size) :
    slots.map (valueOf after) = slots.map (valueOf bench) :=
  List.map_congr_left fun n member => kept.valueOf_eq sound (inside n member)

end Bench.KeptIn

/-! ## New elements -/

theorem elementAt_withElement (bench : Bench) (e : Element) :
    (bench.withElement e).elementAt bench.elements.size = e := by
  simp [Bench.elementAt, Bench.withElement]

theorem valueOf_withElement_elementAt (bench : Bench) {n : Nat} (inside : n < bench.elements.size) :
    valueOf (bench.withElement (bench.elementAt n)) bench.elements.size = valueOf bench n := by
  simp [valueOf, Bench.withElement, Bench.elementAt, inside]

/-- A sound bench that differs from another one only by a new element, which keeps some values apart
and holds a value. -/
structure Bench.Gains (bench after : Bench) (tracked : ValueSet) (value : AbstractValue) : Prop where
  sound : after.Sound
  kept : bench.KeptIn after
  size : after.elements.size = bench.elements.size + 1
  tracked : (after.elementAt bench.elements.size).tracked = tracked
  value : valueOf after bench.elements.size = value

theorem Bench.Sound.gains_withValue {bench : Bench} (sound : bench.Sound) (tracked : ValueSet)
    (value : AbstractValue) : bench.Gains (bench.withValue tracked value) tracked value where
  sound := sound.withValue tracked value
  kept := .withValue bench tracked value
  size := size_withValue bench tracked value
  tracked := by
    cases value <;> exact congrArg Element.tracked (elementAt_withElement _ _)
  value := by
    cases value <;> simp [valueOf, Bench.withValue, Bench.withElement, Bench.withCell]

/-- A copy holds the values of what it copies, and no value instead of every value. -/
theorem Bench.Sound.gains_withCopy {bench : Bench} (sound : bench.Sound) {n : Nat}
    (inside : n < bench.elements.size) :
    bench.Gains (bench.withCopy n) (bench.elementAt n).tracked (valueOf bench n).copied := by
  rw [Bench.withCopy]
  split
  · rename_i holds
    rw [holds]
    exact sound.gains_withValue _ _
  · rename_i values holds
    split
    · rename_i no_values
      have values_eq : values = .empty := ValueSet.ext_members (List.isEmpty_iff.1 no_values)
      rw [holds, values_eq]
      exact sound.gains_withValue _ _
    · refine ⟨sound.withElement fun cell refers => sound.cell_lt refers, .withElement bench _, ?_, ?_,
        ?_⟩
      · simp [Bench.withElement]
      · rw [elementAt_withElement]
      · rw [valueOf_withElement_elementAt bench inside, holds, AbstractValue.copied]

/-! ## New stacks -/

/-- Numbers refer to elements that keep the same values apart. -/
def Bench.Stands (bench : Bench) (tracked : ValueSet) (slots : List Nat) : Prop :=
  ∀ n ∈ slots, n < bench.elements.size ∧ (bench.elementAt n).tracked = tracked

instance (bench : Bench) (tracked : ValueSet) (slots : List Nat) :
    Decidable (bench.Stands tracked slots) :=
  inferInstanceAs (Decidable (∀ n ∈ slots, n < bench.elements.size ∧
    (bench.elementAt n).tracked = tracked))

theorem Bench.Stands.of_kept {bench after : Bench} {tracked : ValueSet} {slots : List Nat}
    (stands : bench.Stands tracked slots) (kept : bench.KeptIn after) :
    after.Stands tracked slots := by
  intro n member
  obtain ⟨inside, tracked_eq⟩ := stands n member
  exact ⟨Nat.lt_of_lt_of_le inside kept.size_le, by rw [kept.elementAt_eq inside, tracked_eq]⟩

/-- Work that is done and gives a stack with certain values, and changes nothing that is there. -/
def Bench.Makes (bench : Bench) (work : Work (List Nat)) (tracked : ValueSet) (s : AbstractStack) :
    Prop :=
  ∃ slots after, work.run bench = .ok (slots, after) ∧ after.Sound ∧ bench.KeptIn after ∧
    after.Stands tracked slots ∧ slots.map (valueOf after) = s

namespace Bench.Makes

variable {bench middle : Bench} {tracked : ValueSet} {s : AbstractStack}

theorem of_run_eq {work other : Work (List Nat)} (same : work.run bench = other.run bench)
    (makes : bench.Makes other tracked s) : bench.Makes work tracked s := by
  rwa [Bench.Makes, same]

theorem cons {first : Work Nat} {rest : Work (List Nat)} {value : AbstractValue}
    (done : first.run bench = .ok (bench.elements.size, middle))
    (gains : bench.Gains middle tracked value) (more : middle.Makes rest tracked s) :
    bench.Makes (do let n ← first; let slots ← rest; return n :: slots) tracked (value :: s) := by
  obtain ⟨slots, after, rest_done, sound, kept, stands, values_eq⟩ := more
  have inside : bench.elements.size < middle.elements.size := by
    rw [gains.size]
    exact Nat.lt_succ_self _
  refine ⟨bench.elements.size :: slots, after, ?_, sound, gains.kept.trans kept, ?_, ?_⟩
  · rw [run_bind_of_ok done, run_bind_of_ok rest_done]
    rfl
  · refine List.forall_mem_cons.2 ⟨⟨Nat.lt_of_lt_of_le inside kept.size_le, ?_⟩, stands⟩
    rw [kept.elementAt_eq inside, gains.tracked]
  · rw [List.map_cons, values_eq, kept.valueOf_eq gains.sound inside, gains.value]

theorem mapM_copy (sound : bench.Sound) {slots : List Nat} (stands : bench.Stands tracked slots) :
    bench.Makes (slots.mapM copy) tracked ((slots.map (valueOf bench)).map .copied) := by
  induction slots generalizing bench with
  | nil => exact ⟨[], bench, rfl, sound, .refl bench, stands, rfl⟩
  | cons n slots ih =>
      obtain ⟨⟨inside, tracked_eq⟩, stands_rest⟩ := List.forall_mem_cons.1 stands
      have gains := sound.gains_withCopy inside
      have more := ih gains.sound (Bench.Stands.of_kept stands_rest gains.kept)
      rw [gains.kept.map_valueOf_eq sound fun m member => (stands_rest m member).1] at more
      rw [tracked_eq] at gains
      rw [List.mapM_cons]
      exact cons (run_copy bench n) gains more

theorem mapM_make (sound : bench.Sound) (tracked : ValueSet) (s : AbstractStack) :
    bench.Makes (s.mapM (make tracked)) tracked s := by
  induction s generalizing bench with
  | nil => exact ⟨[], bench, rfl, sound, .refl bench, by simp [Bench.Stands], rfl⟩
  | cons value s ih =>
      have gains := sound.gains_withValue tracked value
      rw [List.mapM_cons]
      exact cons (run_make bench tracked value) gains (ih gains.sound)

/-- Merging onto elements that are copies already. -/
theorem mergeOnto (sound : bench.Sound) {high low : List Nat} (stands : bench.Stands tracked high)
    (inside : ∀ n ∈ low, n < bench.elements.size)
    (copies : ∀ n ∈ high, (valueOf bench n).copied = valueOf bench n) :
    bench.Makes (Workbench.mergeOnto high low) tracked
      (AbstractStack.mergeOnto tracked (high.map (valueOf bench)) (low.map (valueOf bench))) := by
  induction high, low using Workbench.mergeOnto.induct generalizing bench with
  | case1 high =>
      refine ⟨high, bench, by rw [Workbench.mergeOnto]; rfl, sound, .refl bench, stands, ?_⟩
      rw [List.map_nil, AbstractStack.mergeOnto, List.map_map]
      exact List.map_congr_left fun n member => (copies n member).symm
  | case2 b low =>
      exact ⟨[], bench, rfl, sound, .refl bench, stands, rfl⟩
  | case3 a high b low ih =>
      obtain ⟨⟨a_inside, tracked_eq⟩, stands_rest⟩ := List.forall_mem_cons.1 stands
      obtain ⟨a_copy, copies_rest⟩ := List.forall_mem_cons.1 copies
      obtain ⟨b_inside, inside_rest⟩ := List.forall_mem_cons.1 inside
      have gains := sound.gains_withValue tracked
        (.merge tracked (valueOf bench a) (valueOf bench b))
      have high_inside : ∀ n ∈ high, n < bench.elements.size := fun n member =>
        (stands_rest n member).1
      have more := ih gains.sound (Bench.Stands.of_kept stands_rest gains.kept)
        (fun n member => Nat.lt_of_lt_of_le (inside_rest n member) gains.kept.size_le)
        (fun n member => by
          rw [gains.kept.valueOf_eq sound (high_inside n member)]
          exact copies_rest n member)
      rw [gains.kept.map_valueOf_eq sound high_inside,
        gains.kept.map_valueOf_eq sound inside_rest] at more
      rw [List.map_cons, List.map_cons, AbstractStack.mergeOnto, a_copy]
      refine of_run_eq ?_ (cons (run_make bench _ _) gains more)
      rw [Workbench.mergeOnto, run_bind_of_ok (run_element bench a), tracked_eq,
        run_bind_of_ok (run_value bench a), run_bind_of_ok (run_value bench b)]

/-- Merging onto copies that are made for it. -/
theorem mergeOnto_mapM_copy (sound : bench.Sound) {high low : List Nat}
    (high_stands : bench.Stands tracked high) (low_inside : ∀ n ∈ low, n < bench.elements.size) :
    bench.Makes (do Workbench.mergeOnto (← high.mapM copy) low) tracked
      (AbstractStack.mergeOnto tracked (high.map (valueOf bench)) (low.map (valueOf bench))) := by
  obtain ⟨copies, middle, copied, middle_sound, kept, copies_stand, values_eq⟩ :=
    mapM_copy sound high_stands
  have copied_again : ∀ n ∈ copies, (valueOf middle n).copied = valueOf middle n := by
    intro n member
    have value_mem : valueOf middle n ∈ copies.map (valueOf middle) := List.mem_map_of_mem member
    rw [values_eq] at value_mem
    obtain ⟨v, -, v_eq⟩ := List.mem_map.1 value_mem
    rw [← v_eq, AbstractValue.copied_copied]
  have makes := mergeOnto middle_sound copies_stand
    (fun n member => Nat.lt_of_lt_of_le (low_inside n member) kept.size_le) copied_again
  rw [values_eq, kept.map_valueOf_eq sound low_inside, AbstractStack.mergeOnto_map_copied] at makes
  obtain ⟨slots, after, done, after_sound, after_kept, stands, merged_eq⟩ := makes
  exact ⟨slots, after, (run_bind_of_ok copied _).trans done, after_sound, kept.trans after_kept,
    stands, merged_eq⟩

/-- A merge of stacks on a bench is the merge of what they hold. -/
theorem merged (sound : bench.Sound) {p q : Pile} (first : bench.Stands tracked p.slots)
    (second : bench.Stands tracked q.slots) :
    bench.Makes (Workbench.merged p q) tracked
      (AbstractStack.merge tracked (p.slots.map (valueOf bench)) (q.slots.map (valueOf bench))) := by
  rw [Workbench.merged, AbstractStack.merge, List.length_map, List.length_map]
  by_cases shorter : q.slots.length ≤ p.slots.length
  · rw [if_pos shorter, if_pos shorter]
    exact mergeOnto_mapM_copy sound first fun n member => (second n member).1
  · rw [if_neg shorter, if_neg shorter]
    exact mergeOnto_mapM_copy sound second fun n member => (first n member).1

end Bench.Makes

/-! ## Steps that give a stack -/

/-- A name refers to a stack of elements that all keep the same values apart, and they hold certain
values. -/
def Bench.Shows (bench : Bench) (name : String) (tracked : ValueSet) (s : AbstractStack) : Prop :=
  ∃ p, bench.pileNames.get? name = some p ∧ p.tracked = tracked ∧ bench.Stands tracked p.slots ∧
    p.slots.map (valueOf bench) = s

theorem run_pile_of_named {bench : Bench} {name : String} {p : Pile}
    (named : bench.pileNames.get? name = some p) : (pile name).run bench = .ok (p, bench) := by
  rw [run_pile, named, Option.elim_some]

theorem run_answerPile (bench : Bench) (target? : Option String) (p : Pile) :
    ∃ after, (answerPile target? p).run bench =
      .ok (.stack (p.slots.map (valueOf bench)), after) := by
  cases target? with
  | none => exact ⟨bench, rfl⟩
  | some name => exact ⟨{ bench with pileNames := bench.pileNames.insert name p }, rfl⟩

theorem answer_of_makes {bench : Bench} {work : Work (List Nat)} {tracked : ValueSet}
    {s : AbstractStack} (makes : bench.Makes work tracked s) (target? : Option String)
    (place : List Nat → Pile) (slots_eq : ∀ slots, (place slots).slots = slots) :
    ∃ after, (do answerPile target? (place (← work)) : Work Answer).run bench =
      .ok (.stack s, after) := by
  obtain ⟨slots, middle, done, -, -, -, values_eq⟩ := makes
  obtain ⟨after, answered⟩ := run_answerPile middle target? (place slots)
  rw [slots_eq, values_eq] at answered
  exact ⟨after, (run_bind_of_ok done _).trans answered⟩

/-- A step that merges two stacks answers with the merge of what they hold. -/
theorem run_mergeStacks (steps : List Step) {first second : String} {tracked : ValueSet}
    {s t : AbstractStack} (target? : Option String)
    (first_shows : (Bench.afterAll {} steps).Shows first tracked s)
    (second_shows : (Bench.afterAll {} steps).Shows second tracked t) :
    (run (Bench.afterAll {} steps) (.mergeStacks first second target?)).1 =
      .ok (.stack (AbstractStack.merge tracked s t)) := by
  have sound := sound_afterAll steps
  generalize Bench.afterAll {} steps = bench at *
  obtain ⟨p, p_named, -, p_stands, rfl⟩ := first_shows
  obtain ⟨q, q_named, -, q_stands, rfl⟩ := second_shows
  obtain ⟨after, answered⟩ := answer_of_makes (.merged sound p_stands q_stands) target?
    (fun slots => { p with slots }) fun _ => rfl
  have done : (perform (.mergeStacks first second target?)).run bench =
      (do answerPile target? { p with slots := ← merged p q }).run bench := by
    rw [perform, run_bind_of_ok (run_pile_of_named p_named),
      run_bind_of_ok (run_pile_of_named q_named)]
  rw [run, done, answered]

theorem run_mapM_stackOf {bench : Bench} {tracked : ValueSet} {names : List String}
    {group : List AbstractStack} (shown : List.Forall₂ (bench.Shows · tracked ·) names group) :
    (names.mapM fun name => do stackOf (← pile name) : Work _).run bench = .ok (group, bench) := by
  induction shown with
  | nil => rfl
  | cons first _ ih =>
      obtain ⟨p, named, -, -, rfl⟩ := first
      rw [List.mapM_cons, run_bind_of_ok ((run_bind_of_ok (run_pile_of_named named) _).trans rfl),
        run_bind_of_ok ih]
      rfl

/-- A step that joins stacks answers with the join of what they hold. -/
theorem run_joinStacks (steps : List Step) {names : List String} {group : List AbstractStack}
    {tracked : ValueSet} (target? : Option String)
    (shown : List.Forall₂ ((Bench.afterAll {} steps).Shows · tracked ·) names group) :
    (run (Bench.afterAll {} steps) (.joinStacks names tracked.members target?)).1 =
      .ok (.stack (AbstractStack.join tracked group)) := by
  have sound := sound_afterAll steps
  generalize Bench.afterAll {} steps = bench at *
  obtain ⟨after, answered⟩ := answer_of_makes
    (.mapM_make sound tracked (AbstractStack.join tracked group)) target? (⟨tracked, ·⟩) fun _ => rfl
  have done : (perform (.joinStacks names tracked.members target?)).run bench =
      (do answerPile target? ⟨tracked,
        ← (AbstractStack.join tracked group).mapM (make tracked)⟩).run bench := by
    rw [perform, run_bind_of_ok (run_mapM_stackOf shown), ValueSet.ofList_members]
    rfl
  rw [run, done, answered]

end Workbench
end EvmFlow
