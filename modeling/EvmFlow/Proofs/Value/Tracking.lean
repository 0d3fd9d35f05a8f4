import EvmFlow.Proofs.Value.Soundness

/-!
# Which values an abstract stack holds

Where some values are tracked, an interpretation keeps only these apart and calls every other value
unknown.  An element that is made by a push or a conjunction keeps to the tracked values, the stack
operations only move elements or add unknown ones, and a join puts nothing in the place of
everything.  So every stack that comes about this way holds sets of tracked and unknown values, and
none of its elements stands for every value.
-/

namespace EvmFlow

/-! ## Elements -/

namespace ValueSet

/-- Where some values are tracked, one of these or unknown is recorded. -/
theorem mem_recorded {tracked : ValueSet} (tracks : tracked.isEmpty = false) {u v : Value}
    (member : u ∈ tracked.recorded v) : u = none ∨ u ∈ tracked := by
  simp only [recorded, tracks, Bool.false_or, decide_eq_true_eq] at member
  split at member
  · rename_i known
    rw [List.mem_singleton.1 member]
    exact .inr known
  · split at member
    · cases member
    · exact .inl (List.mem_singleton.1 member)

end ValueSet

namespace AbstractValue

/-- An element is a set of values, and where some values are tracked, it holds only these and
unknown. -/
def KeepsTo (tracked : ValueSet) : AbstractValue → Prop
  | .top => False
  | .among values => tracked.isEmpty = false → ∀ v ∈ values, v = none ∨ v ∈ tracked

variable {tracked : ValueSet}

theorem keepsTo_unknown : unknown.KeepsTo tracked :=
  fun _ _ member => .inl (List.mem_singleton.1 member)

theorem keepsTo_nothing : nothing.KeepsTo tracked := by
  intro _ v member
  cases member

theorem keepsTo_ofValue (v : Value) : (ofValue tracked v).KeepsTo tracked :=
  fun tracks _ member => ValueSet.mem_recorded tracks member

/-- A conjunction of tracked values may not be tracked itself, but is recorded as if it were pushed.
-/
theorem KeepsTo.and {e f : AbstractValue} (first : e.KeepsTo tracked) (second : f.KeepsTo tracked) :
    (and tracked e f).KeepsTo tracked := by
  cases e with
  | top => exact first.elim
  | among s =>
      cases f with
      | top => exact second.elim
      | among t =>
          intro tracks v member
          rcases (ValueSet.mem_foldl_recorded _ _).1 member with found | ⟨u, -, found⟩
          · cases found
          · exact ValueSet.mem_recorded tracks found

theorem KeepsTo.exists_values {e : AbstractValue} (keeps : e.KeepsTo tracked) :
    ∃ values, e = .among values ∧
      (tracked.isEmpty = false → ∀ v ∈ values, v = none ∨ v ∈ tracked) := by
  cases e with
  | top => exact keeps.elim
  | among values => exact ⟨values, rfl, keeps⟩

end AbstractValue

/-! ## Stacks -/

namespace Stack

variable {α : Type}

theorem mem_ensured {fresh e : α} {s : List α} (member : e ∈ ensured fresh s) :
    e ∈ s ∨ e = fresh := by
  cases s with
  | nil => exact .inr (List.mem_singleton.1 member)
  | cons a s => exact .inl member

theorem mem_dup {fresh e : α} {n : Nat} {s : List α} (member : e ∈ dup fresh n s) :
    e ∈ s ∨ e = fresh := by
  rcases List.mem_cons.1 member with rfl | member
  · rw [List.getD_eq_getElem?_getD]
    cases there : s[n - 1]? with
    | none => exact .inr rfl
    | some a => exact .inl (List.mem_of_getElem? there)
  · exact .inl member

theorem mem_exchange {e : α} {n : Nat} {s : List α} (member : e ∈ exchange n s) : e ∈ s := by
  rw [exchange] at member
  split at member
  · rename_i a b top below
    rcases List.mem_or_eq_of_mem_set member with member | rfl
    · rcases List.mem_or_eq_of_mem_set member with member | rfl
      · exact member
      · exact List.mem_of_getElem? below
    · exact List.mem_of_mem_head? top
  · exact member

theorem mem_sink {fresh : Nat → α} {e : α} {n : Nat} {s : List α} (member : e ∈ sink fresh n s) :
    e ∈ s ∨ ∃ i ≤ n, e = fresh i := by
  have high : e ∈ ensured (fresh 0) s → e ∈ s ∨ ∃ i ≤ n, e = fresh i := fun member =>
    (mem_ensured member).imp_right fun new => ⟨0, Nat.zero_le n, new⟩
  simp only [sink, List.mem_append, List.mem_map, List.mem_range] at member
  rcases member with (member | ⟨i, inside, rfl⟩) | member
  · exact high member
  · exact .inr ⟨i + 1, by omega, rfl⟩
  · split at member
    · exact high (List.mem_of_mem_head? (Option.mem_toList.1 member))
    · cases member

theorem mem_swap {fresh : Nat → α} {e : α} {n : Nat} {s : List α} (member : e ∈ swap fresh n s) :
    e ∈ s ∨ ∃ i, e = fresh i := by
  rw [swap] at member
  split at member
  · exact .inl (mem_exchange member)
  · rcases mem_sink member with old | ⟨i, -, new⟩
    · exact .inl old
    · exact .inr ⟨i, new⟩

end Stack

namespace AbstractStack

/-- Every element of a stack keeps to the tracked values. -/
def KeepsTo (tracked : ValueSet) (s : AbstractStack) : Prop := ∀ e ∈ s, e.KeepsTo tracked

variable {tracked : ValueSet} {s : AbstractStack}

theorem keepsTo_nil : KeepsTo tracked [] := by
  intro e member
  cases member

theorem KeepsTo.cons {e : AbstractValue} (first : e.KeepsTo tracked) (rest : KeepsTo tracked s) :
    KeepsTo tracked (e :: s) :=
  List.forall_mem_cons.2 ⟨first, rest⟩

theorem KeepsTo.drop (keeps : KeepsTo tracked s) (n : Nat) : KeepsTo tracked (s.drop n) :=
  fun e member => keeps e (List.mem_of_mem_drop member)

theorem KeepsTo.headD (keeps : KeepsTo tracked s) : (s.headD .unknown).KeepsTo tracked := by
  cases s with
  | nil => exact AbstractValue.keepsTo_unknown
  | cons e s => exact keeps e List.mem_cons_self

theorem KeepsTo.ensured (keeps : KeepsTo tracked s) :
    KeepsTo tracked (Stack.ensured .unknown s) := by
  intro e member
  rcases Stack.mem_ensured member with member | rfl
  · exact keeps e member
  · exact AbstractValue.keepsTo_unknown

end AbstractStack

/-! ## Instructions -/

/-- Every operation leaves a stack that keeps to the tracked values. -/
theorem Operation.apply_keepsTo {tracked : ValueSet} (operation : Operation) {s : AbstractStack}
    (keeps : AbstractStack.KeepsTo tracked s) :
    AbstractStack.KeepsTo tracked (operation.apply tracked s) := by
  cases operation with
  | push width value => exact keeps.cons (AbstractValue.keepsTo_ofValue _)
  | dup n =>
      intro e member
      rcases Stack.mem_dup member with member | rfl
      · exact keeps e member
      · exact AbstractValue.keepsTo_unknown
  | swap n =>
      intro e member
      rcases Stack.mem_swap member with member | ⟨-, rfl⟩
      · exact keeps e member
      · exact AbstractValue.keepsTo_unknown
  | plain m =>
      by_cases conjunction : m = .and
      · subst conjunction
        have second : (s.tail.headD .unknown).KeepsTo tracked := by
          rw [← List.drop_one]
          exact (keeps.drop 1).headD
        exact (keeps.drop 2).cons (keeps.headD.and second)
      · rw [apply_plain conjunction]
        refine List.forall_mem_append.2 ⟨fun e member => ?_, keeps.drop m.pops⟩
        rw [List.eq_of_mem_replicate member]
        exact AbstractValue.keepsTo_unknown

theorem Instruction.applyAll_keepsTo {tracked : ValueSet} (is : List Instruction)
    {s : AbstractStack} (keeps : AbstractStack.KeepsTo tracked s) :
    AbstractStack.KeepsTo tracked (applyAll tracked is s) := by
  induction is generalizing s with
  | nil => exact keeps
  | cons i is ih => exact ih (i.operation.apply_keepsTo keeps)

/-- What an interpretation of a block shows keeps to the tracked values. -/
theorem Block.interpret_keepsTo {tracked : ValueSet} (b : Block) {s : AbstractStack}
    (keeps : AbstractStack.KeepsTo tracked s) :
    AbstractStack.KeepsTo tracked (b.interpret tracked s).exit ∧
      ∀ e ∈ (b.interpret tracked s).target?, e.KeepsTo tracked := by
  rw [interpret]
  split
  · have before := (Instruction.applyAll_keepsTo b.instructions.dropLast keeps).ensured
    refine ⟨(b.last.operation.apply_keepsTo before).ensured, fun e target => ?_⟩
    exact before e (List.mem_of_mem_head? target)
  · refine ⟨Instruction.applyAll_keepsTo b.instructions keeps, fun e target => ?_⟩
    cases target

/-! ## Joins -/

namespace AbstractStack

variable {tracked : ValueSet}

/-- Where the values are too many or one element is everything, a place of a join holds nothing. -/
theorem level_keepsTo {elements : List AbstractValue} (keeps : ∀ e ∈ elements, e.KeepsTo tracked) :
    (level tracked elements).KeepsTo tracked := by
  rw [level]
  split
  · exact AbstractValue.keepsTo_nothing
  · intro tracks v member
    obtain ⟨values, listed, v_mem⟩ := mem_listedTogether.1 member
    exact keeps _ listed tracks v v_mem

theorem join_keepsTo {group : List AbstractStack} (keeps : ∀ s ∈ group, KeepsTo tracked s) :
    KeepsTo tracked (join tracked group) := by
  rw [join_eq]
  refine KeepsTo.cons AbstractValue.keepsTo_nothing fun e member => ?_
  obtain ⟨i, -, rfl⟩ := List.mem_map.1 (List.mem_reverse.1 member)
  refine level_keepsTo fun f there => ?_
  obtain ⟨s, s_mem, f_there⟩ := mem_column.1 there
  exact keeps s s_mem f (List.mem_reverse.1 (List.mem_of_getElem? f_there))

end AbstractStack
end EvmFlow
