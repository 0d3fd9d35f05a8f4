import EvmFlow.Proofs.Exploration.Visit
import EvmFlow.Proofs.Value.Soundness
import Mathlib.Data.List.Forall2

/-!
# Tracking only some values

An interpretation may track every value or only some.  One that tracks only some blurs what the other
sees: a value can become unknown, but none is made up, and as long as no value has become unknown,
none has been lost.  Every operation keeps this relation between the two stacks, element by element.
So the two see the same destinations of a jump, except that a destination may hide behind an unknown
value (`tracking_blurs_interpretation`).
-/

namespace EvmFlow

/-! ## Stacks of related elements -/

namespace Stack

open List (Forall₂)

variable {α β : Type} {related : α → β → Prop} {s : List α} {t : List β}

theorem forall₂_getElem? (elements : Forall₂ related s t) (n : Nat) :
    Option.Rel related s[n]? t[n]? := by
  induction elements generalizing n with
  | nil => exact .none
  | cons first _ ih =>
      cases n with
      | zero => exact .some first
      | succ n => exact ih n

theorem forall₂_set (elements : Forall₂ related s t) (n : Nat) {a : α} {b : β}
    (here : related a b) : Forall₂ related (s.set n a) (t.set n b) := by
  induction elements generalizing n with
  | nil => exact .nil
  | cons first rest ih =>
      cases n with
      | zero => exact .cons here rest
      | succ n => exact .cons first (ih n)

variable {fresh : α} {new : β} (unseen : related fresh new)
include unseen

theorem related_headD (elements : Forall₂ related s t) :
    related (s.headD fresh) (t.headD new) := by
  cases elements with
  | nil => exact unseen
  | cons first _ => exact first

theorem forall₂_ensured (elements : Forall₂ related s t) :
    Forall₂ related (ensured fresh s) (ensured new t) := by
  cases elements with
  | nil => exact .cons unseen .nil
  | cons first rest => exact .cons first rest

omit unseen in
theorem head?_ensured (fresh : α) (s : List α) : (ensured fresh s).head? = some (s.headD fresh) := by
  cases s <;> rfl

theorem forall₂_dup (elements : Forall₂ related s t) (n : Nat) :
    Forall₂ related (dup fresh n s) (dup new n t) := by
  refine .cons ?_ elements
  have there := forall₂_getElem? elements (n - 1)
  rw [List.getD_eq_getElem?_getD, List.getD_eq_getElem?_getD]
  revert there
  generalize s[n - 1]? = a
  generalize t[n - 1]? = b
  rintro (copied | -)
  · exact copied
  · exact unseen

omit unseen in
theorem forall₂_exchange (elements : Forall₂ related s t) (n : Nat) :
    Forall₂ related (exchange n s) (exchange n t) := by
  have below := forall₂_getElem? elements n
  have replaced : ∀ {a b c d}, related a b → related c d →
      Forall₂ related ((s.set 0 c).set n a) ((t.set 0 d).set n b) := fun top low =>
    forall₂_set (forall₂_set elements 0 low) n top
  simp only [exchange]
  revert below
  generalize s[n]? = c
  generalize t[n]? = d
  rintro (low | -)
  · cases elements with
    | nil => exact .nil
    | cons top _ => exact replaced top low
  · cases elements with
    | nil => exact .nil
    | cons top rest => exact .cons top rest

theorem forall₂_swap (elements : Forall₂ related s t) (n : Nat) :
    Forall₂ related (swap (fun _ => fresh) n s) (swap (fun _ => new) n t) := by
  have high := forall₂_ensured unseen elements
  rw [swap, swap, elements.length_eq]
  split
  · exact forall₂_exchange elements n
  · rw [sink, sink, high.length_eq]
    refine List.rel_append (List.rel_append high ?_) ?_
    · exact List.forall₂_map_left_iff.2 (List.forall₂_map_right_iff.2
        (List.forall₂_same.2 fun _ _ => unseen))
    · split
      · cases elements with
        | nil => exact .cons unseen .nil
        | cons top _ => exact .cons top .nil
      · exact .nil

end Stack

/-! ## Blurred elements -/

namespace ValueSet

theorem eq_of_some_mem_recorded {tracked : ValueSet} {v : Value} {n : Int}
    (member : some n ∈ tracked.recorded v) : v = some n := by
  rw [recorded] at member
  split at member
  · exact (List.mem_singleton.1 member).symm
  · split at member
    · cases member
    · cases List.mem_singleton.1 member

/-- A value is recorded as it is or as unknown, unless unknown itself is tracked. -/
theorem mem_recorded_or {tracked : ValueSet} (plain : none ∉ tracked) (v : Value) :
    v ∈ tracked.recorded v ∨ none ∈ tracked.recorded v := by
  rw [recorded, if_neg plain]
  split
  · exact .inl (List.mem_singleton.2 rfl)
  · exact .inr (List.mem_singleton.2 rfl)

end ValueSet

theorem Value.eq_some_of_and {v u : Value} {n : Int} (known : v.and u = some n) :
    ∃ a b, v = some a ∧ u = some b := by
  cases v with
  | none => cases known
  | some a =>
      cases u with
      | none => cases known
      | some b => exact ⟨a, b, rfl, rfl⟩

namespace AbstractValue

/-- An element and a more precise one: each value of the latter is in the former, or unknown is, and
the former has no known value of its own. -/
def Blurs : AbstractValue → AbstractValue → Prop
  | .among coarse, .among fine =>
    (∀ v ∈ fine, v ∈ coarse ∨ none ∈ coarse) ∧ ∀ v ∈ coarse, v = none ∨ v ∈ fine
  | _, _ => False

instance : (e f : AbstractValue) → Decidable (e.Blurs f)
  | .among coarse, .among fine =>
    inferInstanceAs (Decidable ((∀ v ∈ fine.members, v ∈ coarse ∨ none ∈ coarse) ∧
      ∀ v ∈ coarse.members, v = none ∨ v ∈ fine))
  | .top, _ => inferInstanceAs (Decidable False)
  | .among _, .top => inferInstanceAs (Decidable False)

variable {tracked : ValueSet}

theorem Blurs.exists_values {e f : AbstractValue} (blurs : e.Blurs f) :
    ∃ coarse fine, e = .among coarse ∧ f = .among fine ∧
      (∀ v ∈ fine, v ∈ coarse ∨ none ∈ coarse) ∧ ∀ n, some n ∈ coarse → some n ∈ fine := by
  cases e with
  | top => exact blurs.elim
  | among coarse =>
      cases f with
      | top => exact blurs.elim
      | among fine =>
          obtain ⟨kept, known⟩ := blurs
          exact ⟨coarse, fine, rfl, rfl, kept, fun n member =>
            (known _ member).resolve_left (Option.some_ne_none n)⟩

theorem blurs_among {coarse fine : ValueSet} (kept : ∀ v ∈ fine, v ∈ coarse ∨ none ∈ coarse)
    (known : ∀ n, some n ∈ coarse → some n ∈ fine) : (among coarse).Blurs (among fine) := by
  refine ⟨kept, fun v member => ?_⟩
  cases v with
  | none => exact .inl rfl
  | some n => exact .inr (known n member)

theorem blurs_unknown : unknown.Blurs unknown :=
  blurs_among (fun _ member => .inl member) fun _ member => member

theorem blurs_ofValue (plain : none ∉ tracked) (v : Value) :
    (ofValue tracked v).Blurs (ofValue .empty v) := by
  apply blurs_among
  · intro u member
    obtain rfl : u = v := List.mem_singleton.1 member
    exact ValueSet.mem_recorded_or plain u
  · intro n member
    exact List.mem_singleton.2 (ValueSet.eq_of_some_mem_recorded member).symm

theorem exists_and_eq (tracked s t : ValueSet) :
    ∃ values, and tracked (.among s) (.among t) = .among values ∧
      ∀ v, v ∈ values ↔ ∃ a ∈ s, ∃ b ∈ t, v ∈ tracked.recorded (a.and b) := by
  refine ⟨_, rfl, fun v => (ValueSet.mem_foldl_recorded _ _).trans ?_⟩
  simp only [List.mem_flatMap, List.mem_map]
  constructor
  · rintro (member | ⟨-, ⟨a, a_mem, b, b_mem, rfl⟩, member⟩)
    · cases member
    · exact ⟨a, a_mem, b, b_mem, member⟩
  · rintro ⟨a, a_mem, b, b_mem, member⟩
    exact .inr ⟨a.and b, ⟨a, a_mem, b, b_mem, rfl⟩, member⟩

/-- Where a value has become unknown, so have its conjunctions; where none has, the two elements are
the same. -/
theorem Blurs.and (plain : none ∉ tracked) {e e' f f' : AbstractValue} (first : e.Blurs e')
    (second : f.Blurs f') : (and tracked e f).Blurs (and .empty e' f') := by
  obtain ⟨c, d, rfl, rfl, kept, known⟩ := first.exists_values
  obtain ⟨c', d', rfl, rfl, kept', known'⟩ := second.exists_values
  obtain ⟨coarse, coarse_eq, mem_coarse⟩ := exists_and_eq tracked c c'
  obtain ⟨fine, fine_eq, mem_fine⟩ := exists_and_eq .empty d d'
  rw [coarse_eq, fine_eq]
  have unknown_mem : ∀ {a b}, a ∈ c → b ∈ c' → a.and b = none → none ∈ coarse := by
    intro a b a_mem b_mem unknown
    refine (mem_coarse none).2 ⟨a, a_mem, b, b_mem, ?_⟩
    rw [unknown]
    exact (ValueSet.mem_recorded_or plain none).elim id id
  apply blurs_among
  · intro v member
    obtain ⟨a, a_mem, b, b_mem, v_eq⟩ := (mem_fine v).1 member
    obtain rfl : v = a.and b := List.mem_singleton.1 v_eq
    rcases kept a a_mem with a_kept | unknown
    · rcases kept' b b_mem with b_kept | unknown'
      · refine (ValueSet.mem_recorded_or plain (a.and b)).imp (fun same => ?_) fun lost => ?_
        · exact (mem_coarse _).2 ⟨a, a_kept, b, b_kept, same⟩
        · exact (mem_coarse _).2 ⟨a, a_kept, b, b_kept, lost⟩
      · exact .inr (unknown_mem a_kept unknown' (by cases a <;> rfl))
    · -- The other side has a value, known or not, for the unknown one to be paired with.
      rcases kept' b b_mem with b_kept | unknown'
      · exact .inr (unknown_mem unknown b_kept rfl)
      · exact .inr (unknown_mem unknown unknown' rfl)
  · intro n member
    obtain ⟨a, a_mem, b, b_mem, recorded⟩ := (mem_coarse (some n)).1 member
    have value_eq := ValueSet.eq_of_some_mem_recorded recorded
    obtain ⟨x, y, rfl, rfl⟩ := Value.eq_some_of_and value_eq
    refine (mem_fine (some n)).2 ⟨some x, known x a_mem, some y, known' y b_mem, ?_⟩
    exact List.mem_singleton.2 value_eq.symm

end AbstractValue

/-! ## Blurred stacks -/

/-- Two stacks of the same height whose elements blur each other, place by place. -/
def AbstractStack.Blurs (s t : AbstractStack) : Prop := List.Forall₂ AbstractValue.Blurs s t

/-- An operation that tracks some values blurs what it does to all of them. -/
theorem Operation.apply_blurs {tracked : ValueSet} (plain : none ∉ tracked) (operation : Operation)
    {s t : AbstractStack} (blurs : s.Blurs t) :
    AbstractStack.Blurs (operation.apply tracked s) (operation.apply .empty t) := by
  cases operation with
  | push width value => exact .cons (AbstractValue.blurs_ofValue plain _) blurs
  | dup n => exact Stack.forall₂_dup AbstractValue.blurs_unknown blurs n
  | swap n => exact Stack.forall₂_swap AbstractValue.blurs_unknown blurs n
  | plain m =>
      by_cases conjunction : m = .and
      · subst conjunction
        have first := Stack.related_headD AbstractValue.blurs_unknown blurs
        have second := Stack.related_headD AbstractValue.blurs_unknown (List.forall₂_drop 1 blurs)
        rw [List.drop_one, List.drop_one] at second
        exact .cons (first.and plain second) (List.forall₂_drop 2 blurs)
      · rw [apply_plain conjunction, apply_plain conjunction]
        refine List.rel_append ?_ (List.forall₂_drop m.pops blurs)
        exact List.forall₂_same.2 fun e member =>
          List.eq_of_mem_replicate member ▸ AbstractValue.blurs_unknown

theorem Instruction.applyAll_blurs {tracked : ValueSet} (plain : none ∉ tracked)
    (is : List Instruction) {s t : AbstractStack} (blurs : s.Blurs t) :
    AbstractStack.Blurs (applyAll tracked is s) (applyAll .empty is t) := by
  induction is generalizing s t with
  | nil => exact blurs
  | cons i is ih => exact ih (i.operation.apply_blurs plain blurs)

namespace Block

theorem exit_blurs {tracked : ValueSet} (plain : none ∉ tracked) (b : Block) {s t : AbstractStack}
    (blurs : s.Blurs t) :
    AbstractStack.Blurs (b.interpret tracked s).exit (b.interpret .empty t).exit := by
  rw [interpret, interpret]
  split
  · have before := Stack.forall₂_ensured AbstractValue.blurs_unknown
      (Instruction.applyAll_blurs plain b.instructions.dropLast blurs)
    exact Stack.forall₂_ensured AbstractValue.blurs_unknown
      (b.last.operation.apply_blurs plain before)
  · exact Instruction.applyAll_blurs plain b.instructions blurs

theorem target?_of_endsInJump (tracked : ValueSet) {b : Block} (jumps : b.endsInJump)
    (s : AbstractStack) : (b.interpret tracked s).target? =
      some ((Instruction.applyAll tracked b.instructions.dropLast s).headD .unknown) := by
  rw [interpret, if_pos jumps]
  exact Stack.head?_ensured _ _

theorem target?_blurs {tracked : ValueSet} (plain : none ∉ tracked) {b : Block}
    (jumps : b.endsInJump) {s t : AbstractStack} (blurs : s.Blurs t) :
    ∃ e f, (b.interpret tracked s).target? = some e ∧ (b.interpret .empty t).target? = some f ∧
      e.Blurs f := by
  have before := Instruction.applyAll_blurs plain b.instructions.dropLast blurs
  exact ⟨_, _, target?_of_endsInJump tracked jumps s, target?_of_endsInJump .empty jumps t,
    Stack.related_headD AbstractValue.blurs_unknown before⟩

end Block

theorem Exploration.destinations_subset {shown other : Interpretation} {values more : ValueSet}
    (target : shown.target? = some (.among values))
    (other_target : other.target? = some (.among more))
    (known : ∀ n, some n ∈ values → some n ∈ more) (layout : Layout) :
    destinations layout shown ⊆ destinations layout other := by
  intro n member
  simp only [destinations, target, other_target, Option.elim_some, jumpTargets, List.mem_filter,
    ValueSet.known, List.mem_filterMap, id_eq, exists_eq_right] at member ⊢
  exact member.imp_left (known n)

/-- Two interpretations, one that tracks some known values and one that tracks all, on stacks of
which the first blurs the second.  Instructions of any number keep this relation, and so do blocks.
At the end of a block that jumps, every destination that the first interpretation sees is seen by
the second, and the second sees no other unless the first has an unknown value there. -/
theorem tracking_blurs_interpretation (tracked : ValueSet) (plain : none ∉ tracked)
    (s t : AbstractStack) (blurs : s.Blurs t) :
    (∀ is : List Instruction,
      AbstractStack.Blurs (Instruction.applyAll tracked is s) (Instruction.applyAll .empty is t)) ∧
    ∀ b : Block,
      let some_tracked := b.interpret tracked s
      let all_tracked := b.interpret .empty t
      AbstractStack.Blurs some_tracked.exit all_tracked.exit ∧
      (b.endsInJump → ∃ seen all : ValueSet,
        some_tracked.target? = some (.among seen) ∧ all_tracked.target? = some (.among all) ∧
        (∀ n, some n ∈ seen → some n ∈ all) ∧
        (none ∉ seen → ∀ n, some n ∈ all → some n ∈ seen) ∧
        ∀ layout,
          Exploration.destinations layout some_tracked ⊆
            Exploration.destinations layout all_tracked ∧
          (none ∉ seen → Exploration.destinations layout all_tracked ⊆
            Exploration.destinations layout some_tracked)) := by
  refine ⟨fun is => Instruction.applyAll_blurs plain is blurs, fun b => ?_⟩
  intro some_tracked all_tracked
  refine ⟨b.exit_blurs plain blurs, fun jumps => ?_⟩
  obtain ⟨e, f, seen_target, all_target, element_blurs⟩ := Block.target?_blurs plain jumps blurs
  obtain ⟨seen, all, rfl, rfl, kept, known⟩ := element_blurs.exists_values
  have none_lost : none ∉ seen → ∀ n, some n ∈ all → some n ∈ seen := fun certain n member =>
    (kept (some n) member).resolve_right certain
  refine ⟨seen, all, seen_target, all_target, known, none_lost, fun layout => ⟨?_, ?_⟩⟩
  · exact Exploration.destinations_subset seen_target all_target known layout
  · exact fun certain =>
      Exploration.destinations_subset all_target seen_target (none_lost certain) layout

/-- A jump whose destination is the conjunction of 6 and what is on the stack. -/
def maskedJump : Block := ⟨⟨0, .push 1 6⟩, [⟨2, .plain .and⟩, ⟨3, .plain .jump⟩]⟩

theorem maskedJump_blurred :
    let tracked := ValueSet.single (some 6)
    let coarse : AbstractStack := [.among (.ofList [none, some 6])]
    let fine : AbstractStack := [.among (.ofList [some 3, some 6])]
    none ∉ tracked ∧ coarse.Blurs fine ∧ maskedJump.endsInJump ∧
      ∃ seen all : ValueSet,
        (maskedJump.interpret tracked coarse).target? = some (.among seen) ∧
        (maskedJump.interpret .empty fine).target? = some (.among all) ∧
        ∀ n, some n ∈ seen → some n ∈ all := by
  intro tracked coarse fine
  have plain : none ∉ tracked := by decide
  have blurs : coarse.Blurs fine := .cons (by decide) .nil
  have jumps : maskedJump.endsInJump := by decide
  obtain ⟨-, blocks⟩ := tracking_blurs_interpretation tracked plain coarse fine blurs
  obtain ⟨-, at_jump⟩ := blocks maskedJump
  obtain ⟨seen, all, seen_target, all_target, known, -⟩ := at_jump jumps
  exact ⟨plain, blurs, jumps, seen, all, seen_target, all_target, known⟩

end EvmFlow
