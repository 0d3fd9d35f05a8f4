import EvmFlow.Proofs.Machine.Run
import EvmFlow.Proofs.Value.Join
import EvmFlow.Value.Transfer

/-!
# What an abstract stack says about words

An abstract stack covers a stack of words if each of its elements, counted from the top, admits the
word at the same place.  Interpreting a block on a stack that covers the words leaves a stack that
covers what the block makes of them (`Block.Runs.covers`), unless an exchange reaches below the
bottom.  Joining stacks does not keep this: a join covers no words at all
(`AbstractStack.covers_join_iff`), and holds what it joins only if one counts from the bottom
(`AbstractStack.admits_join`).
-/

namespace EvmFlow

/-! ## Values -/

/-- A value is unknown, or is the number of a word. -/
def Value.Describes (v : Value) (w : Word) : Prop := ∀ n ∈ v, n = (w.toNat : Int)

theorem Value.Describes.and {v u : Value} {a w : Word} (first : v.Describes a)
    (second : u.Describes w) : (v.and u).Describes (a &&& w) := by
  cases v with
  | none => exact fun n known => by cases known
  | some m =>
      cases u with
      | none => exact fun n known => by cases known
      | some n =>
          rw [first m rfl, second n rfl]
          rintro _ ⟨⟩
          rw [BitVec.toNat_and]
          rfl

namespace ValueSet

/-- What is recorded for a value describes the same words, unless unknown itself is tracked. -/
theorem exists_mem_recorded {tracked : ValueSet} (plain : none ∉ tracked) {v : Value} {w : Word}
    (describes : v.Describes w) : ∃ u ∈ tracked.recorded v, u.Describes w := by
  rw [recorded, if_neg plain]
  split
  · exact ⟨v, List.mem_singleton.2 rfl, describes⟩
  · exact ⟨none, List.mem_singleton.2 rfl, fun n known => by cases known⟩

theorem mem_foldl_recorded {tracked : ValueSet} {u : Value} (values : List Value)
    (found : ValueSet) :
    u ∈ values.foldl (fun result v => tracked.recorded v ∪ result) found ↔
      u ∈ found ∨ ∃ v ∈ values, u ∈ tracked.recorded v := by
  induction values generalizing found with
  | nil => simp
  | cons v values ih =>
      rw [List.foldl_cons, ih, mem_union]
      simp only [List.mem_cons, exists_eq_or_imp]
      tauto

end ValueSet

namespace AbstractValue

/-- An element admits a word. -/
def Covers : AbstractValue → Word → Prop
  | .top, _ => True
  | .among values, w => none ∈ values ∨ some (w.toNat : Int) ∈ values

instance : (e : AbstractValue) → (w : Word) → Decidable (e.Covers w)
  | .top, _ => inferInstanceAs (Decidable True)
  | .among values, w => inferInstanceAs (Decidable (none ∈ values ∨ some (w.toNat : Int) ∈ values))

theorem covers_among_iff {values : ValueSet} {w : Word} :
    (among values).Covers w ↔ ∃ v ∈ values, v.Describes w := by
  constructor
  · rintro (unknown | known)
    · exact ⟨none, unknown, fun n known => by cases known⟩
    · exact ⟨_, known, fun n same => (Option.some.inj same).symm⟩
  · rintro ⟨v, member, describes⟩
    cases v with
    | none => exact .inl member
    | some n => exact .inr (describes n rfl ▸ member)

@[simp]
theorem covers_unknown (w : Word) : unknown.Covers w := .inl (List.mem_singleton.2 rfl)

@[simp]
theorem not_covers_nothing (w : Word) : ¬ nothing.Covers w := by
  rintro (unknown | known)
  · cases unknown
  · cases known

theorem covers_ofValue {tracked : ValueSet} (plain : none ∉ tracked) {v : Value} {w : Word}
    (describes : v.Describes w) : (ofValue tracked v).Covers w :=
  covers_among_iff.2 (ValueSet.exists_mem_recorded plain describes)

theorem covers_and {tracked : ValueSet} (plain : none ∉ tracked) {e f : AbstractValue} {a w : Word}
    (first : e.Covers a) (second : f.Covers w) : (and tracked e f).Covers (a &&& w) := by
  cases e with
  | top => trivial
  | among s =>
      cases f with
      | top => trivial
      | among t =>
          obtain ⟨v, v_mem, v_describes⟩ := covers_among_iff.1 first
          obtain ⟨u, u_mem, u_describes⟩ := covers_among_iff.1 second
          obtain ⟨r, r_mem, r_describes⟩ :=
            ValueSet.exists_mem_recorded plain (v_describes.and u_describes)
          refine covers_among_iff.2 ⟨r, (ValueSet.mem_foldl_recorded _ _).2 (.inr ?_), r_describes⟩
          have pair : v.and u ∈ s.members.flatMap fun a => t.members.map fun b => a.and b :=
            List.mem_flatMap.2 ⟨v, v_mem, List.mem_map.2 ⟨u, u_mem, rfl⟩⟩
          exact ⟨v.and u, pair, r_mem⟩

end AbstractValue

/-! ## Stacks -/

namespace AbstractStack

/-- Counted from the top, each element admits the word at its place. -/
def Covers : AbstractStack → List Word → Prop
  | e :: s, w :: ws => e.Covers w ∧ Covers s ws
  | _, _ => True

instance decidableCovers : (s : AbstractStack) → (ws : List Word) → Decidable (Covers s ws)
  | [], _ => inferInstanceAs (Decidable True)
  | _ :: _, [] => inferInstanceAs (Decidable True)
  | e :: s, w :: ws =>
    have := decidableCovers s ws
    inferInstanceAs (Decidable (e.Covers w ∧ Covers s ws))

@[simp]
theorem covers_nil_left (ws : List Word) : Covers [] ws := trivial

@[simp]
theorem covers_nil_right (s : AbstractStack) : Covers s [] := by
  cases s <;> trivial

theorem covers_cons {e : AbstractValue} {s : AbstractStack} {w : Word} {ws : List Word} :
    Covers (e :: s) (w :: ws) ↔ e.Covers w ∧ Covers s ws := Iff.rfl

theorem Covers.getElem? {s : AbstractStack} {ws : List Word} (covers : Covers s ws) {i : Nat}
    {w : Word} (there : ws[i]? = some w) : (s[i]?.getD .unknown).Covers w := by
  induction i generalizing s ws with
  | zero =>
      cases s with
      | nil => simp
      | cons e s =>
          cases ws with
          | nil => cases there
          | cons v ws =>
              cases there
              exact covers.1
  | succ i ih =>
      cases s with
      | nil => simp
      | cons e s =>
          cases ws with
          | nil => cases there
          | cons v ws => exact ih covers.2 there

theorem Covers.drop {s : AbstractStack} {ws : List Word} (covers : Covers s ws) (n : Nat) :
    Covers (s.drop n) (ws.drop n) := by
  induction n generalizing s ws with
  | zero => exact covers
  | succ n ih =>
      cases s with
      | nil => simp
      | cons e s =>
          cases ws with
          | nil => simp
          | cons w ws => exact ih covers.2

theorem Covers.set {s : AbstractStack} {ws : List Word} (covers : Covers s ws) (n : Nat)
    {e : AbstractValue} {w : Word} (here : e.Covers w) : Covers (s.set n e) (ws.set n w) := by
  induction n generalizing s ws with
  | zero =>
      cases s with
      | nil => simp
      | cons f s =>
          cases ws with
          | nil => simp
          | cons v ws => exact ⟨here, covers.2⟩
  | succ n ih =>
      cases s with
      | nil => simp
      | cons f s =>
          cases ws with
          | nil => simp
          | cons v ws => exact ⟨covers.1, ih covers.2⟩

/-- Words below the bottom do not matter. -/
theorem Covers.set_below {s : AbstractStack} {ws : List Word} (covers : Covers s ws) {n : Nat}
    (below : s.length ≤ n) (w : Word) : Covers s (ws.set n w) := by
  induction s generalizing ws n with
  | nil => simp
  | cons e s ih =>
      cases ws with
      | nil => simp
      | cons v ws =>
          cases n with
          | zero => simp at below
          | succ n => exact ⟨covers.1, ih covers.2 (by simpa using below)⟩

/-- Elements that admit every word can be put below the bottom. -/
theorem Covers.append {s : AbstractStack} {ws : List Word} (covers : Covers s ws)
    {more : AbstractStack} (open_below : ∀ e ∈ more, ∀ w, e.Covers w) : Covers (s ++ more) ws := by
  induction s generalizing ws with
  | nil =>
      clear covers
      rw [List.nil_append]
      induction more generalizing ws with
      | nil => simp
      | cons e more ih =>
          cases ws with
          | nil => simp
          | cons w ws =>
              exact ⟨open_below e List.mem_cons_self w,
                ih fun f member => open_below f (List.mem_cons_of_mem e member)⟩
  | cons e s ih =>
      cases ws with
      | nil => simp
      | cons w ws => exact ⟨covers.1, ih covers.2⟩

theorem Covers.replicate_append {s : AbstractStack} {ws : List Word} (covers : Covers s ws)
    (left : List Word) : Covers (List.replicate left.length .unknown ++ s) (left ++ ws) := by
  induction left with
  | nil => exact covers
  | cons w left ih => exact ⟨AbstractValue.covers_unknown w, ih⟩

theorem Covers.append_unknown {s : AbstractStack} {ws : List Word} (covers : Covers s ws) :
    Covers (s ++ [.unknown]) ws :=
  covers.append (by simp)

theorem Covers.ensured {s : AbstractStack} {ws : List Word} (covers : Covers s ws) :
    Covers (Stack.ensured .unknown s) ws := by
  cases s with
  | nil => exact covers.append_unknown
  | cons e s => exact covers

end AbstractStack

/-! ## Operations -/

/-- The stack is high enough for an exchange, or the top, which then stays in place, admits every
word. -/
def Operation.Reaches (s : AbstractStack) : Operation → Prop
  | .swap n => n < s.length ∨ ∀ w, (s.headD .unknown).Covers w
  | _ => True

namespace AbstractStack

theorem Covers.exchange {s : AbstractStack} {ws : List Word} (covers : Covers s ws) {n : Nat}
    (inside : n < s.length) {a w : Word} (top : ws.head? = some a) (below : ws[n]? = some w) :
    Covers (Stack.exchange n s) ((ws.set 0 w).set n a) := by
  cases s with
  | nil => cases inside
  | cons e s =>
      have first : e.Covers a := by
        rw [List.head?_eq_getElem?] at top
        simpa using covers.getElem? top
      have second := covers.getElem? below
      rw [List.getElem?_eq_getElem inside, Option.getD_some] at second
      rw [Stack.exchange, List.head?_cons, List.getElem?_eq_getElem inside]
      exact (covers.set 0 second).set n first

/-- Where the top stays in place, it has to admit what comes there. -/
theorem Covers.sink {s : AbstractStack} {ws : List Word} (covers : Covers s ws) {n : Nat}
    (beyond : s.length ≤ n) (top_open : ∀ w, (s.headD .unknown).Covers w) (a w : Word) :
    Covers (Stack.sink (fun _ => .unknown) n s) ((ws.set 0 w).set n a) := by
  have high : Covers (Stack.ensured .unknown s) ((ws.set 0 w).set n a) := by
    cases s with
    | nil => exact Covers.ensured (covers_nil_left _)
    | cons e s =>
        cases ws with
        | nil => simp
        | cons v ws =>
            cases n with
            | zero => simp at beyond
            | succ n => exact ⟨top_open w, covers.2.set_below (by simpa using beyond) a⟩
  have head_open : ∀ e ∈ (Stack.ensured .unknown s).head?, ∀ w, e.Covers w := by
    cases s with
    | nil => simp [Stack.ensured]
    | cons e s => simpa [Stack.ensured] using top_open
  rw [Stack.sink]
  refine (high.append ?_).append ?_
  · intro e member
    obtain ⟨i, -, rfl⟩ := List.mem_map.1 member
    exact AbstractValue.covers_unknown
  · intro e member
    split at member
    · exact head_open e (Option.mem_toList.1 member)
    · cases member

end AbstractStack

theorem Operation.apply_plain {m : Mnemonic} (not_and : m ≠ .and) (tracked : ValueSet)
    (s : AbstractStack) :
    (plain m).apply tracked s = List.replicate m.pushes .unknown ++ s.drop m.pops := by
  simp [apply, not_and, pushes, pops]

/-- What an operation makes of words is covered by what it makes of a stack that covers them. -/
theorem Operation.Runs.covers {operation : Operation} {ws d : List Word}
    (runs : operation.Runs ws d) {tracked : ValueSet} (plain : none ∉ tracked)
    (fits : operation.FitsWord) {s : AbstractStack} (reaches : operation.Reaches s)
    (covers : AbstractStack.Covers s ws) : AbstractStack.Covers (operation.apply tracked s) d := by
  cases runs with
  | @push width value =>
      refine ⟨AbstractValue.covers_ofValue plain ?_, covers⟩
      rintro n ⟨⟩
      rw [Operation.FitsWord, Nat.one_shiftLeft] at fits
      rw [BitVec.toNat_ofNat, Nat.mod_eq_of_lt fits]
  | dup copied => exact ⟨by simpa [List.getD] using covers.getElem? copied, covers⟩
  | @swap n _ a w top below =>
      rw [apply, Stack.swap]
      split
      · rename_i inside
        exact covers.exchange inside top below
      · rename_i beyond
        exact covers.sink (Nat.le_of_not_lt beyond) (reaches.resolve_left beyond) a w
  | @and a w ws =>
      refine ⟨AbstractValue.covers_and plain ?_ ?_, covers.drop 2⟩
      · simpa [List.headD_eq_head?_getD, List.head?_eq_getElem?] using
          covers.getElem? (i := 0) rfl
      · simpa [List.headD_eq_head?_getD, List.head?_eq_getElem?] using
          covers.getElem? (i := 1) rfl
  | @other m not_and taken left ws pops pushes =>
      have dropped := covers.drop taken.length
      rw [List.drop_left, pops] at dropped
      have remains := dropped.replicate_append left
      rw [pushes] at remains
      rwa [apply_plain not_and]

/-- Every exchange among the instructions reaches what it exchanges. -/
def Instruction.ReachAll (tracked : ValueSet) : List Instruction → AbstractStack → Prop
  | [], _ => True
  | i :: is, s => i.operation.Reaches s ∧ ReachAll tracked is (i.operation.apply tracked s)

/-- Every exchange of a block that is interpreted on a stack reaches what it exchanges. -/
def Block.Reaches (tracked : ValueSet) (b : Block) (s : AbstractStack) : Prop :=
  Instruction.ReachAll tracked b.instructions s

namespace Instruction

theorem RunAll.covers {is : List Instruction} {ws d : List Word} (runs : RunAll is ws d)
    {tracked : ValueSet} (plain : none ∉ tracked) (fits : ∀ i ∈ is, i.operation.FitsWord)
    {s : AbstractStack} (reaches : ReachAll tracked is s) (covers : AbstractStack.Covers s ws) :
    AbstractStack.Covers (applyAll tracked is s) d := by
  induction runs generalizing s with
  | nil => exact covers
  | cons first _ ih =>
      obtain ⟨fits_first, fits_rest⟩ := List.forall_mem_cons.1 fits
      exact ih fits_rest reaches.2 (first.covers plain fits_first reaches.1 covers)

theorem ReachAll.of_append {tracked : ValueSet} {is js : List Instruction} {s : AbstractStack}
    (reaches : ReachAll tracked (is ++ js) s) : ReachAll tracked is s := by
  induction is generalizing s with
  | nil => trivial
  | cons i is ih => exact ⟨reaches.1, ih reaches.2⟩

end Instruction

theorem Block.instructions_eq (b : Block) :
    b.instructions = b.instructions.dropLast ++ [b.last] := by
  obtain ⟨before, eq⟩ := List.getLast?_eq_some_iff.1 b.getLast?_instructions
  rw [eq, List.dropLast_concat]

/-- What a block makes of words is covered by what is left of a stack that covers them. -/
theorem Block.Runs.covers {b : Block} {ws d : List Word} (runs : b.Runs ws d) {tracked : ValueSet}
    (plain : none ∉ tracked) (fits : ∀ i ∈ b.instructions, i.operation.FitsWord)
    {s : AbstractStack} (reaches : b.Reaches tracked s) (covers : AbstractStack.Covers s ws) :
    AbstractStack.Covers (b.interpret tracked s).exit d := by
  rw [interpret]
  split
  · rename_i jumps
    rw [Block.Runs, instructions_eq] at runs
    rw [Block.Reaches, instructions_eq] at reaches
    rw [instructions_eq] at fits
    obtain ⟨e, before, after⟩ := runs.of_append
    cases after with
    | cons jump done =>
        cases done
        have covered := (before.covers plain
          (fun i member => fits i (List.mem_append_left _ member)) reaches.of_append covers).ensured
        have jump_reaches : b.last.operation.Reaches (Stack.ensured .unknown
            (Instruction.applyAll tracked b.instructions.dropLast s)) := by
          rw [endsInJump] at jumps
          cases operation : b.last.operation with
          | swap n => simp [operation, Operation.isJump] at jumps
          | push | dup | plain => trivial
        exact (jump.covers plain (fits b.last (by simp)) jump_reaches covered).ensured
  · exact Instruction.RunAll.covers runs plain fits reaches covers

/-! ## Joins -/

namespace AbstractStack

/-- A join covers no words: its top admits none. -/
theorem covers_join_iff {tracked : ValueSet} {group : List AbstractStack} {ws : List Word} :
    Covers (join tracked group) ws ↔ ws = [] := by
  cases ws with
  | nil => simp
  | cons w ws => simp [join_eq, covers_cons]

/-- A place of a join holds nothing, or all that the stacks have there. -/
theorem admits_level (tracked : ValueSet) {elements : List AbstractValue} {e : AbstractValue}
    (member : e ∈ elements) :
    level tracked elements = .nothing ∨ ∀ w, e.Covers w → (level tracked elements).Covers w := by
  rw [level]
  split
  · exact .inl rfl
  · rename_i kept
    refine .inr fun w covers => ?_
    cases e with
    | top => exact absurd (.inl member) kept
    | among s =>
        obtain ⟨v, listed, describes⟩ := AbstractValue.covers_among_iff.1 covers
        exact AbstractValue.covers_among_iff.2
          ⟨v, mem_listedTogether.2 ⟨s, member, listed⟩, describes⟩

theorem length_lt_length_join (tracked : ValueSet) {group : List AbstractStack} {s : AbstractStack}
    (member : s ∈ group) : s.length < (join tracked group).length := by
  have := length_le_greatestDepth member
  rw [length_join]
  omega

/-- Counted from the bottom, a join holds nothing at a place, or all that a joined stack has there.
-/
theorem admits_join (tracked : ValueSet) {group : List AbstractStack} {s : AbstractStack}
    (member : s ∈ group) {i : Nat} {e : AbstractValue} (there : s.reverse[i]? = some e) :
    ∃ f, (join tracked group).reverse[i]? = some f ∧
      (f = .nothing ∨ ∀ w, e.Covers w → f.Covers w) := by
  have inside : i < greatestDepth group := by
    obtain ⟨lt, -⟩ := List.getElem?_eq_some_iff.1 there
    rw [List.length_reverse] at lt
    exact Nat.lt_of_lt_of_le lt (length_le_greatestDepth member)
  exact ⟨_, getElem?_reverse_join tracked inside,
    admits_level tracked (mem_column.2 ⟨s, member, there⟩)⟩

end AbstractStack
end EvmFlow
