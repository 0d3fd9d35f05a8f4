import EvmFlow.Exploration.Visit
import EvmFlow.Proofs.Graph.Edges

/-!
# What a visit does

The parts of the state that each step of a visit touches, and the jumps it finds.  A visit leaves a
block alone, or only counts it, or reads it: interprets it on the join of what its predecessors
left.
-/

namespace EvmFlow
namespace Exploration

namespace State

/-! ## Jumps found -/

/-- A destination has been found for a jump. -/
def Found (s : State) (source target : Int) : Prop := target ∈ s.discovered.getD source []

/-- A destination has been found for a jump in the current round. -/
def Fresh (s : State) (source target : Int) : Prop :=
  ∃ targets, (source, targets) ∈ s.fresh ∧ target ∈ targets

/-- The number of destinations found in the current round. -/
def freshCount (s : State) : Nat := (s.fresh.flatMap Prod.snd).length

theorem exists_mem_addFresh {source target x t : Int} {fresh : List (Int × List Int)} :
    (∃ targets, (x, targets) ∈ addFresh source target fresh ∧ t ∈ targets) ↔
      (∃ targets, (x, targets) ∈ fresh ∧ t ∈ targets) ∨ (x = source ∧ t = target) := by
  induction fresh with
  | nil => simp [addFresh]
  | cons entry rest ih =>
      obtain ⟨jump, known⟩ := entry
      rw [addFresh]
      split
      · rename_i same
        subst same
        simp only [List.mem_cons, Prod.mk.injEq]
        grind
      · simp only [List.mem_cons, Prod.mk.injEq]
        grind

theorem length_addFresh (source target : Int) (fresh : List (Int × List Int)) :
    ((addFresh source target fresh).flatMap Prod.snd).length =
      (fresh.flatMap Prod.snd).length + 1 := by
  induction fresh with
  | nil => rfl
  | cons entry rest ih =>
      obtain ⟨jump, known⟩ := entry
      rw [addFresh]
      split
      · simp only [List.flatMap_cons, List.length_append, List.length_singleton]
        omega
      · simp only [List.flatMap_cons, List.length_append, ih]
        omega

theorem found_addTarget {s : State} {source target x t : Int} :
    (addTarget source s target).Found x t ↔ s.Found x t ∨ (x = source ∧ t = target) := by
  simp only [Found, addTarget, List.contains_eq_mem, decide_eq_true_eq]
  split
  · grind
  · rw [Std.TreeMap.getD_insert]
    grind

theorem fresh_addTarget {s : State} {source target x t : Int} :
    (addTarget source s target).Fresh x t ↔
      s.Fresh x t ∨ (x = source ∧ t = target ∧ ¬ s.Found source target) := by
  simp only [Fresh, Found, addTarget, List.contains_eq_mem, decide_eq_true_eq]
  split
  · rename_i known
    simp [known]
  · rename_i unknown
    simp only [exists_mem_addFresh, unknown, not_false_eq_true, and_true]

theorem addTarget_of_found {s : State} {source target : Int} (known : s.Found source target) :
    addTarget source s target = s := by
  rw [Found] at known
  simp [addTarget, known]

theorem freshCount_addTarget {s : State} {source target : Int}
    (unknown : ¬ s.Found source target) :
    (addTarget source s target).freshCount = s.freshCount + 1 := by
  rw [Found] at unknown
  have length_eq := length_addFresh source target s.fresh
  simpa [freshCount, addTarget, unknown] using length_eq

/-- Recording destinations changes only what is known of jumps. -/
theorem addTargets_eq (s : State) (source : Int) (targets : List Int) :
    ∃ discovered fresh, s.addTargets source targets = { s with discovered, fresh } := by
  rw [addTargets]
  generalize s.discovered.insertIfNew source [] = known
  suffices ∀ t : State, ∃ discovered fresh,
      targets.foldl (addTarget source) t = { t with discovered, fresh } by
    obtain ⟨discovered, fresh, eq⟩ := this { s with discovered := known }
    exact ⟨discovered, fresh, eq⟩
  intro t
  induction targets generalizing t with
  | nil => exact ⟨t.discovered, t.fresh, rfl⟩
  | cons target targets ih =>
      obtain ⟨discovered, fresh, eq⟩ := ih (addTarget source t target)
      refine ⟨discovered, fresh, ?_⟩
      rw [List.foldl_cons, eq, addTarget]
      split <;> rfl

/-- Whatever holds of a state and is kept when one destination is recorded holds when all are. -/
theorem addTargets_induction {motive : State → Prop} {source : Int} {targets : List Int}
    {s : State} (begin : motive { s with discovered := s.discovered.insertIfNew source [] })
    (step : ∀ t, ∀ target ∈ targets, motive t → motive (addTarget source t target)) :
    motive (s.addTargets source targets) := by
  rw [addTargets]
  revert begin
  generalize { s with discovered := s.discovered.insertIfNew source [] } = t
  intro begin
  induction targets generalizing t with
  | nil => exact begin
  | cons target targets ih =>
      rw [List.foldl_cons]
      exact ih (fun t u member => step t u (List.mem_cons_of_mem target member)) _
        (step t target List.mem_cons_self begin)

/-- Making an entry for a jump finds nothing yet. -/
theorem getD_insertIfNew_nil (known : Std.TreeMap Int (List Int)) (source x : Int) :
    (known.insertIfNew source []).getD x [] = known.getD x [] := by
  rw [Std.TreeMap.getD_insertIfNew]
  split
  · rename_i new
    obtain ⟨same, absent⟩ := new
    rw [Std.LawfulEqCmp.eq_of_compare same] at absent
    exact (Std.TreeMap.getD_eq_fallback absent).symm
  · rfl

theorem fresh_addTargets {s : State} {source x t : Int} {targets : List Int}
    (fresh : (s.addTargets source targets).Fresh x t) :
    s.Fresh x t ∨ (x = source ∧ t ∈ targets) := by
  revert fresh
  apply addTargets_induction (motive := fun u =>
    u.Fresh x t → s.Fresh x t ∨ (x = source ∧ t ∈ targets))
  · exact .inl
  · intro u target member ih fresh
    rcases fresh_addTarget.1 fresh with fresh | ⟨x_eq, t_eq, -⟩
    · exact ih fresh
    · exact .inr ⟨x_eq, t_eq ▸ member⟩

theorem found_addTargets {s : State} {source x t : Int} {targets : List Int} :
    (s.addTargets source targets).Found x t ↔ s.Found x t ∨ (x = source ∧ t ∈ targets) := by
  have entry_found : Found { s with discovered := s.discovered.insertIfNew source [] } x t ↔
      s.Found x t := by
    simp only [Found, getD_insertIfNew_nil]
  rw [addTargets, ← entry_found]
  generalize { s with discovered := s.discovered.insertIfNew source [] } = u
  induction targets generalizing u with
  | nil => simp
  | cons target targets ih =>
      refine (ih (addTarget source u target)).trans ?_
      rw [found_addTarget, List.mem_cons]
      tauto

theorem Fresh.addTargets {s : State} {x t : Int} (fresh : s.Fresh x t) (source : Int)
    (targets : List Int) : (s.addTargets source targets).Fresh x t :=
  addTargets_induction (motive := fun u => u.Fresh x t) fresh
    fun _ _ _ fresh => fresh_addTarget.2 (.inl fresh)

/-- What is found now was found before, or is found in the current round. -/
theorem Found.of_addTargets {s : State} {source x t : Int} {targets : List Int}
    (found : (s.addTargets source targets).Found x t) :
    s.Found x t ∨ (s.addTargets source targets).Fresh x t := by
  revert found
  apply addTargets_induction (motive := fun u => u.Found x t → s.Found x t ∨ u.Fresh x t)
  · intro found
    rw [Found, getD_insertIfNew_nil] at found
    exact .inl found
  · intro u target _ ih found
    by_cases known : u.Found x t
    · exact (ih known).imp_right fun fresh => fresh_addTarget.2 (.inl fresh)
    · obtain ⟨rfl, rfl⟩ := (found_addTarget.1 found).resolve_left known
      exact .inr (fresh_addTarget.2 (.inr ⟨rfl, rfl, known⟩))

end State

/-! ## Destinations shown by an interpretation -/

/-- The destinations that an interpretation shows for a final jump. -/
def destinations (layout : Layout) (shown : Interpretation) : List Int :=
  shown.target?.elim [] (jumpTargets layout)

/-- A block can end its interpretation with a jump to another: the values its jump takes its
destination from hold the start of the other, which can be jumped to. -/
structure ShowsJump (shown : Interpretation) (c : Block) : Prop where
  held : ∃ values, shown.target? = some (.among values) ∧ some (c.start : Int) ∈ values
  destination : c.isDestination
  start_pos : 0 < c.start

theorem showsJump_of_mem_destinations {layout : Layout} {shown : Interpretation} {t : Int}
    (member : t ∈ destinations layout shown) :
    ∃ c ∈ layout.blocks, t = c.start ∧ ShowsJump shown c := by
  rw [destinations] at member
  cases target : shown.target? with
  | none => simp [target] at member
  | some element =>
      cases element with
      | top => simp [target, jumpTargets] at member
      | among values =>
          simp only [target, Option.elim_some, jumpTargets, List.mem_filter, ValueSet.known,
            List.mem_filterMap, id_eq, exists_eq_right, Bool.and_eq_true,
            decide_eq_true_eq] at member
          obtain ⟨held, positive, valid⟩ := member
          obtain ⟨c, c_mem, start_eq, destination⟩ := Layout.exists_of_isDestination valid
          have t_eq : t = c.start := by omega
          subst t_eq
          exact ⟨c, c_mem, rfl, ⟨values, target, held⟩, destination, by omega⟩

/-- The destinations shown are the starts of the blocks that can be jumped to. -/
theorem mem_destinations_iff {layout : Layout} (coherent : layout.Coherent) {shown : Interpretation}
    {c : Block} (c_mem : c ∈ layout.blocks) :
    (c.start : Int) ∈ destinations layout shown ↔ ShowsJump shown c := by
  constructor
  · intro member
    obtain ⟨d, d_mem, same, shows⟩ := showsJump_of_mem_destinations member
    obtain rfl := coherent.eq_of_start_eq c_mem d_mem (by exact_mod_cast same)
    exact shows
  · rintro ⟨⟨values, target, held⟩, destination, positive⟩
    have valid : layout.isDestination c.start := by
      rw [Layout.isDestination, coherent.blockFrom?_start c_mem]
      exact destination
    simp only [destinations, target, Option.elim_some, jumpTargets, List.mem_filter, ValueSet.known,
      List.mem_filterMap, id_eq, exists_eq_right, Bool.and_eq_true, decide_eq_true_eq]
    exact ⟨held, by exact_mod_cast positive, valid⟩

/-- An interpretation that shows no destination leaves what is known of jumps as it is. -/
theorem State.discover_eq (s : State) (layout : Layout) (b : Block) (shown : Interpretation) :
    (s.discover layout b shown = s ∧ destinations layout shown = []) ∨
      s.discover layout b shown = s.addTargets b.stop (destinations layout shown) := by
  rw [State.discover, destinations]
  split
  · rename_i values target
    split
    · rename_i noValues
      have members_eq : values.members = [] := List.isEmpty_iff.1 noValues
      exact .inl ⟨rfl, by simp [target, jumpTargets, ValueSet.known, members_eq]⟩
    · exact .inr (by simp [target])
  · rename_i other
    refine .inl ⟨rfl, ?_⟩
    cases target : shown.target? with
    | none => rfl
    | some element =>
        cases element with
        | top => rfl
        | among values => exact absurd target (other values)

theorem endsInJump_of_target? {tracked : ValueSet} {b : Block} {stack : AbstractStack}
    {element : AbstractValue} (target : (b.interpret tracked stack).target? = some element) :
    b.endsInJump := by
  rw [Block.interpret] at target
  split at target
  · assumption
  · cases target

/-! ## Reading a block -/

/-- All that an interpretation of a block changes. -/
theorem revise_eq (p : Problem) (g : Ground) (b : Block) (stack : AbstractStack) (s : State) :
    ∃ discovered fresh targets carriedAt, revise p g b stack s =
      { s with
        explored := if s.explored.contains b.start then s.explored else s.explored ++ [b.start]
        exits := s.exits.insert b.stop (b.interpret p.tracked stack).exit
        queue :=
          if s.exits.get? b.stop = some (b.interpret p.tracked stack).exit then s.queue
          else s.queue ++
            ((g.edges.ends b.start).map (Option.map fun block => { block, age := g.age })).reverse
        discovered, fresh, targets, carriedAt } := by
  let shown := b.interpret p.tracked stack
  have found : ∃ discovered fresh, (s.record b shown).discover p.layout b shown =
      { s.record b shown with discovered, fresh } := by
    rcases (s.record b shown).discover_eq p.layout b shown with ⟨same, -⟩ | added
    · exact ⟨_, _, same⟩
    · rw [added]
      exact State.addTargets_eq _ _ _
  obtain ⟨discovered, fresh, recorded⟩ := found
  refine ⟨discovered, fresh, (s.record b shown).targets, (s.record b shown).carriedAt, ?_⟩
  simp only [revise]
  rw [recorded]
  split <;> rfl

section Revise

variable (p : Problem) (g : Ground) (b : Block) (stack : AbstractStack) (s : State)

@[simp]
theorem revise_agenda : (revise p g b stack s).agenda = s.agenda := by
  obtain ⟨_, _, _, _, eq⟩ := revise_eq p g b stack s
  rw [eq]

@[simp]
theorem revise_visits : (revise p g b stack s).visits = s.visits := by
  obtain ⟨_, _, _, _, eq⟩ := revise_eq p g b stack s
  rw [eq]

@[simp]
theorem revise_rounds : (revise p g b stack s).rounds = s.rounds := by
  obtain ⟨_, _, _, _, eq⟩ := revise_eq p g b stack s
  rw [eq]

theorem get?_exits_revise (x : Nat) :
    (revise p g b stack s).exits.get? x =
      if x = b.stop then some (b.interpret p.tracked stack).exit else s.exits.get? x := by
  obtain ⟨_, _, _, _, eq⟩ := revise_eq p g b stack s
  rw [eq]
  simp only [Std.TreeMap.get?_eq_getElem?, Std.TreeMap.getElem?_insert, Nat.compare_eq_eq,
    @eq_comm _ x b.stop]

theorem revise_explored :
    (revise p g b stack s).explored =
      if s.explored.contains b.start then s.explored else s.explored ++ [b.start] := by
  obtain ⟨_, _, _, _, eq⟩ := revise_eq p g b stack s
  rw [eq]

theorem revise_queue :
    (revise p g b stack s).queue =
      if s.exits.get? b.stop = some (b.interpret p.tracked stack).exit then s.queue
      else s.queue ++
        ((g.edges.ends b.start).map (Option.map fun block => { block, age := g.age })).reverse := by
  obtain ⟨_, _, _, _, eq⟩ := revise_eq p g b stack s
  rw [eq]

@[simp]
theorem mem_explored_revise {a : Nat} :
    a ∈ (revise p g b stack s).explored ↔ a ∈ s.explored ∨ a = b.start := by
  rw [revise_explored, List.contains_eq_mem]
  by_cases known : b.start ∈ s.explored
  · simp only [known, decide_true, ↓reduceIte]
    grind
  · simp [known]

theorem nodup_explored_revise (nodup : s.explored.Nodup) :
    (revise p g b stack s).explored.Nodup := by
  rw [revise_explored, List.contains_eq_mem]
  by_cases known : b.start ∈ s.explored
  · simpa [known] using nodup
  · simp only [known, decide_false, Bool.false_eq_true, ↓reduceIte]
    exact List.nodup_append.2 ⟨nodup, by simp, by grind⟩

theorem revise_discovered :
    (revise p g b stack s).discovered =
      ((s.record b (b.interpret p.tracked stack)).discover p.layout b
        (b.interpret p.tracked stack)).discovered := by
  simp only [revise]
  split <;> rfl

theorem revise_fresh :
    (revise p g b stack s).fresh =
      ((s.record b (b.interpret p.tracked stack)).discover p.layout b
        (b.interpret p.tracked stack)).fresh := by
  simp only [revise]
  split <;> rfl

/-- A jump found by an interpretation is one that it shows. -/
theorem fresh_revise {x t : Int} (fresh : (revise p g b stack s).Fresh x t) :
    s.Fresh x t ∨ (x = b.stop ∧ ∃ c ∈ p.layout.blocks, t = c.start ∧
      ShowsJump (b.interpret p.tracked stack) c) := by
  let shown := b.interpret p.tracked stack
  rw [State.Fresh, revise_fresh, ← State.Fresh] at fresh
  rcases (s.record b shown).discover_eq p.layout b shown with ⟨same, -⟩ | added
  · rw [same] at fresh
    exact .inl fresh
  · rcases State.fresh_addTargets (added ▸ fresh) with fresh | ⟨x_eq, member⟩
    · exact .inl fresh
    · exact .inr ⟨x_eq, showsJump_of_mem_destinations member⟩

theorem found_revise {x t : Int} :
    (revise p g b stack s).Found x t ↔
      s.Found x t ∨ (x = b.stop ∧ t ∈ destinations p.layout (b.interpret p.tracked stack)) := by
  let shown := b.interpret p.tracked stack
  rw [State.Found, revise_discovered, ← State.Found]
  rcases (s.record b shown).discover_eq p.layout b shown with ⟨same, nothing⟩ | added
  · rw [same, nothing]
    simp only [List.not_mem_nil, and_false, or_false]
    rfl
  · rw [added, State.found_addTargets]
    rfl

/-- An interpretation forgets none of the jumps found in the round. -/
theorem fresh_revise_of_fresh {x t : Int} (fresh : s.Fresh x t) :
    (revise p g b stack s).Fresh x t := by
  let shown := b.interpret p.tracked stack
  have recorded : (s.record b shown).Fresh x t := fresh
  rw [State.Fresh, revise_fresh, ← State.Fresh]
  rcases (s.record b shown).discover_eq p.layout b shown with ⟨same, -⟩ | added
  · rwa [same]
  · rw [added]
    exact recorded.addTargets _ _

/-- What an interpretation finds was found before, or is found in the current round. -/
theorem fresh_of_found_revise {x t : Int} (found : (revise p g b stack s).Found x t) :
    s.Found x t ∨ (revise p g b stack s).Fresh x t := by
  let shown := b.interpret p.tracked stack
  rw [State.Found, revise_discovered, ← State.Found] at found
  rw [State.Fresh, revise_fresh, ← State.Fresh]
  rcases (s.record b shown).discover_eq p.layout b shown with ⟨same, -⟩ | added
  · rw [same] at found
    exact .inl found
  · rw [added] at found ⊢
    exact found.of_addTargets

end Revise

/-! ## Visits -/

/-- An interpretation of a block on a stack. -/
structure Reading where
  block : Block
  stack : AbstractStack

/-- The interpretation that a visit of a block makes, unless the block is left alone or exhausted.
-/
def reading? (p : Problem) (g : Ground) (b : Block) (s : State) : Option Reading :=
  if g.excluded.contains b.start || exhausted p (s.count b) b then none
  else some ⟨b, entryStack p g s b⟩

/-- All that a visit can do. -/
theorem visit_cases (p : Problem) (g : Ground) (b : Block) (s : State) :
    (b.start ∈ g.excluded ∧ reading? p g b s = none ∧ visit p g b s = s) ∨
    (b.start ∉ g.excluded ∧ exhausted p (s.count b) b ∧ reading? p g b s = none ∧
      visit p g b s = s.count b) ∨
    (b.start ∉ g.excluded ∧ exhausted p (s.count b) b = false ∧
      reading? p g b s = some ⟨b, entryStack p g s b⟩ ∧
      visit p g b s = revise p g b (entryStack p g s b) (s.count b)) := by
  simp only [visit, reading?, List.contains_eq_mem]
  by_cases excluded : b.start ∈ g.excluded
  · simp [excluded]
  · cases exhaustion : exhausted p (s.count b) b
    · simp only [excluded, decide_false, Bool.false_eq_true, ↓reduceIte, Bool.or_self]
      exact .inr (.inr ⟨not_false, trivial, trivial, rfl⟩)
    · simp [excluded]

end Exploration
end EvmFlow
