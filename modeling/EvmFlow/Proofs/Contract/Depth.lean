import Mathlib.Data.List.Perm.Subperm
import EvmFlow.Proofs.Contract.Dispatch

/-!
# How deep a walk through the dispatcher goes

How a walk goes on depends on its block alone.  So a walk that ends at all meets no block inside
itself, and goes no deeper than there are blocks: `walkFrom_depthBound` says that the bound on the
depth is never what ends such a walk.
-/

namespace EvmFlow
namespace Dispatch

/-! ## Walks that are not cut short -/

namespace Walk

/-- A walk was not cut short by the bound on its depth. -/
def Ends (walk : Walk) : Prop := walk.failure ≠ some .endlessDispatch

/-- The second walk is the first one, unless that was cut short. -/
def Settles (first second : Walk) : Prop := first.Ends → second = first

theorem Settles.refl (walk : Walk) : walk.Settles walk := fun _ => rfl

theorem Settles.ends {first second : Walk} (settles : first.Settles second) (ends : first.Ends) :
    second.Ends :=
  settles ends ▸ ends

theorem ends_of_completed {walk : Walk} (completed : walk.failure = none) : walk.Ends := by
  rw [Ends, completed]
  exact (Option.some_ne_none _).symm

theorem andThen_of_failure {walk : Walk} {failure : Failure} (failed : walk.failure = some failure)
    (next : Unit → Walk) : walk.andThen next = walk := by
  rw [andThen, failed]

theorem andThen_of_completed {walk : Walk} (completed : walk.failure = none) (next : Unit → Walk) :
    walk.andThen next = { next () with found := walk.found ++ (next ()).found } := by
  rw [andThen, completed]

theorem Ends.of_andThen {walk : Walk} {next : Unit → Walk} (ends : (walk.andThen next).Ends) :
    walk.Ends := by
  intro cut
  rw [andThen_of_failure cut] at ends
  exact ends cut

theorem Settles.andThen {first first' : Walk} (settles : first.Settles first')
    {next next' : Unit → Walk} (later : (next ()).Settles (next' ())) :
    (first.andThen next).Settles (first'.andThen next') := by
  intro ends
  rw [settles ends.of_andThen]
  cases failure : first.failure with
  | some reason => rw [andThen_of_failure failure, andThen_of_failure failure]
  | none =>
      rw [andThen_of_completed failure] at ends
      rw [andThen_of_completed failure, andThen_of_completed failure, later ends]

/-- What ends only with more depth does so because one of its parts does. -/
theorem cut_of_andThen {first first' : Walk} (settles : first.Settles first')
    {next next' : Unit → Walk} (cut : ¬ (first.andThen next).Ends)
    (ends : (first'.andThen next').Ends) :
    (¬ first.Ends ∧ first'.Ends) ∨ (¬ (next ()).Ends ∧ (next' ()).Ends) := by
  by_cases first_ends : first.Ends
  · right
    rw [settles first_ends] at ends
    cases failure : first.failure with
    | some reason =>
        rw [andThen_of_failure failure] at cut
        exact absurd first_ends cut
    | none =>
        rw [andThen_of_completed failure] at cut ends
        exact ⟨cut, ends⟩
  · exact .inl ⟨first_ends, ends.of_andThen⟩

end Walk

/-! ## One level of a walk -/

/-- What a block that decides on a function leads to, given how a walk goes on from other blocks. -/
def enter (layout : Layout) (deeper : Block → Walk) (b : Block) (start : Nat) (key : Key) : Walk :=
  if b.uses [.gt] then walkAt layout deeper start
  else
    match layout.blockAt? start with
    | some entry => { found := [⟨key, start, entry.start⟩] }
    | none => .failed (.missingBlock start)

theorem walkFrom_of_decision {b : Block} {target : Nat} {key : Key}
    (decided : decision b = (some (target + 1), some key)) (layout : Layout) (depth : Nat) :
    walkFrom layout (depth + 1) b =
      (enter layout (walkFrom layout depth) b (target + 1) key).andThen fun _ =>
        walkAt layout (walkFrom layout depth) (b.stop + 1) := by
  rw [walkFrom, decided]
  rfl

/-- A block that decides on no function ends a walk. -/
theorem walkFrom_of_undecided {b : Block}
    (undecided : ∀ target key, decision b ≠ (some (target + 1), some key)) (layout : Layout)
    (depth : Nat) : walkFrom layout (depth + 1) b = {} := by
  rw [walkFrom]
  split
  · rename_i target key decided
    exact absurd decided (undecided target key)
  · rfl

theorem decided_or_undecided (b : Block) :
    (∃ target key, decision b = (some (target + 1), some key)) ∨
      ∀ target key, decision b ≠ (some (target + 1), some key) := by
  by_cases decided : ∃ target key, decision b = (some (target + 1), some key)
  · exact .inl decided
  · exact .inr fun target key here => decided ⟨target, key, here⟩

theorem undecided_of_not_jumpi {b : Block} (ends : b.endsInJumpi = false) (target : Nat)
    (key : Key) : decision b ≠ (some (target + 1), some key) := by
  simp only [decision, ends, Bool.false_and, Bool.false_eq_true, if_false]
  split <;> simp

section Level

variable {layout : Layout} {deeper deeper' : Block → Walk}
  (settles : ∀ c, (deeper c).Settles (deeper' c))
include settles

theorem walkAt_settles (address : Nat) :
    (walkAt layout deeper address).Settles (walkAt layout deeper' address) := by
  rw [walkAt, walkAt]
  split
  · exact settles _
  · exact .refl _

theorem enter_settles (b : Block) (start : Nat) (key : Key) :
    (enter layout deeper b start key).Settles (enter layout deeper' b start key) := by
  rw [enter, enter]
  split
  · exact walkAt_settles settles start
  · exact .refl _

end Level

theorem cut_of_walkAt {layout : Layout} {deeper deeper' : Block → Walk} {address : Nat}
    (cut : ¬ (walkAt layout deeper address).Ends) (ends : (walkAt layout deeper' address).Ends) :
    ∃ c ∈ layout.blocks, ¬ (deeper c).Ends ∧ (deeper' c).Ends := by
  rw [walkAt] at cut ends
  cases found : layout.blockAt? address with
  | none =>
      simp only [found] at cut ends
      exact absurd ends cut
  | some c =>
      simp only [found] at cut ends
      exact ⟨c, (Layout.mem_of_blockAt? found).1, cut, ends⟩

/-! ## More depth -/

variable {layout : Layout}

theorem walkFrom_settles_succ (depth : Nat) (b : Block) :
    (walkFrom layout depth b).Settles (walkFrom layout (depth + 1) b) := by
  induction depth generalizing b with
  | zero => exact fun ends => absurd rfl ends
  | succ depth ih =>
      rcases decided_or_undecided b with ⟨target, key, decided⟩ | undecided
      · rw [walkFrom_of_decision decided, walkFrom_of_decision decided]
        exact (enter_settles ih b _ key).andThen (walkAt_settles ih _)
      · rw [walkFrom_of_undecided undecided, walkFrom_of_undecided undecided]
        exact .refl _

/-- More depth changes nothing for a walk that ends. -/
theorem walkFrom_settles {depth more : Nat} (le : depth ≤ more) (b : Block) :
    (walkFrom layout depth b).Settles (walkFrom layout more b) := by
  induction more, le using Nat.le_induction with
  | base => exact .refl _
  | succ more _ ih =>
      intro ends
      rw [walkFrom_settles_succ more b (ih.ends ends), ih ends]

/-- A walk from a block ends with one more than a depth, and not with that depth. -/
def Needs (layout : Layout) (depth : Nat) (b : Block) : Prop :=
  ¬ (walkFrom layout depth b).Ends ∧ (walkFrom layout (depth + 1) b).Ends

theorem Needs.eq {depth other : Nat} {b : Block} (needs : Needs layout depth b)
    (needs' : Needs layout other b) : depth = other := by
  rcases Nat.lt_trichotomy depth other with lt | same | lt
  · exact absurd ((walkFrom_settles lt b).ends needs.2) needs'.1
  · exact same
  · exact absurd ((walkFrom_settles lt b).ends needs'.2) needs.1

/-- A block that needs some depth leads to one that needs one less. -/
theorem Needs.exists_below {depth : Nat} {b : Block} (needs : Needs layout (depth + 1) b) :
    ∃ c ∈ layout.blocks, Needs layout depth c := by
  obtain ⟨cut, ends⟩ := needs
  rcases decided_or_undecided b with ⟨target, key, decided⟩ | undecided
  · rw [walkFrom_of_decision decided] at cut ends
    have settles : ∀ c, (walkFrom layout depth c).Settles (walkFrom layout (depth + 1) c) :=
      walkFrom_settles_succ depth
    rcases Walk.cut_of_andThen (enter_settles settles b _ key) cut ends with
      ⟨cut, ends⟩ | ⟨cut, ends⟩
    · rw [enter] at cut ends
      split at cut
      · rename_i splits
        rw [if_pos splits] at ends
        exact cut_of_walkAt cut ends
      · rename_i selects
        rw [if_neg selects] at ends
        exact absurd ends cut
    · exact cut_of_walkAt cut ends
  · rw [walkFrom_of_undecided undecided] at cut
    exact absurd (Walk.ends_of_completed rfl) cut

/-- Below a block that needs some depth there is one for each smaller depth, and no two are the same.
-/
theorem Needs.exists_blocks {depth : Nat} {b : Block} (needs : Needs layout depth b)
    (b_mem : b ∈ layout.blocks) :
    ∃ met : List Block, met.length = depth + 1 ∧ met.Nodup ∧
      ∀ c ∈ met, c ∈ layout.blocks ∧ ∃ less, less ≤ depth ∧ Needs layout less c := by
  induction depth generalizing b with
  | zero =>
      refine ⟨[b], rfl, List.nodup_singleton b, ?_⟩
      exact List.forall_mem_singleton.2 ⟨b_mem, 0, Nat.le_refl 0, needs⟩
  | succ depth ih =>
      obtain ⟨c, c_mem, below⟩ := needs.exists_below
      obtain ⟨met, length_eq, nodup, met_below⟩ := ih below c_mem
      refine ⟨b :: met, by rw [List.length_cons, length_eq], List.nodup_cons.2 ⟨?_, nodup⟩, ?_⟩
      · -- A block needs one depth only, and all those met below need less.
        intro repeated
        obtain ⟨-, less, less_le, needs_less⟩ := met_below b repeated
        have := needs.eq needs_less
        omega
      · refine List.forall_mem_cons.2 ⟨⟨b_mem, depth + 1, Nat.le_refl _, needs⟩, fun d member => ?_⟩
        obtain ⟨d_mem, less, less_le, needs_less⟩ := met_below d member
        exact ⟨d_mem, less, Nat.le_succ_of_le less_le, needs_less⟩

theorem Needs.depth_lt {depth : Nat} {b : Block} (needs : Needs layout depth b)
    (b_mem : b ∈ layout.blocks) : depth < layout.blocks.length := by
  obtain ⟨met, length_eq, nodup, met_below⟩ := needs.exists_blocks b_mem
  have length_le := (nodup.subperm fun c member => (met_below c member).1).length_le
  omega

/-- A walk that ends with some depth ends with that of the number of blocks. -/
theorem ends_of_ends {depth : Nat} {b : Block} (b_mem : b ∈ layout.blocks)
    (ends : (walkFrom layout depth b).Ends) :
    (walkFrom layout layout.blocks.length b).Ends := by
  by_contra cut
  -- The least depth that suffices is one that the block needs, so it is no more than the blocks.
  induction depth with
  | zero => exact ends rfl
  | succ depth ih =>
      by_cases earlier : (walkFrom layout depth b).Ends
      · exact ih earlier
      · have depth_lt := Needs.depth_lt ⟨earlier, ends⟩ b_mem
        exact cut ((walkFrom_settles depth_lt b).ends ends)

/-- The bound on the depth of a walk changes nothing for a walk that ends with some depth. -/
theorem walkFrom_depthBound {depth : Nat} {b : Block} (b_mem : b ∈ layout.blocks)
    (ends : (walkFrom layout depth b).Ends) :
    walkFrom layout (depthBound layout) b = walkFrom layout depth b := by
  have bounded : (walkFrom layout (depthBound layout) b).Ends :=
    (walkFrom_settles (Nat.le_succ _) b).ends (ends_of_ends b_mem ends)
  rcases Nat.le_total depth (depthBound layout) with le | le
  · exact walkFrom_settles le b ends
  · exact (walkFrom_settles le b bounded).symm

/-! ## Walks that come to their end -/

/-- A walk from a block finds the given functions and comes to its end, if it may go deep enough. -/
def Finds (layout : Layout) (b : Block) (found : List Found) : Prop :=
  ∃ depth, walkFrom layout depth b = { found }

theorem finds_of_undecided {b : Block}
    (undecided : ∀ target key, decision b ≠ (some (target + 1), some key)) : Finds layout b [] :=
  ⟨1, walkFrom_of_undecided undecided layout 0⟩

theorem walkFrom_of_le {b : Block} {found : List Found} {depth more : Nat} (le : depth ≤ more)
    (ends : walkFrom layout depth b = { found }) : walkFrom layout more b = { found } := by
  have settled := walkFrom_settles le b (Walk.ends_of_completed (by rw [ends]))
  rw [settled, ends]

section Decision

variable {b c : Block} {start : Nat} {key : Key} {later : List Found}
  (decided : decision b = (some start, some key)) (start_ne : start ≠ 0)
  (follows : layout.blockAt? (b.stop + 1) = some c) (rest : Finds layout c later)
include decided start_ne follows rest

/-- A block that tells a function from the others. -/
theorem Finds.select {entry : Block} (noGt : b.uses [.gt] = false)
    (located : layout.blockAt? start = some entry) :
    Finds layout b (⟨key, start, entry.start⟩ :: later) := by
  obtain ⟨target, rfl⟩ := Nat.exists_eq_succ_of_ne_zero start_ne
  obtain ⟨depth, rest_eq⟩ := rest
  refine ⟨depth + 1, ?_⟩
  rw [walkFrom_of_decision decided, enter, noGt, if_neg Bool.false_ne_true]
  simp only [located, walkAt, follows, rest_eq]
  rfl

/-- A block that splits the functions in two. -/
theorem Finds.split {a : Block} {earlier : List Found} (gt : b.uses [.gt])
    (located : layout.blockAt? start = some a) (taken : Finds layout a earlier) :
    Finds layout b (earlier ++ later) := by
  obtain ⟨target, rfl⟩ := Nat.exists_eq_succ_of_ne_zero start_ne
  obtain ⟨depth, rest_eq⟩ := rest
  obtain ⟨depth', taken_eq⟩ := taken
  refine ⟨max depth depth' + 1, ?_⟩
  rw [walkFrom_of_decision decided, enter, if_pos gt]
  simp only [walkAt, located, follows, walkFrom_of_le (Nat.le_max_left depth depth') rest_eq,
    walkFrom_of_le (Nat.le_max_right depth depth') taken_eq]
  rfl

end Decision

/-- What is found from the entry of a contract that does not refuse payment. -/
theorem Finds.walk_eq {b : Block} {found : List Found} (finds : Finds layout b found)
    (b_mem : b ∈ layout.blocks) (accepts : refusesPayment b = false) :
    walk layout b true = { found } := by
  obtain ⟨depth, walked⟩ := finds
  have bounded := walkFrom_depthBound b_mem (Walk.ends_of_completed (by rw [walked]))
  rw [walk, accepts, bounded, walked]
  rfl

theorem accepts_of_unused {b : Block} (unused : b.uses [.callValue] = false) :
    refusesPayment b = false := by
  rw [refusesPayment, unused, Bool.and_false]

end Dispatch
end EvmFlow
