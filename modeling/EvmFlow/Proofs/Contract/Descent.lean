import Mathlib.Algebra.Group.Nat.Defs
import EvmFlow.Proofs.Contract.Depth
import EvmFlow.Proofs.Graph.Edges

/-!
# How a walk through the dispatcher recurs

A walk calls itself for the block that a split jumps to and for the block after each decision, and
keeps no account of where it has been.  `Recurs` tells such a walk call by call, without a bound on
its depth.  If every split jumps forward, every call leads to a block further on, the call for the
destination of a payment check aside; so the walk comes to an end, and its calls nest no deeper than
one more than there are blocks (`walk_ends_if_splits_forward`).
-/

namespace EvmFlow
namespace Dispatch

/-! ## Calls -/

/-- A block decides to go to an address other than zero, for a function with a key. -/
structure Decides (b : Block) (start : Nat) (key : Key) : Prop where
  decision_eq : decision b = (some start, some key)
  start_ne : start ≠ 0

/-- Where a walk is called: at a block, at an address where there may be one, or at a block as the
entry of the contract. -/
inductive Spot
  | block (b : Block)
  | address (start : Nat)
  | entry (b : Block)

/-- What a walk comes to at a spot, how many calls it makes for that, and how deep they nest.  A
block is a call; an address where there is no block is none. -/
inductive Recurs (layout : Layout) : Spot → Walk → Nat → Nat → Prop
  | missing {start : Nat} (missing : layout.blockAt? start = none) :
      Recurs layout (.address start) (.failed (.missingBlock start)) 0 0
  | located {start : Nat} {b : Block} {walk : Walk} {calls depth : Nat}
      (located : layout.blockAt? start = some b)
      (recurs : Recurs layout (.block b) walk calls depth) :
      Recurs layout (.address start) walk calls depth
  | leaf {b : Block} (undecided : ∀ start key, ¬ Decides b start key) :
      Recurs layout (.block b) {} 1 1
  | lost {b : Block} {start : Nat} {key : Key} (decides : Decides b start key)
      (noGt : b.uses [.gt] = false) (missing : layout.blockAt? start = none) :
      Recurs layout (.block b) (.failed (.missingBlock start)) 1 1
  | select {b entry : Block} {start : Nat} {key : Key} {rest : Walk} {calls depth : Nat}
      (decides : Decides b start key) (noGt : b.uses [.gt] = false)
      (located : layout.blockAt? start = some entry)
      (next : Recurs layout (.address (b.stop + 1)) rest calls depth) :
      Recurs layout (.block b)
        { rest with found := ⟨key, start, entry.start⟩ :: rest.found } (calls + 1) (depth + 1)
  | failed {b : Block} {start : Nat} {key : Key} {taken : Walk} {reason : Failure}
      {calls depth : Nat} (decides : Decides b start key) (gt : b.uses [.gt])
      (low : Recurs layout (.address start) taken calls depth)
      (failure : taken.failure = some reason) :
      Recurs layout (.block b) taken (calls + 1) (depth + 1)
  | split {b : Block} {start : Nat} {key : Key} {taken rest : Walk}
      {calls depth calls' depth' : Nat} (decides : Decides b start key) (gt : b.uses [.gt])
      (low : Recurs layout (.address start) taken calls depth) (completed : taken.failure = none)
      (next : Recurs layout (.address (b.stop + 1)) rest calls' depth') :
      Recurs layout (.block b) { rest with found := taken.found ++ rest.found }
        (calls + calls' + 1) (max depth depth' + 1)
  | accept {b : Block} {walk : Walk} {calls depth : Nat} (accepts : refusesPayment b = false)
      (recurs : Recurs layout (.block b) walk calls depth) :
      Recurs layout (.entry b) walk calls depth
  | malformed {b : Block} {reason : Failure} (refuses : refusesPayment b)
      (destination : paymentDestination b = .error reason) :
      Recurs layout (.entry b) (.failed reason) 1 1
  | refuse {b : Block} {start : Nat} {walk : Walk} {calls depth : Nat} (refuses : refusesPayment b)
      (destination : paymentDestination b = .ok start)
      (recurs : Recurs layout (.address start) walk calls depth) :
      Recurs layout (.entry b) walk (calls + 1) (depth + 1)

variable {layout : Layout} {spot : Spot} {walk : Walk} {calls depth : Nat}

theorem Decides.unique {b : Block} {start start' : Nat} {key key' : Key}
    (decides : Decides b start key) (decides' : Decides b start' key') :
    start = start' ∧ key = key' := by
  have same := decides.decision_eq.symm.trans decides'.decision_eq
  simpa using same

/-- A walk makes its calls in one way only. -/
theorem Recurs.unique (first : Recurs layout spot walk calls depth) {walk' : Walk}
    {calls' depth' : Nat} (second : Recurs layout spot walk' calls' depth') :
    walk = walk' ∧ calls = calls' ∧ depth = depth' := by
  induction first generalizing walk' calls' depth' with
  | missing missing =>
      cases second with
      | missing => exact ⟨rfl, rfl, rfl⟩
      | located located => simp [missing] at located
  | located located _ ih =>
      cases second with
      | missing missing => simp [located] at missing
      | located located' recurs =>
          rw [located, Option.some.injEq] at located'
          subst located'
          exact ih recurs
  | leaf undecided =>
      cases second with
      | leaf => exact ⟨rfl, rfl, rfl⟩
      | lost decides | select decides | failed decides | split decides =>
          exact absurd decides (undecided _ _)
  | lost decides noGt missing =>
      cases second with
      | leaf undecided => exact absurd decides (undecided _ _)
      | lost decides' =>
          obtain ⟨rfl, rfl⟩ := decides.unique decides'
          exact ⟨rfl, rfl, rfl⟩
      | select decides' _ located =>
          obtain ⟨rfl, rfl⟩ := decides.unique decides'
          simp [missing] at located
      | failed _ gt | split _ gt => simp [noGt] at gt
  | select decides noGt located _ ih =>
      cases second with
      | leaf undecided => exact absurd decides (undecided _ _)
      | lost decides' _ missing =>
          obtain ⟨rfl, rfl⟩ := decides.unique decides'
          simp [located] at missing
      | select decides' _ located' next =>
          obtain ⟨rfl, rfl⟩ := decides.unique decides'
          rw [located, Option.some.injEq] at located'
          obtain ⟨rfl, rfl, rfl⟩ := ih next
          exact ⟨by rw [located'], rfl, rfl⟩
      | failed _ gt | split _ gt => simp [noGt] at gt
  | failed decides gt _ failure ih =>
      cases second with
      | leaf undecided => exact absurd decides (undecided _ _)
      | lost _ noGt | select _ noGt => simp [noGt] at gt
      | failed decides' _ low =>
          obtain ⟨rfl, rfl⟩ := decides.unique decides'
          obtain ⟨rfl, rfl, rfl⟩ := ih low
          exact ⟨rfl, rfl, rfl⟩
      | split decides' _ low completed =>
          obtain ⟨rfl, rfl⟩ := decides.unique decides'
          obtain ⟨rfl, rfl, rfl⟩ := ih low
          simp [completed] at failure
  | split decides gt _ completed _ low_ih ih =>
      cases second with
      | leaf undecided => exact absurd decides (undecided _ _)
      | lost _ noGt | select _ noGt => simp [noGt] at gt
      | failed decides' _ low failure =>
          obtain ⟨rfl, rfl⟩ := decides.unique decides'
          obtain ⟨rfl, rfl, rfl⟩ := low_ih low
          simp [completed] at failure
      | split decides' _ low _ next =>
          obtain ⟨rfl, rfl⟩ := decides.unique decides'
          obtain ⟨rfl, rfl, rfl⟩ := low_ih low
          obtain ⟨rfl, rfl, rfl⟩ := ih next
          exact ⟨rfl, rfl, rfl⟩
  | accept accepts _ ih =>
      cases second with
      | accept _ recurs => exact ih recurs
      | malformed refuses | refuse refuses => simp [accepts] at refuses
  | malformed refuses destination =>
      cases second with
      | accept accepts => simp [accepts] at refuses
      | malformed _ destination' =>
          rw [destination, Except.error.injEq] at destination'
          exact ⟨by rw [destination'], rfl, rfl⟩
      | refuse _ destination' => simp [destination] at destination'
  | refuse refuses destination _ ih =>
      cases second with
      | accept accepts => simp [accepts] at refuses
      | malformed _ destination' => simp [destination] at destination'
      | refuse _ destination' recurs =>
          rw [destination, Except.ok.injEq] at destination'
          subst destination'
          obtain ⟨rfl, rfl, rfl⟩ := ih recurs
          exact ⟨rfl, rfl, rfl⟩

/-- A call makes at most two others. -/
theorem Recurs.calls_lt (recurs : Recurs layout spot walk calls depth) : calls < 2 ^ depth := by
  induction recurs with
  | missing => exact Nat.one_pos
  | located _ _ ih => exact ih
  | leaf => exact Nat.one_lt_two
  | lost => exact Nat.one_lt_two
  | select _ _ _ _ ih =>
      rw [Nat.pow_succ]
      omega
  | failed _ _ _ _ ih =>
      rw [Nat.pow_succ]
      omega
  | @split _ _ _ _ _ calls depth calls' depth' _ _ _ _ _ low_ih ih =>
      have low_le : 2 ^ depth ≤ 2 ^ max depth depth' :=
        Nat.pow_le_pow_right Nat.two_pos (Nat.le_max_left _ _)
      have next_le : 2 ^ depth' ≤ 2 ^ max depth depth' :=
        Nat.pow_le_pow_right Nat.two_pos (Nat.le_max_right _ _)
      rw [Nat.pow_succ]
      omega
  | accept _ _ ih => exact ih
  | malformed => exact Nat.one_lt_two
  | refuse _ _ _ ih =>
      rw [Nat.pow_succ]
      omega

theorem eq_malformed {b : Block} {reason : Failure}
    (destination : paymentDestination b = .error reason) : reason = .malformedPaymentCheck := by
  rw [paymentDestination] at destination
  split at destination
  · cases destination
    rfl
  · split at destination
    · cases destination
    · cases destination
      rfl

/-- A walk that recurs ends, and what fails is a look for a block or the payment check. -/
theorem Recurs.failure_cases (recurs : Recurs layout spot walk calls depth) :
    walk.failure = none ∨ (∃ address, walk.failure = some (.missingBlock address)) ∨
      walk.failure = some .malformedPaymentCheck := by
  induction recurs with
  | missing => exact .inr (.inl ⟨_, rfl⟩)
  | located _ _ ih => exact ih
  | leaf => exact .inl rfl
  | lost => exact .inr (.inl ⟨_, rfl⟩)
  | select _ _ _ _ ih => exact ih
  | failed _ _ _ _ ih => exact ih
  | split _ _ _ _ _ _ ih => exact ih
  | accept _ _ ih => exact ih
  | malformed _ destination => exact .inr (.inr (congrArg some (eq_malformed destination)))
  | refuse _ _ _ ih => exact ih

/-! ## The bounded walk -/

/-- The walk at a spot that goes no deeper than a bound. -/
def walkOn (layout : Layout) (depth : Nat) : Spot → Walk
  | .block b => walkFrom layout depth b
  | .address start => walkAt layout (walkFrom layout depth) start
  | .entry b =>
    if refusesPayment b then
      match paymentDestination b with
      | .error failure => .failed failure
      | .ok destination => walkAt layout (walkFrom layout depth) destination
    else walkFrom layout depth b

/-- The spot at which a walk from a block is called. -/
def Spot.ofCall (b : Block) (isEntry : Bool) : Spot := if isEntry then .entry b else .block b

theorem walk_eq_walkOn (layout : Layout) (b : Block) (isEntry : Bool) :
    Dispatch.walk layout b isEntry = walkOn layout (depthBound layout) (.ofCall b isEntry) := by
  cases isEntry <;> rfl

theorem Decides.walkFrom_eq {b : Block} {start : Nat} {key : Key} (decides : Decides b start key)
    (layout : Layout) (depth : Nat) :
    walkFrom layout (depth + 1) b =
      (enter layout (walkFrom layout depth) b start key).andThen fun _ =>
        walkAt layout (walkFrom layout depth) (b.stop + 1) := by
  obtain ⟨target, rfl⟩ := Nat.exists_eq_succ_of_ne_zero decides.start_ne
  exact walkFrom_of_decision decides.decision_eq layout depth

/-- A walk that recurs is the bounded one, if the bound lets it go as deep. -/
theorem Recurs.walkOn_eq (recurs : Recurs layout spot walk calls depth) {bound : Nat}
    (enough : depth ≤ bound) : walkOn layout bound spot = walk := by
  induction recurs generalizing bound with
  | missing missing => rw [walkOn, walkAt, missing]
  | located located _ ih =>
      rw [walkOn, walkAt, located]
      exact ih enough
  | leaf undecided =>
      obtain ⟨bound, rfl⟩ := Nat.exists_eq_succ_of_ne_zero (Nat.ne_zero_of_lt enough)
      refine walkFrom_of_undecided (fun target key decided => ?_) layout bound
      exact undecided (target + 1) key ⟨decided, Nat.succ_ne_zero target⟩
  | lost decides noGt missing =>
      obtain ⟨bound, rfl⟩ := Nat.exists_eq_succ_of_ne_zero (Nat.ne_zero_of_lt enough)
      rw [walkOn, decides.walkFrom_eq, enter, noGt, missing]
      rfl
  | select decides noGt located _ ih =>
      obtain ⟨bound, rfl⟩ := Nat.exists_eq_succ_of_ne_zero (Nat.ne_zero_of_lt enough)
      have next_eq := ih (Nat.le_of_lt_succ enough)
      rw [walkOn] at next_eq
      rw [walkOn, decides.walkFrom_eq, enter, noGt, located, next_eq]
      rfl
  | failed decides gt _ failure ih =>
      obtain ⟨bound, rfl⟩ := Nat.exists_eq_succ_of_ne_zero (Nat.ne_zero_of_lt enough)
      have low_eq := ih (Nat.le_of_lt_succ enough)
      rw [walkOn] at low_eq
      rw [walkOn, decides.walkFrom_eq, enter, if_pos gt, low_eq, Walk.andThen_of_failure failure]
  | split decides gt _ completed _ low_ih ih =>
      obtain ⟨bound, rfl⟩ := Nat.exists_eq_succ_of_ne_zero (Nat.ne_zero_of_lt enough)
      obtain ⟨low_enough, next_enough⟩ := Nat.max_le.1 (Nat.le_of_lt_succ enough)
      have low_eq := low_ih low_enough
      have next_eq := ih next_enough
      rw [walkOn] at low_eq next_eq
      rw [walkOn, decides.walkFrom_eq, enter, if_pos gt, low_eq,
        Walk.andThen_of_completed completed, next_eq]
  | accept accepts _ ih =>
      rw [walkOn, accepts]
      exact ih enough
  | malformed refuses destination => rw [walkOn, if_pos refuses, destination]
  | refuse refuses destination _ ih =>
      rw [walkOn, if_pos refuses, destination]
      exact ih (Nat.le_of_succ_le enough)

/-! ## Splits that jump forward -/

/-- Every split that jumps to a block jumps to one further on. -/
def SplitsForward (layout : Layout) : Prop :=
  ∀ b ∈ layout.blocks, b.uses [.gt] → ∀ start ∈ (decision b).1, start ≠ 0 →
    ∀ c ∈ layout.blockAt? start, b.start < c.start

instance (layout : Layout) : Decidable (SplitsForward layout) :=
  inferInstanceAs (Decidable (∀ b ∈ layout.blocks, _))

/-- How many blocks there are from a block on. -/
def rank (layout : Layout) (b : Block) : Nat :=
  (layout.blocks.filter fun c => b.start ≤ c.start).length

theorem rank_le (layout : Layout) (b : Block) : rank layout b ≤ layout.blocks.length :=
  List.length_filter_le _ _

theorem rank_pos {b : Block} (b_mem : b ∈ layout.blocks) : 0 < rank layout b :=
  List.length_pos_of_mem (List.mem_filter.2 ⟨b_mem, by simp⟩)

theorem rank_lt {b c : Block} (b_mem : b ∈ layout.blocks) (ahead : b.start < c.start) :
    rank layout c < rank layout b := by
  have sublist : (layout.blocks.filter fun d => c.start ≤ d.start).Sublist
      (layout.blocks.filter fun d => b.start ≤ d.start) := by
    refine List.monotone_filter_right _ fun d above => ?_
    simp only [decide_eq_true_eq] at above ⊢
    omega
  refine Nat.lt_of_le_of_ne sublist.length_le fun same => ?_
  have member : b ∈ layout.blocks.filter fun d => b.start ≤ d.start :=
    List.mem_filter.2 ⟨b_mem, by simp⟩
  rw [← sublist.eq_of_length same, List.mem_filter] at member
  have := of_decide_eq_true member.2
  omega

theorem Decides.endsInJumpi {b : Block} {start : Nat} {key : Key} (decides : Decides b start key) :
    b.endsInJumpi := by
  by_contra ends
  obtain ⟨target, rfl⟩ := Nat.exists_eq_succ_of_ne_zero decides.start_ne
  exact undecided_of_not_jumpi (Bool.eq_false_iff.2 ends) target key decides.decision_eq

/-- The walk from a block recurs, and goes no deeper than there are blocks from it on. -/
def Descends (layout : Layout) (b : Block) : Prop :=
  ∃ walk calls depth, Recurs layout (.block b) walk calls depth ∧ depth ≤ rank layout b

section Forward

variable {b : Block} (b_mem : b ∈ layout.blocks)
  (later : ∀ c ∈ layout.blocks, b.start < c.start → Descends layout c)
include b_mem later

/-- The walk at an address that leads forward from a block. -/
theorem exists_recurs_ahead {start : Nat}
    (ahead : ∀ c, layout.blockAt? start = some c → b.start < c.start) :
    ∃ walk calls depth,
      Recurs layout (.address start) walk calls depth ∧ depth < rank layout b := by
  cases located : layout.blockAt? start with
  | none => exact ⟨_, _, _, .missing located, rank_pos b_mem⟩
  | some c =>
      obtain ⟨walk, calls, depth, recurs, depth_le⟩ :=
        later c (Layout.mem_of_blockAt? located).1 (ahead c located)
      exact ⟨walk, calls, depth, .located located recurs,
        Nat.lt_of_le_of_lt depth_le (rank_lt b_mem (ahead c located))⟩

/-- The walk from a block, given the walks from the blocks further on. -/
theorem descends_step (coherent : layout.Coherent) (forward : SplitsForward layout) :
    Descends layout b := by
  by_cases decided : ∃ start key, Decides b start key
  · obtain ⟨start, key, decides⟩ := decided
    have follows : ∀ c, layout.blockAt? (b.stop + 1) = some c → b.start < c.start := by
      intro c next
      rw [Block.stop, ← b.next_last_of_endsInJumpi decides.endsInJumpi] at next
      exact coherent.start_lt_of_adjoins b_mem (coherent.adjoins_of_next b_mem next)
    obtain ⟨rest, calls', depth', next, next_lt⟩ := exists_recurs_ahead b_mem later follows
    cases gt : b.uses [.gt] with
    | false =>
        cases located : layout.blockAt? start with
        | none => exact ⟨_, _, _, .lost decides gt located, rank_pos b_mem⟩
        | some entry => exact ⟨_, _, _, .select decides gt located next, next_lt⟩
    | true =>
        have jumps : ∀ c, layout.blockAt? start = some c → b.start < c.start :=
          forward b b_mem gt start (by rw [decides.decision_eq]; rfl) decides.start_ne
        obtain ⟨taken, calls, depth, low, low_lt⟩ := exists_recurs_ahead b_mem later jumps
        cases failure : taken.failure with
        | some reason => exact ⟨_, _, _, .failed decides gt low failure, low_lt⟩
        | none =>
            exact ⟨_, _, _, .split decides gt low failure next, Nat.max_lt.2 ⟨low_lt, next_lt⟩⟩
  · have undecided : ∀ start key, ¬ Decides b start key := fun start key decides =>
      decided ⟨start, key, decides⟩
    exact ⟨_, _, _, .leaf undecided, rank_pos b_mem⟩

end Forward

theorem descends (coherent : layout.Coherent) (forward : SplitsForward layout) {b : Block}
    (b_mem : b ∈ layout.blocks) : Descends layout b := by
  -- On the number of blocks from the block on, which every call lowers.
  induction number : rank layout b using Nat.strongRecOn generalizing b with
  | ind number ih =>
      subst number
      refine descends_step b_mem (fun c c_mem ahead => ?_) coherent forward
      exact ih _ (rank_lt b_mem ahead) c_mem rfl

/-- A walk from a block recurs no deeper than there are blocks, or one more if it begins with a
payment check, which can jump back. -/
theorem exists_recurs (coherent : layout.Coherent) (forward : SplitsForward layout) {b : Block}
    (b_mem : b ∈ layout.blocks) (isEntry : Bool) :
    ∃ walk calls depth, Recurs layout (.ofCall b isEntry) walk calls depth ∧
      depth ≤ layout.blocks.length + 1 := by
  have from_block : ∀ c ∈ layout.blocks, ∃ walk calls depth,
      Recurs layout (.block c) walk calls depth ∧ depth ≤ layout.blocks.length := by
    intro c c_mem
    obtain ⟨walk, calls, depth, recurs, depth_le⟩ := descends coherent forward c_mem
    exact ⟨walk, calls, depth, recurs, depth_le.trans (rank_le layout c)⟩
  obtain ⟨walk, calls, depth, recurs, depth_le⟩ := from_block b b_mem
  cases isEntry with
  | false => exact ⟨walk, calls, depth, recurs, Nat.le_succ_of_le depth_le⟩
  | true =>
      cases refuses : refusesPayment b with
      | false => exact ⟨walk, calls, depth, .accept refuses recurs, Nat.le_succ_of_le depth_le⟩
      | true =>
          cases destination : paymentDestination b with
          | error reason => exact ⟨_, _, _, .malformed refuses destination, Nat.le_add_left 1 _⟩
          | ok start =>
              cases located : layout.blockAt? start with
              | none =>
                  exact ⟨_, _, _, .refuse refuses destination (.missing located),
                    Nat.succ_le_succ (Nat.zero_le _)⟩
              | some c =>
                  obtain ⟨walk, calls, depth, recurs, depth_le⟩ :=
                    from_block c (Layout.mem_of_blockAt? located).1
                  exact ⟨_, _, _, .refuse refuses destination (.located located recurs),
                    Nat.succ_le_succ depth_le⟩

end Dispatch

open Dispatch

/-- If every split jumps forward, a walk from any block, as the entry of the contract or not, ends:
it recurs in one way only, with finitely many calls that nest no deeper than one more than there are
blocks, and completes or fails at an address without a block or at a payment check without a pushed
destination.  It is the walk that lists the functions of the contract. -/
theorem walk_ends_if_splits_forward (contract : Contract) (code : Code) {d : Disassembler}
    (layout_eq : contract.layout = .ofCode code d) (forward : SplitsForward contract.layout)
    (b : Block) (b_mem : b ∈ contract.layout.blocks) (isEntry : Bool) :
    ∃ walk calls depth, Recurs contract.layout (.ofCall b isEntry) walk calls depth ∧
      (∀ walk' calls' depth', Recurs contract.layout (.ofCall b isEntry) walk' calls' depth' →
        walk' = walk ∧ calls' = calls ∧ depth' = depth) ∧
      calls < 2 ^ depth ∧ depth ≤ contract.layout.blocks.length + 1 ∧
      (walk.failure = none ∨ (∃ address, walk.failure = some (.missingBlock address)) ∨
        walk.failure = some .malformedPaymentCheck) ∧
      contract.walkDispatcher b isEntry =
        { state :=
            { contract with functions := Contract.listFound walk.found contract.functions }
          failure := walk.failure } := by
  have coherent : contract.layout.Coherent := layout_eq ▸ Layout.ofCode_coherent code d
  obtain ⟨walk, calls, depth, recurs, depth_le⟩ := exists_recurs coherent forward b_mem isEntry
  have walk_eq : Dispatch.walk contract.layout b isEntry = walk := by
    rw [walk_eq_walkOn]
    exact recurs.walkOn_eq depth_le
  refine ⟨walk, calls, depth, recurs, fun _ _ _ other => other.unique recurs, recurs.calls_lt,
    depth_le, recurs.failure_cases, ?_⟩
  have state_eq := contract.walkDispatcher_state b isEntry
  rw [walk_eq] at state_eq
  rw [← state_eq, ← walk_eq]
  rfl

/-- Code with a split, and after it a payment check that jumps back to it. -/
def returningCode : Code := [0x80, 0x60, 0x05, 0x11, 0x60, 0x07, 0x57, 0x34, 0x60, 0x00, 0x57]

/-- The payment check of this code. -/
def returningCheck : Block := ⟨⟨7, .plain .callValue⟩, [⟨8, .push 1 0⟩, ⟨10, .plain .jumpi⟩]⟩

/-- The check jumps back to the split, and both sides of the split come to the check. -/
theorem returningCode_recurs :
    Recurs (.ofCode returningCode) (.entry returningCheck) {} 4 3 := by
  have undecided : ∀ start key, ¬ Decides returningCheck start key := by
    intro start key decides
    have decision_eq : decision returningCheck = (none, none) := by decide
    cases decision_eq.symm.trans decides.decision_eq
  have leaf : Recurs (.ofCode returningCode) (.block returningCheck) {} 1 1 := .leaf undecided
  exact .refuse rfl rfl (.located rfl
    (.split ⟨rfl, by decide⟩ rfl (.located rfl leaf) rfl (.located rfl leaf)))

theorem returningCode_ends :
    let contract : Contract := { code := some returningCode, layout := .ofCode returningCode }
    SplitsForward contract.layout ∧ returningCheck ∈ contract.layout.blocks ∧
      Recurs contract.layout (.entry returningCheck) {} 4 (contract.layout.blocks.length + 1) ∧
      (contract.walkDispatcher returningCheck true).failure = none := by
  intro contract
  have forward : SplitsForward contract.layout := by decide
  have b_mem : returningCheck ∈ contract.layout.blocks := by decide
  obtain ⟨walk, calls, depth, -, unique, -, -, -, listed⟩ :=
    walk_ends_if_splits_forward contract returningCode rfl forward returningCheck b_mem true
  obtain ⟨rfl, -, -⟩ := unique _ _ _ returningCode_recurs
  exact ⟨forward, b_mem, returningCode_recurs, congrArg Outcome.failure listed⟩

end EvmFlow
