import EvmFlow.Exploration.Round
import EvmFlow.Proofs.Exploration.Visit
import EvmFlow.Proofs.Graph.Reachability

/-!
# Executions of an exploration

The loops of an exploration as a transition system: take a block from the agenda, visit the next
block of the queue, connect the jumps found in a round.  An execution is a sequence of transitions
with the interpretations it makes.  Executions have no bound; `explore_execution`, in the module on
termination, ties the bounded loops to them.
-/

namespace EvmFlow
namespace Exploration

/-! ## Transitions -/

/-- The interpretation that a visit at a site makes, if it makes one. -/
def readingAt? (p : Problem) (edges : Edges) (site : Site) (s : State) : Option Reading :=
  (p.ground? edges site.age).bind fun g =>
    (g.layout.blockFrom? site.block).bind fun b => reading? p g b s

/-- One transition, with the interpretations it makes. -/
inductive Transition (p : Problem) : Progress → List Reading → Progress → Prop
  /-- With nothing left to visit and to connect, a round begins with a block of the agenda. -/
  | take {edges : Edges} {s : State} {site : Site} {agenda : List Site}
      (idle : s.queue = []) (connected : s.fresh = [])
      (taken : takeNext? p.schedule s.rounds s.agenda = some (site, agenda)) :
      Transition p ⟨edges, s⟩ []
        ⟨edges, { s with agenda, rounds := s.rounds + 1, queue := [some site] }⟩
  /-- The next block of the queue is visited. -/
  | visit {edges : Edges} {s : State} {site : Site} {rest : List (Option Site)}
      (next : s.queue = some site :: rest) :
      Transition p ⟨edges, s⟩ (readingAt? p edges site { s with queue := rest }).toList
        ⟨edges, visitAt p edges site { s with queue := rest }⟩
  /-- With nothing left to visit, the jumps found in the round are connected. -/
  | connect {edges : Edges} {s : State} (idle : s.queue = []) (found : s.fresh ≠ []) :
      Transition p ⟨edges, s⟩ [] (connectFound p edges (s.rounds - 1) s).state

/-- A sequence of transitions, with the interpretations they make. -/
inductive Execution (p : Problem) (start : Progress) : List Reading → Progress → Prop
  | refl : Execution p start [] start
  | tail {log made : List Reading} {middle after : Progress}
      (before : Execution p start log middle) (last : Transition p middle made after) :
      Execution p start (log ++ made) after

namespace Execution

variable {p : Problem} {start middle after : Progress} {log more : List Reading}

theorem single (step : Transition p start log after) : Execution p start log after := by
  simpa using Execution.refl.tail step

theorem trans (first : Execution p start log middle) (second : Execution p middle more after) :
    Execution p start (log ++ more) after := by
  induction second with
  | refl => simpa using first
  | tail _ last ih =>
      rw [← List.append_assoc]
      exact ih.tail last

/-- What holds at the start and is kept by every transition holds after every execution. -/
theorem invariant (holds : List Reading → Progress → Prop) (begin : holds [] start)
    (step : ∀ {log made before after}, holds log before → Transition p before made after →
      holds (log ++ made) after)
    (execution : Execution p start log after) : holds log after := by
  induction execution with
  | refl => exact begin
  | tail _ last ih => exact step ih last

end Execution

/-! ## Taking from the agenda -/

theorem takeNext?_perm {schedule : Schedule} {round : Nat} {agenda rest : List Site} {site : Site}
    (taken : takeNext? schedule round agenda = some (site, rest)) :
    (site :: rest).Perm agenda := by
  simp only [takeNext?] at taken
  obtain ⟨found, here, pair_eq⟩ := Option.map_eq_some_iff.1 taken
  cases pair_eq
  obtain ⟨inside, rfl⟩ := List.getElem?_eq_some_iff.1 here
  exact ((List.perm_cons_erase (List.getElem_mem inside)).trans
    ((List.erase_getElem inside).cons _)).symm

theorem exists_takeNext? (schedule : Schedule) (round : Nat) {agenda : List Site}
    (nonempty : agenda ≠ []) :
    ∃ site rest, takeNext? schedule round agenda = some (site, rest) := by
  have inside : schedule.pick round agenda % agenda.length < agenda.length :=
    Nat.mod_lt _ (List.length_pos_of_ne_nil nonempty)
  simp [takeNext?, List.getElem?_eq_getElem inside]

/-! ## Connecting the jumps found -/

theorem mem_foundJumps {schedule : Schedule} {round : Nat} {s : State} {x t : Int} :
    (x, t) ∈ foundJumps schedule round s.fresh ↔ s.Fresh x t := by
  simp only [foundJumps, List.mem_flatMap, List.mem_map, Prod.mk.injEq, State.Fresh, Prod.exists,
    (schedule.walk_perm _ _ _).mem_iff]
  grind

theorem length_foundJumps (schedule : Schedule) (round : Nat) (s : State) :
    (foundJumps schedule round s.fresh).length = s.freshCount := by
  simp only [foundJumps, State.freshCount, List.length_flatMap, List.length_map,
    (schedule.walk_perm _ _ _).length_eq]

/-- The blocks at both ends of a jump, if they are there. -/
def jumpEnds? (layout : Layout) (jump : Int × Int) : Option (Nat × Nat) :=
  (layout.blockAtInt? jump.1).bind fun a =>
    (layout.blockAtInt? jump.2).map fun b => (a.start, b.start)

theorem connectJumps_eq {layout : Layout} {jumps : List (Int × Int)}
    (found : ∀ jump ∈ jumps, (jumpEnds? layout jump).isSome) (edges : Edges) :
    connectJumps layout jumps edges =
      { state := edges.connectAll (jumps.filterMap (jumpEnds? layout)) } := by
  induction jumps generalizing edges with
  | nil => rfl
  | cons jump jumps ih =>
      obtain ⟨source, target⟩ := jump
      have ih := ih fun other member => found other (List.mem_cons_of_mem _ member)
      have here := found (source, target) List.mem_cons_self
      rw [connectJumps, List.filterMap_cons]
      cases first : layout.blockAtInt? source with
      | none => simp [jumpEnds?, first] at here
      | some a =>
          cases second : layout.blockAtInt? target with
          | none => simp [jumpEnds?, first, second] at here
          | some b => simpa [jumpEnds?, first, second] using ih (edges.connect a.start b.start)

theorem mem_extendAgenda {layout : Layout} {jumps : List (Int × Int)} {agenda : List Site}
    {site : Site} :
    site ∈ extendAgenda layout jumps agenda ↔
      site ∈ agenda ∨ ∃ jump ∈ jumps, ∃ b, layout.blockAtInt? jump.2 = some b ∧
        site = { block := b.start } := by
  induction jumps generalizing agenda with
  | nil => simp [extendAgenda]
  | cons jump jumps ih =>
      obtain ⟨source, target⟩ := jump
      rw [extendAgenda, List.foldl_cons]
      cases found : layout.blockAtInt? target with
      | none =>
          refine ih.trans ?_
          simp [found]
      | some b =>
          refine ih.trans ?_
          simp only [List.contains_eq_mem, decide_eq_true_eq, List.mem_cons]
          split <;> grind

theorem length_extendAgenda_le (layout : Layout) (jumps : List (Int × Int)) (agenda : List Site) :
    (extendAgenda layout jumps agenda).length ≤ agenda.length + jumps.length := by
  induction jumps generalizing agenda with
  | nil => simp [extendAgenda]
  | cons jump jumps ih =>
      obtain ⟨source, target⟩ := jump
      rw [extendAgenda, List.foldl_cons]
      refine (ih _).trans ?_
      rw [List.length_cons]
      dsimp only
      split
      · split
        · omega
        · rw [List.length_append, List.length_singleton]
          omega
      · omega

/-! ## Explorations of the present layout -/

/-- All that is to be done concerns blocks of the present layout. -/
structure Placed (p : Problem) (progress : Progress) : Prop where
  within : progress.edges.Within p.layout
  queued : ∀ entry ∈ progress.state.queue, ∃ b ∈ p.layout.blocks, entry = some { block := b.start }
  scheduled : ∀ site ∈ progress.state.agenda, ∃ b ∈ p.layout.blocks, site = { block := b.start }
  fresh : ∀ {x t}, progress.state.Fresh x t → ∃ b ∈ p.layout.blocks, ∃ c ∈ p.layout.blocks,
    x = b.stop ∧ t = c.start ∧ b.endsInJump ∧ c.isDestination

/-- The effect of connecting the jumps found in a round: each becomes an edge, and its destination
is put on the agenda. -/
structure Connects (p : Problem) (s : State) (pairs : List (Nat × Nat)) (agenda : List Site) :
    Prop where
  mem_pairs : ∀ {x c}, (x, c) ∈ pairs ↔ ∃ b ∈ p.layout.blocks, ∃ t ∈ p.layout.blocks,
    s.Fresh b.stop t.start ∧ b.start = x ∧ t.start = c
  mem_agenda : ∀ {site}, site ∈ agenda ↔
    site ∈ s.agenda ∨ ∃ pair ∈ pairs, site = { block := pair.2 }
  length_le : agenda.length ≤ s.agenda.length + s.freshCount

section Connecting

variable {p : Problem} (coherent : p.layout.Coherent) {progress : Progress}
  (placed : Placed p progress)
include coherent placed

/-- Both ends of a jump found in a round are blocks. -/
theorem Placed.ends_of_mem_foundJumps {round : Nat} {jump : Int × Int}
    (member : jump ∈ foundJumps p.schedule round progress.state.fresh) :
    ∃ b ∈ p.layout.blocks, ∃ t ∈ p.layout.blocks, jump = ((b.stop : Int), (t.start : Int)) ∧
      p.layout.blockAtInt? jump.1 = some b ∧ p.layout.blockAtInt? jump.2 = some t := by
  obtain ⟨x, y⟩ := jump
  obtain ⟨b, b_mem, t, t_mem, rfl, rfl, jumps, -⟩ := placed.fresh (mem_foundJumps.1 member)
  refine ⟨b, b_mem, t, t_mem, rfl, ?_, ?_⟩
  · exact coherent.blockAt?_stop b_mem (Block.isClosed_of_endsInJump jumps)
  · exact coherent.blockAt?_start t_mem

theorem Placed.mem_jumpEnds (round : Nat) {x c : Nat} :
    (x, c) ∈ (foundJumps p.schedule round progress.state.fresh).filterMap (jumpEnds? p.layout) ↔
      ∃ b ∈ p.layout.blocks, ∃ t ∈ p.layout.blocks,
        progress.state.Fresh b.stop t.start ∧ b.start = x ∧ t.start = c := by
  rw [List.mem_filterMap]
  constructor
  · rintro ⟨jump, member, pair⟩
    obtain ⟨b, b_mem, t, t_mem, rfl, first, second⟩ :=
      placed.ends_of_mem_foundJumps coherent member
    simp only [jumpEnds?, first, second, Option.bind_some, Option.map_some, Option.some.injEq,
      Prod.mk.injEq] at pair
    exact ⟨b, b_mem, t, t_mem, mem_foundJumps.1 member, pair⟩
  · rintro ⟨b, b_mem, t, t_mem, fresh, rfl, rfl⟩
    have member : ((b.stop : Int), (t.start : Int)) ∈
        foundJumps p.schedule round progress.state.fresh := mem_foundJumps.2 fresh
    obtain ⟨b', b'_mem, t', t'_mem, same, first, second⟩ :=
      placed.ends_of_mem_foundJumps coherent member
    simp only [Prod.mk.injEq, Int.natCast_inj] at same
    obtain rfl := coherent.eq_of_stop_eq b_mem b'_mem same.1
    obtain rfl := coherent.eq_of_start_eq t_mem t'_mem same.2
    exact ⟨_, member, by simp [jumpEnds?, first, second]⟩

theorem Placed.connects (round : Nat) :
    let jumps := foundJumps p.schedule round progress.state.fresh
    Connects p progress.state (jumps.filterMap (jumpEnds? p.layout))
      (extendAgenda p.layout jumps progress.state.agenda) where
  mem_pairs := placed.mem_jumpEnds coherent round
  mem_agenda := by
    intro site
    rw [mem_extendAgenda]
    refine or_congr_right ⟨?_, ?_⟩
    · rintro ⟨jump, member, c, target, rfl⟩
      obtain ⟨b, b_mem, t, t_mem, rfl, first, second⟩ :=
        placed.ends_of_mem_foundJumps coherent member
      obtain rfl : t = c := by simpa [second] using target
      have pair := (placed.mem_jumpEnds coherent round).2
        ⟨b, b_mem, t, t_mem, mem_foundJumps.1 member, rfl, rfl⟩
      exact ⟨(b.start, t.start), pair, rfl⟩
    · rintro ⟨⟨x, c⟩, member, rfl⟩
      obtain ⟨b, b_mem, t, t_mem, fresh, rfl, rfl⟩ := (placed.mem_jumpEnds coherent round).1 member
      exact ⟨_, mem_foundJumps.2 fresh, t, coherent.blockAt?_start t_mem, rfl⟩
  length_le := by
    rw [← length_foundJumps p.schedule round]
    exact length_extendAgenda_le _ _ _

end Connecting

/-- Connecting the jumps found in a round succeeds. -/
theorem connectFound_eq {p : Problem} (coherent : p.layout.Coherent) {edges : Edges} {s : State}
    (placed : Placed p ⟨edges, s⟩) (round : Nat) :
    ∃ pairs agenda, Connects p s pairs agenda ∧
      connectFound p edges round s =
        { state := ⟨edges.connectAll pairs, { s with fresh := [], agenda }⟩ } := by
  refine ⟨_, _, placed.connects coherent round, ?_⟩
  have found : ∀ jump ∈ foundJumps p.schedule round s.fresh,
      (jumpEnds? p.layout jump).isSome := by
    intro jump member
    obtain ⟨b, -, t, -, -, first, second⟩ := placed.ends_of_mem_foundJumps coherent member
    simp [jumpEnds?, first, second]
  simp only [connectFound]
  rw [connectJumps_eq found]

/-- All that a transition can do in an exploration of the present layout. -/
inductive Move (p : Problem) (edges : Edges) (s : State) : List Reading → Progress → Prop
  | take {b : Block} {agenda : List Site} (b_mem : b ∈ p.layout.blocks)
      (idle : s.queue = []) (connected : s.fresh = [])
      (taken : ({ block := b.start } :: agenda).Perm s.agenda) :
      Move p edges s []
        ⟨edges, { s with agenda, rounds := s.rounds + 1, queue := [some { block := b.start }] }⟩
  /-- A block is left alone. -/
  | leave {b : Block} {rest : List (Option Site)} (b_mem : b ∈ p.layout.blocks)
      (next : s.queue = some { block := b.start } :: rest) (excluded : b.start ∈ p.excluded) :
      Move p edges s [] ⟨edges, { s with queue := rest }⟩
  /-- A visit of an exhausted block is counted. -/
  | count {b : Block} {rest : List (Option Site)} (b_mem : b ∈ p.layout.blocks)
      (next : s.queue = some { block := b.start } :: rest) (included : b.start ∉ p.excluded)
      (exhaustion : exhausted p (s.count b) b) :
      Move p edges s [] ⟨edges, { s with queue := rest }.count b⟩
  | read {b : Block} {rest : List (Option Site)} (b_mem : b ∈ p.layout.blocks)
      (next : s.queue = some { block := b.start } :: rest) (included : b.start ∉ p.excluded)
      (willing : exhausted p (s.count b) b = false) :
      Move p edges s [⟨b, entryStack p (p.current edges) s b⟩]
        ⟨edges, revise p (p.current edges) b (entryStack p (p.current edges) s b)
          ({ s with queue := rest }.count b)⟩
  | connect {pairs : List (Nat × Nat)} {agenda : List Site} (idle : s.queue = [])
      (connects : Connects p s pairs agenda) :
      Move p edges s [] ⟨edges.connectAll pairs, { s with fresh := [], agenda }⟩

section Present

variable {p : Problem} (coherent : p.layout.Coherent) {edges : Edges} {s : State}
include coherent

theorem visitAt_eq {b : Block} (b_mem : b ∈ p.layout.blocks) :
    visitAt p edges { block := b.start } s = visit p (p.current edges) b s := by
  simp only [visitAt, Problem.ground?]
  rw [show (p.current edges).layout = p.layout from rfl, coherent.blockFrom?_start b_mem]

theorem readingAt?_eq {b : Block} (b_mem : b ∈ p.layout.blocks) :
    readingAt? p edges { block := b.start } s = reading? p (p.current edges) b s := by
  simp only [readingAt?, Problem.ground?, Option.bind_some]
  rw [show (p.current edges).layout = p.layout from rfl, coherent.blockFrom?_start b_mem]
  rfl

theorem Transition.move {made : List Reading} {after : Progress}
    (placed : Placed p ⟨edges, s⟩) (step : Transition p ⟨edges, s⟩ made after) :
    Move p edges s made after := by
  cases step with
  | take idle connected taken =>
      have perm := takeNext?_perm taken
      obtain ⟨b, b_mem, rfl⟩ := placed.scheduled _ (perm.subset List.mem_cons_self)
      exact .take b_mem idle connected perm
  | visit next =>
      obtain ⟨b, b_mem, site_eq⟩ := placed.queued _ (next ▸ List.mem_cons_self)
      cases site_eq
      rw [visitAt_eq coherent b_mem, readingAt?_eq coherent b_mem]
      rcases visit_cases p (p.current edges) b { s with queue := _ } with
        ⟨excluded, reading, visited⟩ | ⟨included, exhaustion, reading, visited⟩ |
        ⟨included, willing, reading, visited⟩
      · rw [reading, visited]
        exact .leave b_mem next excluded
      · rw [reading, visited]
        exact .count b_mem next included exhaustion
      · rw [reading, visited]
        exact .read b_mem next included willing
  | connect idle found =>
      obtain ⟨pairs, agenda, connects, connected⟩ := connectFound_eq coherent placed (s.rounds - 1)
      rw [connected]
      exact .connect idle connects

end Present

/-- The queue after an interpretation: where the stack has changed, the successors are queued. -/
theorem revise_queue_current {p : Problem} {edges : Edges} (within : edges.Within p.layout)
    (b : Block) (stack : AbstractStack) (s : State) :
    (revise p (p.current edges) b stack s).queue =
      if s.exits.get? b.stop = some (b.interpret p.tracked stack).exit then s.queue
      else s.queue ++
        ((edges.successors b.start).map fun c => some ({ block := c } : Site)).reverse := by
  rw [revise_queue, show (p.current edges).edges = edges from rfl, within.ends_eq, List.map_map]
  rfl

theorem mem_queue_revise {p : Problem} {edges : Edges} (within : edges.Within p.layout)
    {b : Block} {stack : AbstractStack} {s : State} {entry : Option Site}
    (member : entry ∈ (revise p (p.current edges) b stack s).queue) :
    entry ∈ s.queue ∨ ∃ c ∈ edges.successors b.start, entry = some { block := c } := by
  rw [revise_queue_current within] at member
  split at member
  · exact .inl member
  · simp only [List.mem_append, List.mem_reverse, List.mem_map] at member
    grind

theorem mem_queue_revise_of_changed {p : Problem} {edges : Edges} (within : edges.Within p.layout)
    {b : Block} {stack : AbstractStack} {s : State} {c : Nat}
    (changed : s.exits.get? b.stop ≠ some (b.interpret p.tracked stack).exit)
    (leads : c ∈ edges.successors b.start) :
    some { block := c } ∈ (revise p (p.current edges) b stack s).queue := by
  rw [revise_queue_current within, if_neg changed]
  exact List.mem_append_right _ (List.mem_reverse.2 (List.mem_map.2 ⟨c, leads, rfl⟩))

/-! ## Blocks still to be visited -/

namespace State

/-- A block is still to be visited. -/
def Pending (s : State) (a : Nat) : Prop :=
  some { block := a } ∈ s.queue ∨ { block := a } ∈ s.agenda

theorem pending_take {s : State} {b : Block} {agenda : List Site} (idle : s.queue = [])
    (taken : ({ block := b.start } :: agenda).Perm s.agenda) (rounds a : Nat) :
    Pending { s with agenda, rounds, queue := [some { block := b.start }] } a ↔ s.Pending a := by
  simp only [Pending, idle, ← taken.mem_iff, List.mem_cons]
  simp

/-- A visit leaves nothing pending behind but the block itself. -/
theorem Pending.pop {s : State} {b : Block} {rest : List (Option Site)} {a : Nat}
    (pending : s.Pending a) (next : s.queue = some { block := b.start } :: rest) :
    a = b.start ∨ Pending ({ s with queue := rest }.count b) a := by
  rcases pending with queued | scheduled
  · rw [next, List.mem_cons] at queued
    rcases queued with same | queued
    · cases same
      exact .inl rfl
    · exact .inr (.inl queued)
  · exact .inr (.inr scheduled)

theorem Pending.revise {s : State} {a : Nat} (pending : s.Pending a) (p : Problem) (g : Ground)
    (b : Block) (stack : AbstractStack) : Pending (revise p g b stack s) a := by
  rcases pending with queued | scheduled
  · left
    rw [revise_queue]
    split
    · exact queued
    · exact List.mem_append_left _ queued
  · right
    rwa [revise_agenda]

theorem Pending.connect {p : Problem} {s : State} {pairs : List (Nat × Nat)} {agenda : List Site}
    {a : Nat} (pending : s.Pending a) (connects : Connects p s pairs agenda) :
    Pending { s with fresh := [], agenda } a :=
  pending.imp_right fun scheduled => connects.mem_agenda.2 (.inl scheduled)

theorem pending_of_mem_pairs {p : Problem} {s : State} {pairs : List (Nat × Nat)}
    {agenda : List Site} {x c : Nat} (connects : Connects p s pairs agenda)
    (pair : (x, c) ∈ pairs) : Pending { s with fresh := [], agenda } c :=
  .inr (connects.mem_agenda.2 (.inr ⟨(x, c), pair, rfl⟩))

end State

/-! ## Invariants -/

/-- Every move keeps to the blocks of the layout. -/
theorem Move.placed {p : Problem} {edges : Edges} {s : State} {made : List Reading}
    {after : Progress} (placed : Placed p ⟨edges, s⟩) (move : Move p edges s made after) :
    Placed p after := by
  cases move with
  | @take b agenda b_mem idle connected taken =>
      refine ⟨placed.within, ?_, ?_, placed.fresh⟩
      · intro entry member
        exact ⟨b, b_mem, List.mem_singleton.1 member⟩
      · intro site member
        exact placed.scheduled site (taken.subset (List.mem_cons_of_mem _ member))
  | leave b_mem next excluded =>
      refine ⟨placed.within, fun entry member => ?_, placed.scheduled, placed.fresh⟩
      exact placed.queued entry (next ▸ List.mem_cons_of_mem _ member)
  | count b_mem next included exhaustion =>
      refine ⟨placed.within, fun entry member => ?_, placed.scheduled, placed.fresh⟩
      exact placed.queued entry (next ▸ List.mem_cons_of_mem _ member)
  | @read b rest b_mem next included willing =>
      refine ⟨placed.within, ?_, ?_, ?_⟩
      · intro entry member
        rcases mem_queue_revise placed.within member with member | ⟨c, c_mem, rfl⟩
        · exact placed.queued entry (next ▸ List.mem_cons_of_mem _ member)
        · obtain ⟨t, t_mem, rfl⟩ := placed.within.exists_block c_mem
          exact ⟨t, t_mem, rfl⟩
      · intro site member
        rw [revise_agenda] at member
        exact placed.scheduled site member
      · intro x t fresh
        rcases fresh_revise _ _ _ _ _ fresh with fresh | ⟨rfl, c, c_mem, rfl, shows⟩
        · exact placed.fresh fresh
        · obtain ⟨values, target, -⟩ := shows.held
          exact ⟨b, b_mem, c, c_mem, rfl, rfl, endsInJump_of_target? target, shows.destination⟩
  | connect idle connects =>
      refine ⟨placed.within.connectAll ?_, ?_, ?_, ?_⟩
      · rintro ⟨x, c⟩ member
        obtain ⟨b, -, t, t_mem, -, -, target_eq⟩ := connects.mem_pairs.1 member
        exact ⟨t, t_mem, target_eq⟩
      · exact placed.queued
      · intro site member
        rcases connects.mem_agenda.1 member with known | ⟨⟨x, c⟩, pair, rfl⟩
        · exact placed.scheduled site known
        · obtain ⟨b, -, t, t_mem, -, -, rfl⟩ := connects.mem_pairs.1 pair
          exact ⟨t, t_mem, rfl⟩
      · rintro x t ⟨targets, member, -⟩
        cases member

/-- An invariant of the moves holds after every execution from a placed start. -/
theorem Execution.invariant_of_move {p : Problem} (coherent : p.layout.Coherent)
    (holds : List Reading → Progress → Prop) {start after : Progress} {log : List Reading}
    (placed : Placed p start) (begin : holds [] start)
    (step : ∀ {log edges s made after}, Placed p ⟨edges, s⟩ → holds log ⟨edges, s⟩ →
      Move p edges s made after → holds (log ++ made) after)
    (execution : Execution p start log after) : Placed p after ∧ holds log after := by
  refine execution.invariant (fun log progress => Placed p progress ∧ holds log progress)
    ⟨placed, begin⟩ ?_
  rintro log made ⟨edges, s⟩ after ⟨placed, held⟩ transition
  have move := transition.move coherent placed
  exact ⟨move.placed placed, step placed held move⟩

theorem Execution.placed {p : Problem} (coherent : p.layout.Coherent) {start after : Progress}
    {log : List Reading} (execution : Execution p start log after) (placed : Placed p start) :
    Placed p after :=
  (execution.invariant_of_move coherent (fun _ _ => True) placed trivial fun _ _ _ => trivial).1

end Exploration
end EvmFlow
