import EvmFlow.Proofs.Exploration.Coverage
import EvmFlow.Proofs.Exploration.Fixpoint
import EvmFlow.Proofs.Exploration.Justification

/-!
# What the order of an exploration decides

Which block of the agenda comes next, and in which order the targets of a jump are connected, is
left open.  A block may be interpreted on what some of its predecessors left, before the others have
been interpreted, and a jump found then is kept.  So the order can decide what is found: this
happens in `detourContract`.  It decides nothing else: two analyses that find the same destinations
in the blocks they share recover the same graph.
-/

namespace EvmFlow
namespace Exploration

/-! ## The graph recovered -/

/-- What is found is what the interpretations made so far show, and all of it becomes edges. -/
structure Faithful (p : Problem) (log : List Reading) (edges : Edges) (s : State) : Prop where
  falls : ∀ {b t}, b ∈ p.layout.blocks → t ∈ p.layout.blocks → b.FallsTo t →
    edges.Leads b.start t.start
  found_iff : ∀ {b t}, b ∈ p.layout.blocks → t ∈ p.layout.blocks →
    (s.Found b.stop t.start ↔ JumpShown p log b t)
  connected : ∀ {b t}, b ∈ p.layout.blocks → t ∈ p.layout.blocks → s.Found b.stop t.start →
    edges.Leads b.start t.start ∨ s.Fresh b.stop t.start
  explored_iff : ∀ {b}, b ∈ p.layout.blocks →
    (b.start ∈ s.explored ↔ ∃ reading ∈ log, reading.block = b)

theorem faithful_beginning {p : Problem} (coherent : p.layout.Coherent) (graph : Graph)
    (noJumpi : p.layout.endsInJumpi = false) (entry : Nat) :
    Faithful p [] (beginning p graph entry).edges (beginning p graph entry).state := by
  have nothing : ∀ {x t}, ¬ (State.initial entry).Found x t := by
    intro x t found
    rw [State.Found, State.initial, Std.TreeMap.getD_emptyc] at found
    cases found
  refine ⟨?_, ?_, ?_, ?_⟩
  · intro b t b_mem t_mem falls
    rw [Edges.Leads, beginning, coherent.addSimple_eq noJumpi, Edges.mem_successors_connectAll]
    exact .inr (coherent.mem_simplePairs.2 ⟨b, b_mem, t, t_mem, falls, rfl, rfl⟩)
  · intro b t _ _
    refine ⟨fun found => absurd found nothing, ?_⟩
    rintro ⟨reading, member, -⟩
    cases member
  · exact fun _ _ found => absurd found nothing
  · intro b _
    simp [beginning, State.initial]

theorem Faithful.read {p : Problem} (coherent : p.layout.Coherent) {log : List Reading}
    {edges : Edges} {s : State} (faithful : Faithful p log edges s) {b : Block}
    (b_mem : b ∈ p.layout.blocks) (stack : AbstractStack) (rest : List (Option Site)) :
    Faithful p (log ++ [⟨b, stack⟩]) edges
      (revise p (p.current edges) b stack ({ s with queue := rest }.count b)) := by
  refine ⟨faithful.falls, ?_, ?_, ?_⟩
  · intro a t a_mem t_mem
    rw [found_revise, jumpShown_append]
    refine or_congr (faithful.found_iff a_mem t_mem) ?_
    rw [mem_destinations_iff coherent t_mem]
    constructor
    · rintro ⟨stop_eq, shows⟩
      obtain rfl := coherent.eq_of_stop_eq a_mem b_mem (by exact_mod_cast stop_eq)
      exact ⟨_, List.mem_cons_self, rfl, shows⟩
    · rintro ⟨reading, member, rfl, shows⟩
      cases List.mem_singleton.1 member
      exact ⟨rfl, shows⟩
  · intro a t a_mem t_mem found
    rcases fresh_of_found_revise _ _ _ _ _ found with found | fresh
    · exact (faithful.connected a_mem t_mem found).imp_right (fresh_revise_of_fresh _ _ _ _ _)
    · exact .inr fresh
  · intro a a_mem
    rw [mem_explored_revise]
    simp only [List.mem_append, or_and_right, exists_or]
    refine or_congr (faithful.explored_iff a_mem) ?_
    constructor
    · intro start_eq
      exact ⟨_, List.mem_cons_self, (coherent.eq_of_start_eq a_mem b_mem start_eq).symm⟩
    · rintro ⟨reading, member, rfl⟩
      cases List.mem_singleton.1 member
      rfl

theorem Move.faithful {p : Problem} (coherent : p.layout.Coherent) {edges : Edges} {s : State}
    {log made : List Reading} {after : Progress} (faithful : Faithful p log edges s)
    (move : Move p edges s made after) : Faithful p (log ++ made) after.edges after.state := by
  cases move with
  | take b_mem idle connected taken =>
      rw [List.append_nil]
      exact ⟨faithful.falls, faithful.found_iff, faithful.connected, faithful.explored_iff⟩
  | leave b_mem next excluded =>
      rw [List.append_nil]
      exact ⟨faithful.falls, faithful.found_iff, faithful.connected, faithful.explored_iff⟩
  | count b_mem next included exhaustion =>
      rw [List.append_nil]
      exact ⟨faithful.falls, faithful.found_iff, faithful.connected, faithful.explored_iff⟩
  | read b_mem next included willing => exact faithful.read coherent b_mem _ _
  | connect idle connects =>
      rw [List.append_nil]
      refine ⟨?_, faithful.found_iff, ?_, faithful.explored_iff⟩
      · intro b t b_mem t_mem falls
        exact Edges.mem_successors_connectAll.2 (.inl (faithful.falls b_mem t_mem falls))
      · intro b t b_mem t_mem found
        left
        refine Edges.mem_successors_connectAll.2 ?_
        exact (faithful.connected b_mem t_mem found).imp_right fun fresh =>
          connects.mem_pairs.2 ⟨b, b_mem, t, t_mem, fresh, rfl, rfl⟩

/-- What is explored and what is found is what the interpretations made so far show. -/
structure Logged (p : Problem) (log : List Reading) (s : State) : Prop where
  read_iff : ∀ {b}, b ∈ p.layout.blocks →
    (b.start ∈ s.explored ↔ ∃ reading ∈ log, reading.block = b)
  found_iff : ∀ {b t}, b ∈ p.layout.blocks → t ∈ p.layout.blocks →
    (s.Found b.stop t.start ↔ JumpShown p log b t)

theorem Faithful.logged {p : Problem} {log : List Reading} {edges : Edges} {s : State}
    (faithful : Faithful p log edges s) : Logged p log s :=
  ⟨faithful.explored_iff, faithful.found_iff⟩

theorem Logged.explored_of_found {p : Problem} {log : List Reading} {s : State}
    (logged : Logged p log s) {b t : Block} (b_mem : b ∈ p.layout.blocks)
    (t_mem : t ∈ p.layout.blocks) (found : s.Found b.stop t.start) : b.start ∈ s.explored := by
  obtain ⟨reading, made, block_eq, -⟩ := (logged.found_iff b_mem t_mem).1 found
  exact (logged.read_iff b_mem).2 ⟨reading, made, block_eq⟩

/-- A block whose destinations do not depend on the stack shows the same ones in every analysis. -/
theorem Logged.found_of_stable {p p' : Problem} (layout_eq : p'.layout = p.layout)
    (tracked_eq : p'.tracked = p.tracked) (coherent : p.layout.Coherent) {log log' : List Reading}
    {s s' : State} (logged : Logged p log s) (logged' : Logged p' log' s') {b t : Block}
    (b_mem : b ∈ p.layout.blocks) (t_mem : t ∈ p.layout.blocks)
    (stable : ∀ stack, destinations p.layout (b.interpret p.tracked stack) =
      destinations p.layout (b.interpret p.tracked []))
    (explored' : b.start ∈ s'.explored) (found : s.Found b.stop t.start) :
    s'.Found b.stop t.start := by
  obtain ⟨reading, -, -, shows⟩ := (logged.found_iff b_mem t_mem).1 found
  obtain ⟨reading', made', rfl⟩ := (logged'.read_iff (layout_eq ▸ b_mem)).1 explored'
  refine (logged'.found_iff (layout_eq ▸ b_mem) (layout_eq ▸ t_mem)).2 ⟨reading', made', rfl, ?_⟩
  rw [← mem_destinations_iff coherent t_mem] at shows ⊢
  rw [tracked_eq, stable, ← stable reading.stack]
  exact shows

/-- What an analysis has recovered at its end: the edges are the falls and the jumps found, and the
blocks explored are those that can be reached along them. -/
structure Recovers (p : Problem) (entry : Nat) (log : List Reading) (edges : Edges) (s : State) :
    Prop extends Logged p log s where
  coherent : p.layout.Coherent
  dual : edges.Dual
  mem_explored_iff : ∀ {a}, a ∈ s.explored ↔ edges.Reaches entry a
  leads_iff : ∀ {x c}, edges.Leads x c ↔ ∃ b ∈ p.layout.blocks, ∃ t ∈ p.layout.blocks,
    b.start = x ∧ t.start = c ∧ (b.FallsTo t ∨ s.Found b.stop t.start)

theorem recovers_of_concludes {analysis : Analysis} {contract : Contract} {entry : Block}
    (begins : analysis.Begins contract entry) (noJumpi : contract.layout.endsInJumpi = false)
    (function : analysis.key ≠ Key.dispatcher)
    (vacant : (contract.graph.edgesOf analysis.key).Vacant) {log : List Reading} {after : Progress}
    (concludes : analysis.Concludes contract entry log after) :
    Recovers (analysis.problem contract) entry.start log after.edges after.state := by
  let problem := analysis.problem contract
  have coherent : problem.layout.Coherent := begins.coherent
  have excluded_eq : problem.excluded = [] := if_neg function
  obtain ⟨-, covering, converging, grounded, faithful⟩ := concludes.invariant coherent
    (fun log progress => Covering problem entry.start progress.edges progress.state ∧
      Converging problem progress.edges progress.state ∧
      Grounded problem log progress.edges progress.state ∧
      Faithful problem log progress.edges progress.state)
    ⟨covering_initial _ _ _, converging_beginning coherent vacant noJumpi _,
      grounded_beginning coherent vacant noJumpi _, faithful_beginning coherent _ noJumpi _⟩
    fun placed ⟨covering, converging, grounded, faithful⟩ move =>
      ⟨move.covering coherent excluded_eq placed.within covering,
        move.converging coherent excluded_eq placed.within converging,
        move.grounded coherent grounded, move.faithful coherent faithful⟩
  refine
    { coherent
      dual := converging.dual
      mem_explored_iff := covering.mem_explored_iff concludes.resting.idle concludes.agenda_eq
      toLogged := faithful.logged
      leads_iff := ?_ }
  intro x c
  constructor
  · intro leads
    obtain ⟨b, b_mem, t, t_mem, start_eq, target_eq, reason⟩ := grounded.edge leads
    exact ⟨b, b_mem, t, t_mem, start_eq, target_eq,
      reason.imp_right (faithful.found_iff b_mem t_mem).2⟩
  · rintro ⟨b, b_mem, t, t_mem, rfl, rfl, falls | found⟩
    · exact faithful.falls b_mem t_mem falls
    · rcases faithful.connected b_mem t_mem found with leads | ⟨targets, member, -⟩
      · exact leads
      · rw [concludes.resting.connected] at member
        cases member

end Exploration

/-! ## Two orders -/

/-- Two studies have recovered the same graph under a key: the same blocks, and for every block the
same blocks before and after it. -/
structure SameGraph (key : Key) (first second : Study) : Prop where
  explored : ∀ a, a ∈ first.analysis.state.explored ↔ a ∈ second.analysis.state.explored
  successors : ∀ a c, c ∈ (first.contract.graph.edgesOf key).successors a ↔
    c ∈ (second.contract.graph.edgesOf key).successors a
  predecessors : ∀ a c, a ∈ (first.contract.graph.edgesOf key).predecessors c ↔
    a ∈ (second.contract.graph.edgesOf key).predecessors c

namespace Exploration

/-- Two explorations find the same destinations in the blocks that both explore, the block that
follows aside. -/
def AgreeOnJumps (layout : Layout) (s s' : State) : Prop :=
  ∀ b ∈ layout.blocks, b.start ∈ s.explored → b.start ∈ s'.explored →
    ∀ t ∈ layout.blocks, ¬ b.FallsTo t → (s.Found b.stop t.start ↔ s'.Found b.stop t.start)

theorem AgreeOnJumps.symm {layout : Layout} {s s' : State} (agree : AgreeOnJumps layout s s') :
    AgreeOnJumps layout s' s :=
  fun b b_mem explored' explored t t_mem beyond =>
    (agree b b_mem explored explored' t t_mem beyond).symm

theorem Recovers.found_of_leads {p : Problem} {entry : Nat} {log : List Reading} {edges : Edges}
    {s : State} (recovers : Recovers p entry log edges s) {b t : Block}
    (b_mem : b ∈ p.layout.blocks) (t_mem : t ∈ p.layout.blocks) (beyond : ¬ b.FallsTo t)
    (leads : edges.Leads b.start t.start) : s.Found b.stop t.start := by
  obtain ⟨a, a_mem, c, c_mem, start_eq, target_eq, reason⟩ := recovers.leads_iff.1 leads
  obtain rfl := recovers.coherent.eq_of_start_eq a_mem b_mem start_eq
  obtain rfl := recovers.coherent.eq_of_start_eq c_mem t_mem target_eq
  exact reason.resolve_left beyond

section Orders

variable {p p' : Problem} (layout_eq : p'.layout = p.layout) {entry : Nat}
  {log log' : List Reading} {edges edges' : Edges} {s s' : State}
  (recovers : Recovers p entry log edges s) (recovers' : Recovers p' entry log' edges' s')
include layout_eq recovers recovers'

theorem Recovers.leads_of_agree_of_explored (agree : AgreeOnJumps p.layout s s') {x c : Nat}
    (explored : x ∈ s.explored) (explored' : x ∈ s'.explored) (leads : edges.Leads x c) :
    edges'.Leads x c := by
  obtain ⟨b, b_mem, t, t_mem, rfl, rfl, reason⟩ := recovers.leads_iff.1 leads
  refine recovers'.leads_iff.2 ⟨b, layout_eq ▸ b_mem, t, layout_eq ▸ t_mem, rfl, rfl, ?_⟩
  by_cases falls : b.FallsTo t
  · exact .inl falls
  · exact .inr ((agree b b_mem explored explored' t t_mem falls).1 (reason.resolve_left falls))

theorem Recovers.explored_of_agree (agree : AgreeOnJumps p.layout s s') {a : Nat}
    (explored : a ∈ s.explored) : a ∈ s'.explored := by
  have reaches := recovers.mem_explored_iff.1 explored
  clear explored
  induction reaches with
  | refl => exact recovers'.mem_explored_iff.2 .refl
  | tail before leads explored' =>
      have leads' := recovers.leads_of_agree_of_explored layout_eq recovers' agree
        (recovers.mem_explored_iff.2 before) explored' leads
      exact recovers'.mem_explored_iff.2 ((recovers'.mem_explored_iff.1 explored').tail leads')

/-- In a block that is not explored no jump is found, so that only falls lead out of it. -/
theorem Recovers.leads_of_agree (agree : AgreeOnJumps p.layout s s') {x c : Nat}
    (leads : edges.Leads x c) : edges'.Leads x c := by
  obtain ⟨b, b_mem, t, t_mem, rfl, rfl, falls | found⟩ := recovers.leads_iff.1 leads
  · exact recovers'.leads_iff.2 ⟨b, layout_eq ▸ b_mem, t, layout_eq ▸ t_mem, rfl, rfl, .inl falls⟩
  · have explored := recovers.explored_of_found b_mem t_mem found
    exact recovers.leads_of_agree_of_explored layout_eq recovers' agree explored
      (recovers.explored_of_agree layout_eq recovers' agree explored) leads

/-- A block whose destinations do not depend on the stack shows the same ones in every order. -/
theorem Recovers.found_of_stable (tracked_eq : p'.tracked = p.tracked) {b t : Block}
    (b_mem : b ∈ p.layout.blocks) (t_mem : t ∈ p.layout.blocks)
    (stable : ∀ stack, destinations p.layout (b.interpret p.tracked stack) =
      destinations p.layout (b.interpret p.tracked []))
    (explored' : b.start ∈ s'.explored) (found : s.Found b.stop t.start) :
    s'.Found b.stop t.start :=
  recovers.toLogged.found_of_stable layout_eq tracked_eq recovers.coherent recovers'.toLogged b_mem
    t_mem stable explored' found

/-- Analyses that settle on what they have recovered recover the same graph exactly if they agree on
the jumps. -/
theorem Recovers.sameGraph_iff {key : Key} {first second : Study}
    (state_eq : first.analysis.state = s) (state_eq' : second.analysis.state = s')
    (edges_eq : first.contract.graph.edgesOf key = edges.restrict (edges.reachable entry))
    (edges_eq' : second.contract.graph.edgesOf key = edges'.restrict (edges'.reachable entry)) :
    SameGraph key first second ↔ AgreeOnJumps p.layout s s' := by
  constructor
  · rintro ⟨-, successors_iff, -⟩ b b_mem explored explored' t t_mem beyond
    have leads_iff : edges.Leads b.start t.start ↔ edges'.Leads b.start t.start := by
      have same := successors_iff b.start t.start
      rw [edges_eq, edges_eq', Edges.mem_successors_restrict_reachable,
        Edges.mem_successors_restrict_reachable] at same
      have reaches := recovers.mem_explored_iff.1 explored
      have reaches' := recovers'.mem_explored_iff.1 explored'
      simpa [reaches, reaches'] using same
    constructor
    · intro found
      exact recovers'.found_of_leads (layout_eq ▸ b_mem) (layout_eq ▸ t_mem) beyond
        (leads_iff.1 (recovers.leads_iff.2 ⟨b, b_mem, t, t_mem, rfl, rfl, .inr found⟩))
    · intro found
      exact recovers.found_of_leads b_mem t_mem beyond (leads_iff.2 (recovers'.leads_iff.2
        ⟨b, layout_eq ▸ b_mem, t, layout_eq ▸ t_mem, rfl, rfl, .inr found⟩))
  · intro agree
    have agree' : AgreeOnJumps p'.layout s' s := layout_eq ▸ agree.symm
    have explored_iff : ∀ a, a ∈ s.explored ↔ a ∈ s'.explored := fun a =>
      ⟨recovers.explored_of_agree layout_eq recovers' agree,
        recovers'.explored_of_agree layout_eq.symm recovers agree'⟩
    have reaches_iff : ∀ a, edges.Reaches entry a ↔ edges'.Reaches entry a := by
      intro a
      rw [← recovers.mem_explored_iff, explored_iff, recovers'.mem_explored_iff]
    have leads_iff : ∀ a c, edges.Leads a c ↔ edges'.Leads a c := fun a c =>
      ⟨recovers.leads_of_agree layout_eq recovers' agree,
        recovers'.leads_of_agree layout_eq.symm recovers agree'⟩
    refine ⟨?_, ?_, ?_⟩
    · rw [state_eq, state_eq']
      exact explored_iff
    · intro a c
      rw [edges_eq, edges_eq', Edges.mem_successors_restrict_reachable,
        Edges.mem_successors_restrict_reachable, reaches_iff, leads_iff]
    · intro a c
      rw [edges_eq, edges_eq', Edges.mem_predecessors_restrict_reachable,
        Edges.mem_predecessors_restrict_reachable, reaches_iff, ← recovers.dual, ← recovers'.dual,
        ← Edges.Leads, ← Edges.Leads, leads_iff]

end Orders

end Exploration

open Exploration

/-- New analyses of one function that differ in their order end in the same way.  They recover the
same graph exactly if they find the same destinations in the blocks that both explore, the block
that follows aside; so they do if what these blocks show does not depend on the stack. -/
theorem order_decides_only_jumps (contract : Contract) (code : Code)
    {d : Disassembler} (laidOut : contract.layout = .ofCode code d) (entry : Block)
    (entry_mem : entry ∈ contract.layout.blocks) (key : Key) (function : key ≠ Key.dispatcher)
    (vacant : (contract.graph.edgesOf key).Vacant) (visitLimit : Int) (keepsAll : Bool)
    (order order' : Schedule) :
    let analysis := Analysis.fresh contract.layout key entry.start visitLimit keepsAll order
    let analysis' := Analysis.fresh contract.layout key entry.start visitLimit keepsAll order'
    let outcome := Study.run ⟨contract, analysis⟩
    let outcome' := Study.run ⟨contract, analysis'⟩
    let state := outcome.state.analysis.state
    let state' := outcome'.state.analysis.state
    outcome.failure = outcome'.failure ∧
      (SameGraph key outcome.state outcome'.state ↔ AgreeOnJumps contract.layout state state') ∧
      ((∀ b ∈ contract.layout.blocks, b.start ∈ state.explored → b.start ∈ state'.explored →
          ∀ stack, destinations contract.layout (b.interpret analysis.tracked stack) =
            destinations contract.layout (b.interpret analysis.tracked [])) →
        SameGraph key outcome.state outcome'.state) := by
  intro analysis analysis' outcome outcome' state state'
  have begins : analysis.Begins contract entry :=
    Analysis.fresh_begins laidOut entry_mem (vacant.within _) visitLimit keepsAll order
  have begins' : analysis'.Begins contract entry :=
    Analysis.fresh_begins laidOut entry_mem (vacant.within _) visitLimit keepsAll order'
  by_cases jumpi : contract.layout.endsInJumpi
  · obtain ⟨i, last, -, failure, state_eq⟩ := begins.run_failure jumpi
    obtain ⟨i', last', -, failure', state_eq'⟩ := begins'.run_failure jumpi
    obtain rfl : i = i' := Option.some.inj (last.symm.trans last')
    have edges_eq : outcome.state.contract.graph.edgesOf key =
        outcome'.state.contract.graph.edgesOf key :=
      (begins.edgesOf_eq_of_endsInJumpi jumpi).trans (begins'.edgesOf_eq_of_endsInJumpi jumpi).symm
    have states_eq : state = state' := state_eq.trans state_eq'.symm
    have same : SameGraph key outcome.state outcome'.state :=
      { explored := fun a => by rw [show outcome.state.analysis.state = _ from states_eq]
        successors := fun a c => by rw [edges_eq]
        predecessors := fun a c => by rw [edges_eq] }
    refine ⟨failure.trans failure'.symm, iff_of_true same ?_, fun _ => same⟩
    intro b _ _ _ t _ _
    rw [states_eq]
  · rw [Bool.not_eq_true] at jumpi
    obtain ⟨log, after, concludes⟩ := begins.concludes jumpi
    obtain ⟨log', after', concludes'⟩ := begins'.concludes jumpi
    have recovers := recovers_of_concludes begins jumpi function vacant concludes
    have recovers' := recovers_of_concludes begins' jumpi function vacant concludes'
    have layout_eq : (analysis'.problem contract).layout = (analysis.problem contract).layout := rfl
    have tracked_eq : (analysis'.problem contract).tracked = (analysis.problem contract).tracked :=
      rfl
    have state_eq : state = after.state := concludes.state_eq
    have state_eq' : state' = after'.state := concludes'.state_eq
    have same_iff : SameGraph key outcome.state outcome'.state ↔
        AgreeOnJumps contract.layout state state' := by
      rw [state_eq, state_eq']
      exact recovers.sameGraph_iff layout_eq recovers' state_eq state_eq' concludes.edgesOf_eq
        concludes'.edgesOf_eq
    refine ⟨concludes.failure_eq.trans concludes'.failure_eq.symm, same_iff, fun stable => ?_⟩
    rw [same_iff]
    intro b b_mem explored explored' t t_mem _
    have stable := stable b b_mem explored explored'
    rw [state_eq] at explored ⊢
    rw [state_eq'] at explored' ⊢
    exact ⟨recovers.found_of_stable layout_eq recovers' tracked_eq b_mem t_mem stable explored',
      recovers'.found_of_stable layout_eq.symm recovers tracked_eq.symm b_mem t_mem stable explored⟩

/-- Takes the block that was put on the agenda last. -/
def Exploration.Schedule.newestFirst : Schedule where
  pick := fun _ agenda => agenda.length - 1
  walk := fun _ _ targets => targets
  walk_perm := fun _ _ _ => List.Perm.refl _

theorem loopContract_recovered_alike :
    let outcome := Study.run ⟨loopContract, .fresh loopContract.layout 7 loopEntry.start 3 false⟩
    let outcome' := Study.run
      ⟨loopContract, .fresh loopContract.layout 7 loopEntry.start 3 false .newestFirst⟩
    loopEntry ∈ loopContract.layout.blocks ∧ SameGraph 7 outcome.state outcome'.state := by
  have entry_mem : loopEntry ∈ loopContract.layout.blocks := by decide
  refine ⟨entry_mem, (order_decides_only_jumps loopContract loopCode rfl loopEntry entry_mem 7
    (by decide) (vacant_loopContract 7) 3 false .inOrder .newestFirst).2.2 ?_⟩
  intro b b_mem _ _ stack
  have blocks_eq : loopContract.layout.blocks = [loopEntry, loopHead, ⟨⟨6, .plain .stop⟩, []⟩] := by
    decide
  rw [blocks_eq] at b_mem
  -- Only the block at 2 ends in a jump, and it pushes the destination itself.
  rcases List.mem_cons.1 b_mem with rfl | b_mem
  · rfl
  · rcases List.mem_cons.1 b_mem with rfl | b_mem
    · rfl
    · cases List.mem_singleton.1 b_mem
      rfl

/-- Code in which a block is interpreted on a stack that does not last.  The block at 24 drops an
element and jumps to what is below.  The block at 9 leaves the destination 27 on top.  The one at 19
leaves a higher stack with an unknown value on top, and so does the join of both. -/
def detourCode : Code :=
  [0x33, 0x60, 0x09, 0x57, 0x33, 0x60, 0x0f, 0x57, 0x00, 0x5b, 0x60, 0x1b, 0x60, 0x18, 0x56, 0x5b,
    0x60, 0x13, 0x56, 0x5b, 0x33, 0x60, 0x18, 0x56, 0x5b, 0x50, 0x56, 0x5b, 0x00]

/-- A contract with a detour. -/
def detourContract : Contract := { code := some detourCode, layout := .ofCode detourCode }

/-- The order decides whether the block at 27 is explored, although no block of the contract is
visited too often. -/
theorem detourContract_depends_on_order :
    let entry : Block := ⟨⟨0, .plain .caller⟩, [⟨1, .push 1 9⟩, ⟨3, .plain .jumpi⟩]⟩
    let outcome := fun order => Study.run ⟨detourContract,
      .fresh detourContract.layout 7 entry.start Analysis.defaultVisitLimit false order⟩
    entry ∈ detourContract.layout.blocks ∧ (detourContract.graph.edgesOf 7).Vacant ∧
      (∀ order, (outcome order).failure = none) ∧
      (∀ order ∈ [Schedule.inOrder, .newestFirst], ∀ b ∈ detourContract.layout.blocks,
        ((outcome order).state.analysis.state.visits.getD b.start 0 : Int) ≤
          Analysis.defaultVisitLimit) ∧
      27 ∈ (outcome .inOrder).state.analysis.state.explored ∧
      27 ∉ (outcome .newestFirst).state.analysis.state.explored ∧
      ¬ SameGraph 7 (outcome .inOrder).state (outcome .newestFirst).state := by
  intro entry outcome
  have entry_mem : entry ∈ detourContract.layout.blocks := by decide +kernel
  have vacant : (detourContract.graph.edgesOf 7).Vacant := Graph.vacant_edgesOf_empty 7
  have completed : ∀ order, (outcome order).failure = none := by
    intro order
    have begins := Analysis.fresh_begins
      (show detourContract.layout = .ofCode detourCode from rfl) entry_mem (vacant.within _)
      Analysis.defaultVisitLimit false order
    obtain ⟨_, _, concludes⟩ := begins.concludes (by decide)
    exact concludes.failure_eq
  have explored : 27 ∈ (outcome .inOrder).state.analysis.state.explored := by decide +kernel
  have missed : 27 ∉ (outcome .newestFirst).state.analysis.state.explored := by decide +kernel
  refine ⟨entry_mem, vacant, completed, ?_, explored, missed,
    fun same => missed ((same.explored 27).1 explored)⟩
  exact List.forall_mem_cons.2 ⟨by decide +kernel, List.forall_mem_singleton.2 (by decide +kernel)⟩

end EvmFlow
