import EvmFlow.Proofs.Exploration.Analysis

/-!
# Why an edge is there

An edge of an exploration that began without edges leads into the block that follows, or to a
destination that some interpretation showed on top of the stack before a final jump.  The invariant
keeps a reason for every edge and for every jump not yet connected; the interpretations only become
more.
-/

namespace EvmFlow

theorem Block.not_endsInJump_of_halts {b : Block}
    (halts : b.last.isAmong [.stop, .returnData, .revert, .invalid, .selfDestruct]) :
    b.endsInJump = false ∧ b.endsInJumpi = false ∧ b.isClosed := by
  simp only [Instruction.isAmong, List.any_cons, List.any_nil, Bool.or_false, Bool.or_eq_true,
    Instruction.is, beq_iff_eq] at halts
  rcases halts with halts | halts | halts | halts | halts <;>
    simp [endsInJump, endsInJumpi, isClosed, Instruction.is, halts, Operation.isJump,
      Operation.endsBlock]

namespace Exploration

/-- An interpretation made so far shows a jump from the first block to the second. -/
def JumpShown (p : Problem) (log : List Reading) (b t : Block) : Prop :=
  ∃ reading ∈ log, reading.block = b ∧ ShowsJump (b.interpret p.tracked reading.stack) t

theorem jumpShown_append {p : Problem} {log made : List Reading} {b t : Block} :
    JumpShown p (log ++ made) b t ↔ JumpShown p log b t ∨ JumpShown p made b t := by
  simp only [JumpShown, List.mem_append, or_and_right, exists_or]

theorem JumpShown.append {p : Problem} {log : List Reading} {b t : Block}
    (shown : JumpShown p log b t) (made : List Reading) : JumpShown p (log ++ made) b t :=
  jumpShown_append.2 (.inl shown)

/-- Every edge, and every jump not yet connected, has a reason. -/
structure Grounded (p : Problem) (log : List Reading) (edges : Edges) (s : State) : Prop where
  edge : ∀ {x c}, edges.Leads x c → ∃ b ∈ p.layout.blocks, ∃ t ∈ p.layout.blocks,
    b.start = x ∧ t.start = c ∧ (b.FallsTo t ∨ JumpShown p log b t)
  fresh : ∀ {b t}, b ∈ p.layout.blocks → t ∈ p.layout.blocks → s.Fresh b.stop t.start →
    JumpShown p log b t

theorem grounded_beginning {p : Problem} (coherent : p.layout.Coherent) {graph : Graph}
    (vacant : (graph.edgesOf p.key).Vacant) (noJumpi : p.layout.endsInJumpi = false) (entry : Nat) :
    Grounded p [] (beginning p graph entry).edges (beginning p graph entry).state where
  edge := by
    intro x c leads
    rw [Edges.Leads, beginning, coherent.addSimple_eq noJumpi, Edges.mem_successors_connectAll,
      vacant.successors_eq, coherent.mem_simplePairs] at leads
    rcases leads with none | ⟨b, b_mem, t, t_mem, falls, start_eq, target_eq⟩
    · cases none
    · exact ⟨b, b_mem, t, t_mem, start_eq, target_eq, .inl falls⟩
  fresh := by
    rintro b t - - ⟨targets, member, -⟩
    cases member

theorem Grounded.append {p : Problem} {log : List Reading} {edges : Edges} {s : State}
    (grounded : Grounded p log edges s) (made : List Reading) :
    Grounded p (log ++ made) edges s where
  edge := by
    intro x c leads
    obtain ⟨b, b_mem, t, t_mem, start_eq, target_eq, reason⟩ := grounded.edge leads
    exact ⟨b, b_mem, t, t_mem, start_eq, target_eq, reason.imp_right fun shown => shown.append made⟩
  fresh b_mem t_mem fresh := (grounded.fresh b_mem t_mem fresh).append made

section Reasons

variable {p : Problem} (coherent : p.layout.Coherent) {log : List Reading} {edges : Edges}
  {s : State} (grounded : Grounded p log edges s) {b : Block} (b_mem : b ∈ p.layout.blocks)
include coherent grounded b_mem

theorem Grounded.exists_reason {c : Nat} (leads : edges.Leads b.start c) :
    ∃ t ∈ p.layout.blocks, t.start = c ∧ (b.FallsTo t ∨ JumpShown p log b t) := by
  obtain ⟨a, a_mem, t, t_mem, start_eq, target_eq, reason⟩ := grounded.edge leads
  obtain rfl := coherent.eq_of_start_eq a_mem b_mem start_eq
  exact ⟨t, t_mem, target_eq, reason⟩

/-- Neither reason for an edge applies to a block that halts. -/
theorem Grounded.not_leads_of_halts
    (halts : b.last.isAmong [.stop, .returnData, .revert, .invalid, .selfDestruct]) (c : Nat) :
    ¬ edges.Leads b.start c := by
  intro leads
  obtain ⟨noJump, noJumpi, closed⟩ := Block.not_endsInJump_of_halts halts
  obtain ⟨t, -, -, falls | ⟨reading, -, -, shows⟩⟩ := grounded.exists_reason coherent b_mem leads
  · simpa [noJumpi, closed] using falls.goesOn
  · obtain ⟨values, target, -⟩ := shows.held
    simp [endsInJump_of_target? target] at noJump

end Reasons

theorem Move.grounded {p : Problem} (coherent : p.layout.Coherent) {edges : Edges} {s : State}
    {log made : List Reading} {after : Progress} (grounded : Grounded p log edges s)
    (move : Move p edges s made after) : Grounded p (log ++ made) after.edges after.state := by
  have grounded := grounded.append made
  cases move with
  | take b_mem idle connected taken => exact ⟨grounded.edge, grounded.fresh⟩
  | leave b_mem next excluded => exact ⟨grounded.edge, grounded.fresh⟩
  | count b_mem next included exhaustion => exact ⟨grounded.edge, grounded.fresh⟩
  | @read b rest b_mem next included willing =>
      refine ⟨grounded.edge, ?_⟩
      intro a t a_mem t_mem fresh
      rcases fresh_revise _ _ _ _ _ fresh with fresh | ⟨stop_eq, c, c_mem, start_eq, shows⟩
      · exact grounded.fresh a_mem t_mem fresh
      · obtain rfl := coherent.eq_of_stop_eq a_mem b_mem (by exact_mod_cast stop_eq)
        obtain rfl := coherent.eq_of_start_eq t_mem c_mem (by exact_mod_cast start_eq)
        exact ⟨_, List.mem_append_right log List.mem_cons_self, rfl, shows⟩
  | connect idle connects =>
      constructor
      · intro x c leads
        rcases Edges.mem_successors_connectAll.1 leads with leads | pair
        · exact grounded.edge leads
        · obtain ⟨b, b_mem, t, t_mem, fresh, start_eq, target_eq⟩ := connects.mem_pairs.1 pair
          exact ⟨b, b_mem, t, t_mem, start_eq, target_eq, .inr (grounded.fresh b_mem t_mem fresh)⟩
      · rintro b t - - ⟨targets, member, -⟩
        cases member

end Exploration

open Exploration

/-- Every edge found by an analysis that began without edges is justified: control falls into the
block that follows, or an interpretation of the block had the start of the other, a jump
destination, among the values on top of the stack before the final jump.  So no edge leaves a block
that halts, and none leads into the middle of a block. -/
theorem edges_justified (contract : Contract) (code : Code)
    {d : Disassembler} (laidOut : contract.layout = .ofCode code d) (entry : Block)
    (entry_mem : entry ∈ contract.layout.blocks) (key : Key)
    (vacant : (contract.graph.edgesOf key).Vacant)
    (visitLimit : Int) (keepsAll : Bool) (schedule : Schedule)
    (completed : (Study.run ⟨contract, .fresh contract.layout key entry.start visitLimit keepsAll
      schedule⟩).failure = none) :
    let analysis := Analysis.fresh contract.layout key entry.start visitLimit keepsAll schedule
    let problem := analysis.problem contract
    let final := (Study.run ⟨contract, analysis⟩).state
    let edges := final.contract.graph.edgesOf key
    ∃ log, (∃ found, Execution problem (beginning problem contract.graph entry.start) log
        ⟨found, final.analysis.state⟩) ∧
      (∀ b ∈ contract.layout.blocks, ∀ c ∈ edges.successors b.start,
        ∃ t ∈ contract.layout.blocks, t.start = c ∧
          ((b.last.next = t.start ∧ (b.endsInJumpi ∨ b.isClosed = false)) ∨
          (b.endsInJump ∧ t.isDestination ∧ 0 < t.start ∧
            ∃ reading ∈ log, reading.block = b ∧
              ∃ values, (b.interpret problem.tracked reading.stack).target? = some (.among values) ∧
                some (t.start : Int) ∈ values))) ∧
      (∀ b ∈ contract.layout.blocks,
        b.last.isAmong [.stop, .returnData, .revert, .invalid, .selfDestruct] →
          edges.successors b.start = []) ∧
      ∀ b ∈ contract.layout.blocks, ∀ c ∈ edges.successors b.start,
        ∀ t ∈ contract.layout.blocks, ∀ i ∈ t.rest, i.address ≠ c := by
  intro analysis problem final edges
  have begins : analysis.Begins contract entry :=
    Analysis.fresh_begins laidOut entry_mem (vacant.within _) visitLimit keepsAll schedule
  have noJumpi := begins.noJumpi_of_completed completed
  obtain ⟨log, after, concludes⟩ := begins.concludes noJumpi
  have grounded := (concludes.invariant begins.coherent
    (fun log progress => Grounded problem log progress.edges progress.state)
    (grounded_beginning begins.coherent vacant noJumpi entry.start)
    fun _ grounded move => move.grounded begins.coherent grounded).2
  have edges_eq : edges = _ := concludes.edgesOf_eq
  have leads_of_mem : ∀ {a c}, c ∈ edges.successors a → after.edges.Leads a c := by
    intro a c member
    rw [edges_eq] at member
    exact Edges.leads_of_leads_restrict member
  refine ⟨log, ⟨after.edges, ?_⟩, ?_, ?_, ?_⟩
  · have state_eq : final.analysis.state = after.state := concludes.state_eq
    rw [state_eq]
    exact concludes.execution
  · intro b b_mem c member
    obtain ⟨t, t_mem, target_eq, reason⟩ :=
      grounded.exists_reason begins.coherent b_mem (leads_of_mem member)
    refine ⟨t, t_mem, target_eq, ?_⟩
    rcases reason with falls | ⟨reading, made, block_eq, shows⟩
    · exact .inl ⟨falls.adjoins.next_eq, falls.goesOn⟩
    · obtain ⟨values, target, held⟩ := shows.held
      exact .inr ⟨endsInJump_of_target? target, shows.destination, shows.start_pos, reading, made,
        block_eq, values, target, held⟩
  · intro b b_mem halts
    rw [List.eq_nil_iff_forall_not_mem]
    intro c member
    exact grounded.not_leads_of_halts begins.coherent b_mem halts c (leads_of_mem member)
  · intro b b_mem c member t t_mem i i_mem
    obtain ⟨d, d_mem, rfl, -⟩ :=
      grounded.exists_reason begins.coherent b_mem (leads_of_mem member)
    exact begins.coherent.address_ne_start t_mem d_mem i_mem

theorem loopContract_edges_justified :
    let outcome := Study.run ⟨loopContract, .fresh loopContract.layout 7 loopEntry.start 3 false⟩
    loopEntry ∈ loopContract.layout.blocks ∧ outcome.failure = none ∧
      (outcome.state.contract.graph.edgesOf 7).successors 6 = [] := by
  have entry_mem : loopEntry ∈ loopContract.layout.blocks := by decide
  have stop_mem : (⟨⟨6, .plain .stop⟩, []⟩ : Block) ∈ loopContract.layout.blocks := by decide
  have within := (vacant_loopContract 7).within loopContract.layout
  have begins := Analysis.fresh_begins rfl entry_mem within 3 false .inOrder
  obtain ⟨_, _, concludes⟩ := begins.concludes (by decide)
  obtain ⟨log, -, -, halting, -⟩ := edges_justified loopContract loopCode rfl loopEntry entry_mem 7
    (vacant_loopContract 7) 3 false .inOrder concludes.failure_eq
  exact ⟨entry_mem, concludes.failure_eq, halting _ stop_mem (by decide)⟩

end EvmFlow
