import EvmFlow.Proofs.Exploration.Analysis

/-!
# What an analysis covers

The successors of an explored block are explored or still to be visited, and whatever is explored or
still to be visited can be reached from the entry.  Both hold all along an analysis that leaves no
block alone, although edges are added while it runs; the second, `Rooted`, holds in any case.  At the
end nothing is left to be visited.
-/

namespace EvmFlow

theorem Edges.Reaches.connectAll {edges : Edges} {a c : Nat} (reaches : edges.Reaches a c)
    (pairs : List (Nat × Nat)) : (edges.connectAll pairs).Reaches a c :=
  Relation.ReflTransGen.mono (fun _ _ leads => mem_successors_connectAll.2 (.inl leads)) a c reaches

theorem Edges.Within.exists_block_of_reaches {layout : Layout} {edges : Edges}
    (within : edges.Within layout) {entry : Block} (entry_mem : entry ∈ layout.blocks) {a : Nat}
    (reaches : edges.Reaches entry.start a) : ∃ b ∈ layout.blocks, b.start = a := by
  cases reaches with
  | refl => exact ⟨entry, entry_mem, rfl⟩
  | tail _ leads => exact within.exists_block leads

namespace Exploration

/-- A block is explored or still to be visited. -/
def State.Known (s : State) (a : Nat) : Prop :=
  a ∈ s.explored ∨ s.Pending a

section Known

variable {s : State} {b : Block} {rest : List (Option Site)} {a : Nat}

theorem State.known_of_pop (next : s.queue = some { block := b.start } :: rest)
    (known : ({ s with queue := rest }.count b).Known a) : s.Known a := by
  rcases known with explored | queued | scheduled
  · exact .inl explored
  · exact .inr (.inl (next ▸ List.mem_cons_of_mem _ queued))
  · exact .inr (.inr scheduled)

theorem State.Known.read (known : s.Known a)
    (next : s.queue = some { block := b.start } :: rest) (p : Problem) (g : Ground)
    (stack : AbstractStack) : (revise p g b stack ({ s with queue := rest }.count b)).Known a := by
  rcases known with explored | pending
  · exact .inl ((mem_explored_revise _ _ _ _ _).2 (.inl explored))
  · rcases pending.pop next with rfl | pending
    · exact .inl ((mem_explored_revise _ _ _ _ _).2 (.inr rfl))
    · exact .inr (pending.revise _ _ _ _)

/-- An interpretation makes known no more than its block and the successors. -/
theorem State.known_of_known_revise {p : Problem} {edges : Edges} (within : edges.Within p.layout)
    {stack : AbstractStack} (known : (revise p (p.current edges) b stack s).Known a) :
    s.Known a ∨ a = b.start ∨ edges.Leads b.start a := by
  rcases known with explored | queued | scheduled
  · rcases (mem_explored_revise _ _ _ _ _).1 explored with explored | same
    · exact .inl (.inl explored)
    · exact .inr (.inl same)
  · rcases mem_queue_revise within queued with queued | ⟨c, leads, same⟩
    · exact .inl (.inr (.inl queued))
    · cases same
      exact .inr (.inr leads)
  · rw [revise_agenda] at scheduled
    exact .inl (.inr (.inr scheduled))

end Known

section Explored

variable {p : Problem} {s : State} {b : Block}

/-- A block that is visited too often has been explored before. -/
theorem mem_explored_of_exhausted (visited : ∀ {a}, s.visits.getD a 0 ≠ 0 → a ∈ s.explored)
    (exhaustion : exhausted p (s.count b) b) : b.start ∈ s.explored := by
  apply visited
  have above := (exhausted_count_iff p s b).1 exhaustion
  rw [Problem.limit] at above
  omega

theorem mem_explored_of_visited_count (visited : ∀ {a}, s.visits.getD a 0 ≠ 0 → a ∈ s.explored)
    {rest : List (Option Site)} {a : Nat}
    (counted : ({ s with queue := rest }.count b).visits.getD a 0 ≠ 0) :
    a ∈ s.explored ∨ a = b.start := by
  by_cases same : a = b.start
  · exact .inr same
  · exact .inl (visited (by simpa [visits_count, same] using counted))

theorem mem_explored_of_exited_revise (coherent : p.layout.Coherent)
    (exited : ∀ {b}, b ∈ p.layout.blocks → s.exits.get? b.stop ≠ none → b.start ∈ s.explored)
    (b_mem : b ∈ p.layout.blocks) {g : Ground} {stack : AbstractStack}
    {rest : List (Option Site)} {a : Block} (a_mem : a ∈ p.layout.blocks)
    (left : (revise p g b stack ({ s with queue := rest }.count b)).exits.get? a.stop ≠ none) :
    a.start ∈ s.explored ∨ a.start = b.start := by
  rw [get?_exits_revise] at left
  by_cases same : a.stop = b.stop
  · exact .inr (congrArg Block.start (coherent.eq_of_stop_eq a_mem b_mem same))
  · rw [if_neg same] at left
    exact .inl (exited a_mem left)

end Explored

/-- What is known can be reached from the entry, and jumps are found only in explored blocks. -/
structure Rooted (p : Problem) (entry : Nat) (edges : Edges) (s : State) : Prop where
  reached : ∀ {a}, s.Known a → edges.Reaches entry a
  found : ∀ {b}, b ∈ p.layout.blocks → ∀ {t}, s.Fresh b.stop t → b.start ∈ s.explored

theorem rooted_initial (p : Problem) (entry : Nat) (edges : Edges) :
    Rooted p entry edges (.initial entry) where
  reached := by
    rintro a (member | queued | scheduled)
    · cases member
    · cases queued
    · cases List.mem_singleton.1 scheduled
      exact .refl
  found _ := by
    rintro t ⟨targets, member, -⟩
    cases member

section Roots

variable {p : Problem} {entry : Nat} {edges : Edges} {s : State} (rooted : Rooted p entry edges s)
include rooted

theorem Rooted.take {b : Block} {agenda : List Site} (idle : s.queue = [])
    (taken : ({ block := b.start } :: agenda).Perm s.agenda) :
    Rooted p entry edges
      { s with agenda, rounds := s.rounds + 1, queue := [some { block := b.start }] } where
  reached known :=
    rooted.reached (known.imp_right (State.pending_take idle taken _ _).1)
  found := rooted.found

/-- A visit that makes no interpretation takes a block off the queue. -/
theorem Rooted.pop {b : Block} {rest : List (Option Site)}
    (next : s.queue = some { block := b.start } :: rest) :
    Rooted p entry edges ({ s with queue := rest }.count b) where
  reached known := rooted.reached (State.known_of_pop next known)
  found := rooted.found

theorem Rooted.read (coherent : p.layout.Coherent) (within : edges.Within p.layout) {b : Block}
    (b_mem : b ∈ p.layout.blocks) {rest : List (Option Site)}
    (next : s.queue = some { block := b.start } :: rest) (stack : AbstractStack) :
    Rooted p entry edges
      (revise p (p.current edges) b stack ({ s with queue := rest }.count b)) where
  reached := by
    intro a known
    have b_reached : edges.Reaches entry b.start :=
      rooted.reached (.inr (.inl (next ▸ List.mem_cons_self)))
    rcases State.known_of_known_revise within known with known | rfl | leads
    · exact rooted.reached (State.known_of_pop next known)
    · exact b_reached
    · exact b_reached.tail leads
  found := by
    intro a a_mem t fresh
    rw [mem_explored_revise]
    rcases fresh_revise _ _ _ _ _ fresh with fresh | ⟨same, -⟩
    · exact .inl (rooted.found a_mem fresh)
    · have stop_eq : a.stop = b.stop := by exact_mod_cast same
      exact .inr (congrArg Block.start (coherent.eq_of_stop_eq a_mem b_mem stop_eq))

theorem Rooted.connect {pairs : List (Nat × Nat)} {agenda : List Site}
    (connects : Connects p s pairs agenda) :
    Rooted p entry (edges.connectAll pairs) { s with fresh := [], agenda } where
  reached := by
    rintro a (explored | queued | scheduled)
    · exact (rooted.reached (.inl explored)).connectAll pairs
    · exact (rooted.reached (.inr (.inl queued))).connectAll pairs
    · rcases connects.mem_agenda.1 scheduled with scheduled | ⟨⟨x, c⟩, pair, same⟩
      · exact (rooted.reached (.inr (.inr scheduled))).connectAll pairs
      · cases same
        obtain ⟨b, b_mem, t, -, fresh, rfl, -⟩ := connects.mem_pairs.1 pair
        have source := rooted.reached (.inl (rooted.found b_mem fresh))
        exact (source.connectAll pairs).tail (Edges.mem_successors_connectAll.2 (.inr pair))
  found := by
    rintro b - t ⟨targets, member, -⟩
    cases member

end Roots

theorem Move.rooted {p : Problem} (coherent : p.layout.Coherent) {entry : Nat} {edges : Edges}
    {s : State} {made : List Reading} {after : Progress} (within : edges.Within p.layout)
    (rooted : Rooted p entry edges s) (move : Move p edges s made after) :
    Rooted p entry after.edges after.state := by
  cases move with
  | take b_mem idle connected taken => exact rooted.take idle taken
  | leave b_mem next excluded => exact ⟨(rooted.pop next).reached, rooted.found⟩
  | count b_mem next included exhaustion => exact rooted.pop next
  | read b_mem next included willing => exact rooted.read coherent within b_mem next _
  | connect idle connects => exact rooted.connect connects

/-- What is known can be reached from the entry, and what follows an explored block is known. -/
structure Covering (p : Problem) (entry : Nat) (edges : Edges) (s : State) : Prop where
  nodup : s.explored.Nodup
  begun : s.Known entry
  reached : ∀ {a}, s.Known a → edges.Reaches entry a
  closed : ∀ {a c}, a ∈ s.explored → edges.Leads a c → s.Known c
  /-- Jumps are found only in explored blocks. -/
  found : ∀ {b}, b ∈ p.layout.blocks → ∀ {t}, s.Fresh b.stop t → b.start ∈ s.explored
  /-- Only explored blocks have left a stack. -/
  exited : ∀ {b}, b ∈ p.layout.blocks → s.exits.get? b.stop ≠ none → b.start ∈ s.explored
  visited : ∀ {a}, s.visits.getD a 0 ≠ 0 → a ∈ s.explored

theorem covering_initial (p : Problem) (entry : Nat) (edges : Edges) :
    Covering p entry edges (.initial entry) where
  nodup := List.nodup_nil
  begun := .inr (.inr (List.mem_singleton.2 rfl))
  reached := (rooted_initial p entry edges).reached
  closed member := by cases member
  found := (rooted_initial p entry edges).found
  exited _ left := absurd Std.TreeMap.getElem?_emptyc left
  visited visited := absurd Std.TreeMap.getD_emptyc visited

section Moves

variable {p : Problem} {entry : Nat} {edges : Edges} {s : State}

theorem Covering.rooted (covering : Covering p entry edges s) : Rooted p entry edges s :=
  ⟨covering.reached, covering.found⟩

/-- The queue of a round begins with a block of the agenda. -/
theorem Covering.take (covering : Covering p entry edges s) {b : Block} {agenda : List Site}
    (idle : s.queue = []) (taken : ({ block := b.start } :: agenda).Perm s.agenda) :
    Covering p entry edges
      { s with agenda, rounds := s.rounds + 1, queue := [some { block := b.start }] } := by
  have known_iff : ∀ {a}, State.Known
      { s with agenda, rounds := s.rounds + 1, queue := [some { block := b.start }] } a ↔
        s.Known a :=
    or_congr_right (State.pending_take idle taken _ _)
  exact
    { nodup := covering.nodup
      begun := known_iff.2 covering.begun
      reached := (covering.rooted.take idle taken).reached
      closed := fun member leads => known_iff.2 (covering.closed member leads)
      found := covering.found
      exited := covering.exited
      visited := covering.visited }

theorem Covering.count (covering : Covering p entry edges s) {b : Block}
    {rest : List (Option Site)} (next : s.queue = some { block := b.start } :: rest)
    (exhaustion : exhausted p (s.count b) b) :
    Covering p entry edges ({ s with queue := rest }.count b) := by
  have explored : b.start ∈ s.explored := mem_explored_of_exhausted covering.visited exhaustion
  have kept : ∀ {a}, s.Known a → ({ s with queue := rest }.count b).Known a := by
    rintro a (explored | pending)
    · exact .inl explored
    · rcases pending.pop next with rfl | pending
      · exact .inl explored
      · exact .inr pending
  exact
    { nodup := covering.nodup
      begun := kept covering.begun
      reached := (covering.rooted.pop next).reached
      closed := fun member leads => kept (covering.closed member leads)
      found := covering.found
      exited := covering.exited
      visited := fun counted =>
        (mem_explored_of_visited_count covering.visited counted).elim id (· ▸ explored) }

theorem Covering.read (covering : Covering p entry edges s) (coherent : p.layout.Coherent)
    (within : edges.Within p.layout) {b : Block} (b_mem : b ∈ p.layout.blocks)
    {rest : List (Option Site)} (next : s.queue = some { block := b.start } :: rest)
    (stack : AbstractStack) :
    Covering p entry edges
      (revise p (p.current edges) b stack ({ s with queue := rest }.count b)) := by
  have rooted := covering.rooted.read coherent within b_mem next stack
  refine
    { nodup := nodup_explored_revise _ _ _ _ _ covering.nodup
      begun := covering.begun.read next _ _ _
      reached := rooted.reached
      closed := ?_
      found := rooted.found
      exited := ?_
      visited := ?_ }
  · intro a c explored leads
    rcases (mem_explored_revise _ _ _ _ _).1 explored with explored | rfl
    · exact (covering.closed explored leads).read next _ _ _
    · -- Where the stack after the block is as before, the block was explored before.
      by_cases same : s.exits.get? b.stop = some (b.interpret p.tracked stack).exit
      · have explored := covering.exited b_mem (by rw [same]; exact Option.some_ne_none _)
        exact (covering.closed explored leads).read next _ _ _
      · exact .inr (.inl (mem_queue_revise_of_changed within same leads))
  · intro a a_mem left
    rw [mem_explored_revise]
    exact mem_explored_of_exited_revise coherent covering.exited b_mem a_mem left
  · intro a visited
    rw [revise_visits] at visited
    rw [mem_explored_revise]
    exact mem_explored_of_visited_count covering.visited visited

theorem Covering.connect (covering : Covering p entry edges s) {pairs : List (Nat × Nat)}
    {agenda : List Site} (connects : Connects p s pairs agenda) :
    Covering p entry (edges.connectAll pairs) { s with fresh := [], agenda } := by
  have kept : ∀ {a}, s.Known a → State.Known { s with fresh := [], agenda } a :=
    Or.imp_right fun pending => pending.connect connects
  have rooted := covering.rooted.connect connects
  refine
    { nodup := covering.nodup
      begun := kept covering.begun
      reached := rooted.reached
      closed := ?_
      found := rooted.found
      exited := covering.exited
      visited := covering.visited }
  intro a c explored leads
  rcases Edges.mem_successors_connectAll.1 leads with leads | pair
  · exact kept (covering.closed explored leads)
  · exact .inr (State.pending_of_mem_pairs connects pair)

end Moves

theorem Move.covering {p : Problem} (coherent : p.layout.Coherent) (excluded_eq : p.excluded = [])
    {entry : Nat} {edges : Edges} {s : State} {made : List Reading} {after : Progress}
    (within : edges.Within p.layout) (covering : Covering p entry edges s)
    (move : Move p edges s made after) : Covering p entry after.edges after.state := by
  cases move with
  | take b_mem idle connected taken => exact covering.take idle taken
  | leave b_mem next excluded => simp [excluded_eq] at excluded
  | count b_mem next included exhaustion => exact covering.count next exhaustion
  | read b_mem next included willing => exact covering.read coherent within b_mem next _
  | connect idle connects => exact covering.connect connects

/-- With nothing pending, exactly what can be reached is explored. -/
theorem Covering.mem_explored_iff {p : Problem} {entry : Nat} {edges : Edges} {s : State}
    (covering : Covering p entry edges s) (idle : s.queue = []) (done : s.agenda = []) {a : Nat} :
    a ∈ s.explored ↔ edges.Reaches entry a := by
  have explored_of_known : ∀ {c}, s.Known c → c ∈ s.explored := by
    intro c known
    simpa [State.Known, State.Pending, idle, done] using known
  constructor
  · exact fun explored => covering.reached (.inl explored)
  · intro reaches
    induction reaches with
    | refl => exact explored_of_known covering.begun
    | tail _ leads explored => exact explored_of_known (covering.closed explored leads)

end Exploration

open Exploration

/-- An analysis of a function that has come to its end has explored exactly what can be reached. -/
theorem Analysis.Concludes.mem_explored_iff {analysis : Analysis} {contract : Contract}
    {entry : Block} {log : List Reading} {after : Progress}
    (concludes : analysis.Concludes contract entry log after) (coherent : contract.layout.Coherent)
    (function : analysis.key ≠ Key.dispatcher) {a : Nat} :
    a ∈ after.state.explored ↔ after.edges.Reaches entry.start a := by
  let problem := analysis.problem contract
  have excluded_eq : problem.excluded = [] := if_neg function
  obtain ⟨-, covering⟩ := concludes.invariant coherent
    (fun _ progress => Covering problem entry.start progress.edges progress.state)
    (covering_initial _ _ _)
    fun placed covering move => move.covering coherent excluded_eq placed.within covering
  exact covering.mem_explored_iff concludes.resting.idle concludes.agenda_eq

/-- A new analysis of a function explores each block once that can be reached from the entry along
the edges in the end, and no other; these are the blocks it marks. -/
theorem explored_exactly_reachable (contract : Contract) (code : Code)
    {d : Disassembler} (laidOut : contract.layout = .ofCode code d)
    (noJumpi : contract.layout.endsInJumpi = false)
    (entry : Block) (entry_mem : entry ∈ contract.layout.blocks) (key : Key)
    (function : key ≠ Key.dispatcher)
    (within : (contract.graph.edgesOf key).Within contract.layout)
    (visitLimit : Int) (keepsAll : Bool) (schedule : Schedule) :
    let analysis := Analysis.fresh contract.layout key entry.start visitLimit keepsAll schedule
    let outcome := Study.run ⟨contract, analysis⟩
    let explored := outcome.state.analysis.state.explored
    let graph := outcome.state.contract.graph
    outcome.failure = none ∧ explored.Nodup ∧
      (∀ a ∈ explored, ∃ b ∈ contract.layout.blocks, b.start = a) ∧
      (∀ a, graph.marksOf a =
        contract.graph.marksOf a ++ if a ∈ explored then [key] else []) ∧
      ∀ a, a ∈ explored ↔ (graph.edgesOf key).Reaches entry.start a := by
  intro analysis outcome explored graph
  have begins : analysis.Begins contract entry :=
    Analysis.fresh_begins laidOut entry_mem within visitLimit keepsAll schedule
  let problem := analysis.problem contract
  have excluded_eq : problem.excluded = [] := if_neg function
  obtain ⟨log, after, concludes⟩ := begins.concludes noJumpi
  obtain ⟨placed, covering⟩ := concludes.invariant begins.coherent
    (fun _ progress => Covering problem entry.start progress.edges progress.state)
    (covering_initial _ _ _)
    fun placed covering move => move.covering begins.coherent excluded_eq placed.within covering
  have explored_eq : explored = after.state.explored := congrArg State.explored concludes.state_eq
  have mem_explored_iff : ∀ a, a ∈ explored ↔ after.edges.Reaches entry.start a := by
    intro a
    rw [explored_eq]
    exact covering.mem_explored_iff concludes.resting.idle concludes.agenda_eq
  refine ⟨concludes.failure_eq, explored_eq ▸ covering.nodup, ?_, ?_, ?_⟩
  · intro a member
    exact placed.within.exists_block_of_reaches entry_mem ((mem_explored_iff a).1 member)
  · intro a
    have reachable_iff : a ∈ after.edges.reachable entry.start ↔ a ∈ explored :=
      (after.edges.mem_reachable_iff entry.start a).trans (mem_explored_iff a).symm
    rw [← if_congr reachable_iff rfl rfl]
    exact concludes.marksOf_eq a
  · intro a
    have edges_eq : graph.edgesOf key = _ := concludes.edgesOf_eq
    rw [edges_eq, Edges.reaches_restrict_reachable]
    exact mem_explored_iff a

theorem loopContract_marks_entry :
    let outcome := Study.run ⟨loopContract, .fresh loopContract.layout 7 loopEntry.start 3 false⟩
    loopContract.layout.endsInJumpi = false ∧ loopEntry ∈ loopContract.layout.blocks ∧
      outcome.failure = none ∧ outcome.state.contract.graph.marksOf loopEntry.start = [7] := by
  intro outcome
  have noJumpi : loopContract.layout.endsInJumpi = false := by decide
  have entry_mem : loopEntry ∈ loopContract.layout.blocks := by decide
  obtain ⟨completed, -, -, marks, explored_iff⟩ :=
    explored_exactly_reachable loopContract loopCode rfl noJumpi loopEntry entry_mem 7 (by decide)
      ((vacant_loopContract 7).within _) 3 false .inOrder
  refine ⟨noJumpi, entry_mem, completed, (marks loopEntry.start).trans ?_⟩
  have unmarked : loopContract.graph.marksOf loopEntry.start = [] := Std.TreeMap.getD_emptyc
  rw [unmarked, if_pos ((explored_iff loopEntry.start).2 .refl)]
  rfl

end EvmFlow
