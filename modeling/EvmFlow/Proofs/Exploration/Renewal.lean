import EvmFlow.Proofs.Exploration.Order

/-!
# Analyses that begin with edges

An analysis may find edges under its key when it begins, left by an earlier one.  It drops none of
them while it explores, so it explores again whatever could be reached along them.  Any other block
it comes to by a fall, or by a jump that it finds itself; the stacks may differ from those of the
earlier analysis, and so may the jumps.
-/

namespace EvmFlow
namespace Exploration

/-- Edges are those of before, the falls, and jumps that were found. -/
structure Renewing (p : Problem) (old edges : Edges) (s : State) : Prop where
  kept : ∀ {x c}, old.Leads x c → edges.Leads x c
  found : ∀ {x t}, s.Fresh x t → s.Found x t
  edge : ∀ {x c}, edges.Leads x c → old.Leads x c ∨
    ∃ b ∈ p.layout.blocks, ∃ t ∈ p.layout.blocks,
      b.start = x ∧ t.start = c ∧ (b.FallsTo t ∨ s.Found b.stop t.start)

theorem renewing_beginning {p : Problem} (coherent : p.layout.Coherent) (graph : Graph)
    (noJumpi : p.layout.endsInJumpi = false) (entry : Nat) :
    Renewing p (graph.edgesOf p.key) (beginning p graph entry).edges
      (beginning p graph entry).state := by
  have leads_iff : ∀ {x c}, (beginning p graph entry).edges.Leads x c ↔
      (graph.edgesOf p.key).Leads x c ∨ ∃ b ∈ p.layout.blocks, ∃ t ∈ p.layout.blocks,
        b.FallsTo t ∧ b.start = x ∧ t.start = c := by
    intro x c
    rw [Edges.Leads, beginning, coherent.addSimple_eq noJumpi, Edges.mem_successors_connectAll,
      coherent.mem_simplePairs]
    rfl
  refine ⟨fun leads => leads_iff.2 (.inl leads), ?_, ?_⟩
  · rintro x t ⟨targets, member, -⟩
    cases member
  · intro x c leads
    refine (leads_iff.1 leads).imp_right ?_
    rintro ⟨b, b_mem, t, t_mem, falls, start_eq, target_eq⟩
    exact ⟨b, b_mem, t, t_mem, start_eq, target_eq, .inl falls⟩

section Moves

variable {p : Problem} {old edges : Edges} {s : State} (renewing : Renewing p old edges s)
include renewing

theorem Renewing.read (coherent : p.layout.Coherent) (b : Block) (stack : AbstractStack)
    (rest : List (Option Site)) :
    Renewing p old edges
      (revise p (p.current edges) b stack ({ s with queue := rest }.count b)) where
  kept := renewing.kept
  found := by
    intro x t fresh
    refine (found_revise _ _ _ _ _).2 ?_
    rcases fresh_revise _ _ _ _ _ fresh with fresh | ⟨stop_eq, c, c_mem, rfl, shows⟩
    · exact .inl (renewing.found fresh)
    · exact .inr ⟨stop_eq, (mem_destinations_iff coherent c_mem).2 shows⟩
  edge := by
    intro x c leads
    refine (renewing.edge leads).imp_right ?_
    rintro ⟨b, b_mem, t, t_mem, start_eq, target_eq, reason⟩
    exact ⟨b, b_mem, t, t_mem, start_eq, target_eq,
      reason.imp_right fun found => (found_revise _ _ _ _ _).2 (.inl found)⟩

theorem Renewing.connect {pairs : List (Nat × Nat)} {agenda : List Site}
    (connects : Connects p s pairs agenda) :
    Renewing p old (edges.connectAll pairs) { s with fresh := [], agenda } where
  kept leads := Edges.mem_successors_connectAll.2 (.inl (renewing.kept leads))
  found := by
    rintro x t ⟨targets, member, -⟩
    cases member
  edge := by
    intro x c leads
    rcases Edges.mem_successors_connectAll.1 leads with leads | pair
    · exact renewing.edge leads
    · obtain ⟨b, b_mem, t, t_mem, fresh, start_eq, target_eq⟩ := connects.mem_pairs.1 pair
      exact .inr ⟨b, b_mem, t, t_mem, start_eq, target_eq, .inr (renewing.found fresh)⟩

end Moves

theorem Move.renewing {p : Problem} (coherent : p.layout.Coherent) {old edges : Edges} {s : State}
    {made : List Reading} {after : Progress} (renewing : Renewing p old edges s)
    (move : Move p edges s made after) : Renewing p old after.edges after.state := by
  cases move with
  | take b_mem idle connected taken => exact ⟨renewing.kept, renewing.found, renewing.edge⟩
  | leave b_mem next excluded => exact ⟨renewing.kept, renewing.found, renewing.edge⟩
  | count b_mem next included exhaustion => exact ⟨renewing.kept, renewing.found, renewing.edge⟩
  | read b_mem next included willing => exact renewing.read coherent _ _ _
  | connect idle connects => exact renewing.connect connects

/-- What an analysis that began with edges ends with. -/
structure Renews (p : Problem) (old : Edges) (entry : Nat) (log : List Reading) (edges : Edges)
    (s : State) : Prop extends Logged p log s where
  mem_explored_iff : ∀ {a}, a ∈ s.explored ↔ edges.Reaches entry a
  leads_iff : ∀ {x c}, edges.Leads x c ↔ old.Leads x c ∨
    ∃ b ∈ p.layout.blocks, ∃ t ∈ p.layout.blocks,
      b.start = x ∧ t.start = c ∧ (b.FallsTo t ∨ s.Found b.stop t.start)

theorem renews_of_concludes {analysis : Analysis} {contract : Contract} {entry : Block}
    (begins : analysis.Begins contract entry) (noJumpi : contract.layout.endsInJumpi = false)
    (function : analysis.key ≠ Key.dispatcher) {log : List Reading} {after : Progress}
    (concludes : analysis.Concludes contract entry log after) :
    Renews (analysis.problem contract) (contract.graph.edgesOf analysis.key) entry.start log
      after.edges after.state := by
  let problem := analysis.problem contract
  have coherent : problem.layout.Coherent := begins.coherent
  obtain ⟨-, faithful, renewing⟩ := concludes.invariant coherent
    (fun log progress => Faithful problem log progress.edges progress.state ∧
      Renewing problem (contract.graph.edgesOf analysis.key) progress.edges progress.state)
    ⟨faithful_beginning coherent _ noJumpi _, renewing_beginning coherent _ noJumpi _⟩
    fun _ ⟨faithful, renewing⟩ move =>
      ⟨move.faithful coherent faithful, move.renewing coherent renewing⟩
  refine
    { toLogged := faithful.logged
      mem_explored_iff := concludes.mem_explored_iff coherent function
      leads_iff := ⟨renewing.edge, ?_⟩ }
  rintro (leads | ⟨b, b_mem, t, t_mem, rfl, rfl, falls | found⟩)
  · exact renewing.kept leads
  · exact faithful.falls b_mem t_mem falls
  · rcases faithful.connected b_mem t_mem found with leads | ⟨targets, member, -⟩
    · exact leads
    · rw [concludes.resting.connected] at member
      cases member

section Blocks

variable {p : Problem} {old : Edges} {entry : Nat} {log : List Reading} {edges : Edges} {s : State}
  (renews : Renews p old entry log edges s)
include renews

/-- What could be reached before is explored again. -/
theorem Renews.explored_of_reaches {a : Nat} (reaches : old.Reaches entry a) : a ∈ s.explored :=
  renews.mem_explored_iff.2
    (Relation.ReflTransGen.mono (fun _ _ leads => renews.leads_iff.2 (.inl leads)) _ _ reaches)

/-- The block into which control falls is explored, and so are the destinations found. -/
theorem Renews.explored_of_reason {b t : Block} (b_mem : b ∈ p.layout.blocks)
    (t_mem : t ∈ p.layout.blocks) (explored : b.start ∈ s.explored)
    (reason : b.FallsTo t ∨ s.Found b.stop t.start) : t.start ∈ s.explored := by
  have leads := renews.leads_iff.2 (.inr ⟨b, b_mem, t, t_mem, rfl, rfl, reason⟩)
  exact renews.mem_explored_iff.2 ((renews.mem_explored_iff.1 explored).tail leads)

/-- Nothing is explored beyond what could be reached before, unless control falls out of it or a
jump is found that leads out of it. -/
theorem Renews.reaches_of_explored
    (closed : ∀ b ∈ p.layout.blocks, old.Reaches entry b.start → ∀ t ∈ p.layout.blocks,
      b.FallsTo t ∨ s.Found b.stop t.start → old.Reaches entry t.start) {a : Nat}
    (explored : a ∈ s.explored) : old.Reaches entry a := by
  have reaches := renews.mem_explored_iff.1 explored
  clear explored
  -- Along the path from the entry, every step stays within what could be reached before.
  induction reaches with
  | refl => exact .refl
  | tail _ leads reaches =>
      rcases renews.leads_iff.1 leads with leads | ⟨b, b_mem, t, t_mem, rfl, rfl, reason⟩
      · exact reaches.tail leads
      · exact closed b b_mem reaches t t_mem reason

end Blocks

/-- No jump that was found leads from some blocks to another one. -/
def Confined (layout : Layout) (blocks : List Nat) (s : State) : Prop :=
  ∀ b ∈ layout.blocks, b.start ∈ blocks → ∀ t ∈ layout.blocks,
    s.Found b.stop t.start → t.start ∈ blocks

/-- The destinations that some blocks show do not depend on the stack. -/
def Steady (layout : Layout) (blocks : List Nat) (tracked : ValueSet) : Prop :=
  ∀ b ∈ layout.blocks, b.start ∈ blocks → ∀ stack,
    destinations layout (b.interpret tracked stack) = destinations layout (b.interpret tracked [])

section Again

variable {p p' : Problem} (layout_eq : p'.layout = p.layout) {entry : Nat} {old old' : Edges}
  {log log' : List Reading} {edges edges' : Edges} {s s' : State}
  (first : Renews p old entry log edges s) (second : Renews p' old' entry log' edges' s')
include layout_eq first second

/-- An analysis that begins with the edges left by an earlier one explores the same blocks exactly
if it finds no jump out of them. -/
theorem Renews.same_explored_iff (left : ∀ a, a ∈ s.explored ↔ old'.Reaches entry a) :
    (∀ a, a ∈ s'.explored ↔ a ∈ s.explored) ↔ Confined p.layout s.explored s' := by
  constructor
  · intro same b b_mem explored t t_mem found
    rw [← same] at explored ⊢
    exact second.explored_of_reason (layout_eq ▸ b_mem) (layout_eq ▸ t_mem) explored (.inr found)
  · intro confined a
    rw [left]
    refine ⟨fun explored => second.reaches_of_explored ?_ explored, second.explored_of_reaches⟩
    rw [layout_eq]
    intro b b_mem reaches t t_mem reason
    rw [← left] at reaches ⊢
    rcases reason with falls | found
    · exact first.explored_of_reason b_mem t_mem reaches (.inl falls)
    · exact confined b b_mem reaches t t_mem found

/-- What a steady block shows was found by the earlier analysis already. -/
theorem Renews.confined_of_steady (tracked_eq : p'.tracked = p.tracked)
    (coherent : p.layout.Coherent) (steady : Steady p.layout s.explored p.tracked) :
    Confined p.layout s.explored s' := by
  intro b b_mem explored t t_mem found
  have stable := steady b b_mem explored
  have found_before : s.Found b.stop t.start := by
    rw [← layout_eq] at coherent b_mem t_mem
    rw [← layout_eq, ← tracked_eq] at stable
    exact second.toLogged.found_of_stable layout_eq.symm tracked_eq.symm coherent first.toLogged
      b_mem t_mem stable explored found
  exact first.explored_of_reason b_mem t_mem explored (.inr found_before)

end Again

end Exploration
end EvmFlow
