import EvmFlow.Proofs.Exploration.Independence

/-!
# What an analysis leaves alone

An analysis writes edges under its own key and marks blocks with this key, and does nothing else to
a contract.  `explore_eq_withEdges` and `settle_state_cases` say what the two parts of a run can make
of a graph, whether they complete or fail; that a run keeps to its key follows from these alone.
-/

namespace EvmFlow

/-! ## Graphs and editions that differ under one key -/

namespace Graph

/-- Two graphs differ at most in the edges under a key, and in that blocks of the second have the key
once more, as their last mark. -/
structure TouchedUnder (key : Key) (before after : Graph) : Prop where
  edgesOf_eq : ∀ other, other ≠ key → after.edgesOf other = before.edgesOf other
  marksOf_eq : ∀ block, after.marksOf block = before.marksOf block ∨
    after.marksOf block = before.marksOf block ++ [key]

theorem TouchedUnder.refl (key : Key) (graph : Graph) : graph.TouchedUnder key graph :=
  ⟨fun _ _ => rfl, fun _ => .inl rfl⟩

theorem TouchedUnder.withEdges {key : Key} {before after : Graph}
    (touched : before.TouchedUnder key after) (edges : Edges) :
    before.TouchedUnder key (after.withEdges key edges) where
  edgesOf_eq other different := by
    rw [edgesOf_withEdges_of_ne _ different.symm]
    exact touched.edgesOf_eq other different
  marksOf_eq := touched.marksOf_eq

/-- A graph whose marks are still the old ones can be marked. -/
theorem TouchedUnder.mark {key : Key} {before after : Graph}
    (touched : before.TouchedUnder key after) (marks_eq : after.marks = before.marks)
    {blocks : List Nat} (nodup : blocks.Nodup) :
    before.TouchedUnder key (after.mark key blocks) where
  edgesOf_eq := touched.edgesOf_eq
  marksOf_eq block := by
    have kept : after.marksOf block = before.marksOf block := by rw [marksOf, marks_eq, marksOf]
    rw [marksOf_mark _ key nodup, kept]
    split
    · exact .inr rfl
    · exact .inl (List.append_nil _)

end Graph

/-- Two editions differ at most in that blocks of the second have a key once more, as their last
mark. -/
structure Edition.MarkedUnder (key : Key) (before after : Edition) : Prop where
  layout_eq : after.layout = before.layout
  edges_eq : after.graph.edges = before.graph.edges
  touched : before.graph.TouchedUnder key after.graph

theorem Edition.MarkedUnder.refl (key : Key) (edition : Edition) :
    edition.MarkedUnder key edition :=
  ⟨rfl, rfl, .refl key _⟩

theorem Edition.markedUnder_mark (edition : Edition) (key : Key) {blocks : List Nat}
    (nodup : blocks.Nodup) :
    edition.MarkedUnder key { edition with graph := edition.graph.mark key blocks } :=
  ⟨rfl, rfl, (Graph.TouchedUnder.refl key _).mark rfl nodup⟩

/-! ## What a run can do -/

namespace Exploration

/-- What an exploration makes of a graph: it replaces the edges under its key. -/
theorem explore_eq_withEdges (p : Problem) (graph : Graph) (s : State) :
    ∃ found state, (explore p graph s).state = ⟨graph.withEdges p.key found, p.past, state⟩ := by
  simp only [explore]
  split <;> exact ⟨_, _, rfl⟩

/-- All that settling can do: nothing, as where it fails; or mark blocks of the contract, each once,
and replace the edges under the key; or mark blocks of an earlier edition, each once, and drop the
edges under the key. -/
theorem settle_state_cases (p : Problem) (result : Result) :
    (settle p result).state = result ∨
    ((settle p result).failure = none ∧ ∃ blocks edges, blocks.Nodup ∧
      (settle p result).state =
        { result with graph := (result.graph.mark p.key blocks).withEdges p.key edges }) ∨
    ((settle p result).failure = none ∧ ∃ age edition blocks, result.past[age]? = some edition ∧
      blocks.Nodup ∧ (settle p result).state =
        { result with
          graph := result.graph.withEdges p.key {}
          past := result.past.set age
            { edition with graph := edition.graph.mark p.key blocks } }) := by
  rw [settle]
  split
  · dsimp only
    rcases result.graph.settle_cases p.entry.block p.key with settled | settled
    · rw [settled]
      exact .inl rfl
    · rw [settled]
      exact .inr (.inl ⟨rfl, _, _, Edges.nodup_reachable _ _, rfl⟩)
  · rename_i age _
    split
    · exact .inl rfl
    · rename_i edition there
      rw [Graph.markReachable]
      dsimp only
      by_cases loose : ((edition.graph.edgesOf p.key).reachable p.entry.block).any
          (edition.graph.edgesOf p.key).isLoose
      · rw [if_pos loose]
        exact .inl rfl
      · rw [if_neg loose]
        exact .inr (.inr ⟨rfl, age, edition, _, there, Edges.nodup_reachable _ _, rfl⟩)

/-- What a run leaves alone of a graph and of earlier editions. -/
structure Result.Keeps (key : Key) (graph : Graph) (past : List Edition) (after : Result) : Prop where
  graph_touched : graph.TouchedUnder key after.graph
  past_marked : ∀ (age : Nat) (edition : Edition), past[age]? = some edition →
    ∃ now : Edition, after.past[age]? = some now ∧ edition.MarkedUnder key now

theorem keeps_withEdges (key : Key) (graph : Graph) (past : List Edition) (edges : Edges)
    (state : State) : Result.Keeps key graph past ⟨graph.withEdges key edges, past, state⟩ where
  graph_touched := (Graph.TouchedUnder.refl key graph).withEdges edges
  past_marked _ edition there := ⟨edition, there, .refl key edition⟩

/-- Settling after the edges under the key were replaced. -/
theorem settle_keeps (p : Problem) (graph : Graph) (found : Edges) (state : State) :
    let settled := settle p ⟨graph.withEdges p.key found, p.past, state⟩
    settled.state.Keeps p.key graph p.past ∧
      (settled.failure ≠ none → settled.state.graph.marks = graph.marks) := by
  intro settled
  have begun := keeps_withEdges p.key graph p.past found state
  rcases settle_state_cases p ⟨graph.withEdges p.key found, p.past, state⟩ with
    kept | ⟨completed, blocks, edges, nodup, marked⟩ |
    ⟨completed, age, edition, blocks, there, nodup, marked⟩
  · simp only [settled, kept]
    exact ⟨begun, fun _ => rfl⟩
  · refine ⟨?_, fun failed => absurd completed failed⟩
    simp only [settled, marked]
    exact ⟨(begun.graph_touched.mark rfl nodup).withEdges edges, begun.past_marked⟩
  · refine ⟨?_, fun failed => absurd completed failed⟩
    simp only [settled, marked]
    refine ⟨begun.graph_touched.withEdges {}, fun i earlier here => ?_⟩
    rw [List.getElem?_set]
    split
    · rename_i same
      subst same
      cases there.symm.trans here
      obtain ⟨inside, -⟩ := List.getElem?_eq_some_iff.1 here
      exact ⟨_, if_pos inside, edition.markedUnder_mark p.key nodup⟩
    · exact begun.past_marked i earlier here

end Exploration

open Exploration

/-- An analysis touches nothing but what belongs to its key, whether it completes or fails, from
whatever state of the contract and of the analysis it sets out.  The code, the layout and the
functions stay; the edges under other keys stay, of all blocks and at both ends; and a block has its
old marks, or these and the key once more.  The same goes for the blocks of earlier editions, whose
edges stay under every key.  A failed analysis marks no block of the contract. -/
theorem analysis_touches_own_key (contract : Contract) (analysis : Analysis) :
    let outcome := Study.run ⟨contract, analysis⟩
    let after := outcome.state.contract
    after.code = contract.code ∧ after.layout = contract.layout ∧
      after.functions = contract.functions ∧
      contract.graph.TouchedUnder analysis.key after.graph ∧
      (outcome.failure ≠ none → after.graph.marks = contract.graph.marks) ∧
      ∀ (age : Nat) (edition : Edition), analysis.past[age]? = some edition →
        ∃ now : Edition, outcome.state.analysis.past[age]? = some now ∧
          edition.MarkedUnder analysis.key now := by
  intro outcome after
  let problem := analysis.problem contract
  let ran := Exploration.run problem contract.graph analysis.state
  suffices kept : ran.state.Keeps analysis.key contract.graph analysis.past ∧
      (ran.failure ≠ none → ran.state.graph.marks = contract.graph.marks) from
    ⟨rfl, rfl, rfl, kept.1.graph_touched, kept.2, kept.1.past_marked⟩
  obtain ⟨found, state, explored⟩ := explore_eq_withEdges problem contract.graph analysis.state
  simp only [ran]
  rw [Exploration.run, Outcome.andThen, explored]
  split
  · rw [explored]
    exact ⟨keeps_withEdges _ _ _ _ _, fun _ => rfl⟩
  · exact settle_keeps problem contract.graph found state

end EvmFlow
