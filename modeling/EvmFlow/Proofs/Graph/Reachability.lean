import Mathlib.Logic.Relation
import EvmFlow.Graph.Graph
import EvmFlow.Proofs.Graph.Edges

/-!
# Reachability

The search along edges meets exactly the blocks that can be reached, each once, and its bound is
never what ends it.  Settling a graph marks these blocks and drops the entries of all others.
-/

namespace EvmFlow

/-! ## Lists without repeats -/

theorem eraseDups_sublist {α : Type} [BEq α] (l : List α) : l.eraseDups.Sublist l := by
  induction length_eq : l.length using Nat.strongRecOn generalizing l with
  | ind n ih =>
      cases l with
      | nil => exact .slnil
      | cons a as =>
          rw [List.eraseDups_cons]
          have shorter : (as.filter fun b => !b == a).length < n := by
            rw [← length_eq, List.length_cons]
            exact Nat.lt_succ_of_le (List.length_filter_le _ _)
          exact ((ih _ shorter _ rfl).trans List.filter_sublist).cons_cons a

theorem nodup_eraseDups {α : Type} [BEq α] [LawfulBEq α] (l : List α) : l.eraseDups.Nodup := by
  induction length_eq : l.length using Nat.strongRecOn generalizing l with
  | ind n ih =>
      cases l with
      | nil => exact .nil
      | cons a as =>
          rw [List.eraseDups_cons]
          have shorter : (as.filter fun b => !b == a).length < n := by
            rw [← length_eq, List.length_cons]
            exact Nat.lt_succ_of_le (List.length_filter_le _ _)
          refine List.nodup_cons.2 ⟨fun repeated => ?_, ih _ shorter _ rfl⟩
          simp [List.mem_eraseDups] at repeated

namespace Edges

/-- An edge leads from one block to the other. -/
def Leads (edges : Edges) (a c : Nat) : Prop := c ∈ edges.successors a

/-- A walk along edges leads from one block to the other. -/
def Reaches (edges : Edges) : Nat → Nat → Prop := Relation.ReflTransGen edges.Leads

/-! ## The search -/

theorem mem_meet_of_mem (edges : Edges) (fuel : Nat) (met pending : List Nat) {x : Nat}
    (member : x ∈ met) : x ∈ edges.meet fuel met pending := by
  fun_induction meet edges fuel met pending with
  | case1 met pending => exact member
  | case2 fuel met => exact member
  | case3 fuel met block pending new ih => exact ih (List.mem_append_left new member)

theorem exists_reaches_of_mem_meet (edges : Edges) (fuel : Nat) (met pending : List Nat)
    (known : pending ⊆ met) {x : Nat} (member : x ∈ edges.meet fuel met pending) :
    ∃ b ∈ met, edges.Reaches b x := by
  fun_induction meet edges fuel met pending with
  | case1 met pending => exact ⟨x, member, .refl⟩
  | case2 fuel met => exact ⟨x, member, .refl⟩
  | case3 fuel met block pending new ih =>
      have new_known : new.reverse ++ pending ⊆ met ++ new := by
        intro c c_mem
        have pending_known : c ∈ pending → c ∈ met := fun h => known (List.mem_cons_of_mem block h)
        simp only [List.mem_append, List.mem_reverse] at c_mem ⊢
        tauto
      obtain ⟨b, b_mem, reaches⟩ := ih new_known member
      rcases List.mem_append.1 b_mem with b_mem | b_mem
      · exact ⟨b, b_mem, reaches⟩
      · exact ⟨block, known List.mem_cons_self,
          .head (List.mem_filter.1 (List.mem_eraseDups.1 b_mem)).1 reaches⟩

theorem nodup_meet (edges : Edges) (fuel : Nat) (met pending : List Nat) (met_nodup : met.Nodup) :
    (edges.meet fuel met pending).Nodup := by
  fun_induction meet edges fuel met pending with
  | case1 met pending => exact met_nodup
  | case2 fuel met => exact met_nodup
  | case3 fuel met block pending new ih =>
      apply ih
      refine List.nodup_append.2 ⟨met_nodup, nodup_eraseDups _, ?_⟩
      rintro a a_mem c c_mem rfl
      simpa [a_mem] using (List.mem_filter.1 (List.mem_eraseDups.1 c_mem)).2

/-- The number of edges that lead to blocks not met. -/
def unmet (edges : Edges) (met : List Nat) : Nat :=
  edges.targets.countP fun c => !met.contains c

theorem successors_sublist_targets (edges : Edges) (block : Nat) :
    (edges.successors block).Sublist edges.targets := by
  rw [successors, Std.TreeMap.getD_eq_getD_getElem?]
  cases entry : edges.outgoing[block]? with
  | none => exact List.nil_sublist _
  | some list =>
      have member := Std.TreeMap.mem_toList_iff_getElem?_eq_some.2 entry
      exact List.sublist_flatten_of_mem (List.mem_map_of_mem member)

/-- Meeting the successors of a block leaves as many fewer edges. -/
theorem unmet_append_le (edges : Edges) {met : List Nat} (block : Nat) (new : List Nat)
    (new_eq : ((edges.successors block).filter (!met.contains ·)).eraseDups = new) :
    edges.unmet (met ++ new) + new.length ≤ edges.unmet met := by
  have split : edges.unmet met =
      edges.targets.countP (fun c => !met.contains c && new.contains c) +
        edges.unmet (met ++ new) := by
    rw [unmet, List.countP_eq_countP_filter_add _ _ new.contains]
    simp only [List.countP_filter, unmet]
    congr 2
    funext c
    simp
  have found : new.length ≤ edges.targets.countP fun c => !met.contains c && new.contains c := by
    calc
      new.length = new.countP (fun c => !met.contains c && new.contains c) := by
        symm
        rw [List.countP_eq_length]
        intro c c_mem
        have unmet := c_mem
        rw [← new_eq, List.mem_eraseDups] at unmet
        simpa [c_mem] using (List.mem_filter.1 unmet).2
      _ ≤ (edges.successors block).countP (fun c => !met.contains c && new.contains c) := by
        have sublist : new.Sublist (edges.successors block) :=
          new_eq ▸ (eraseDups_sublist _).trans List.filter_sublist
        exact sublist.countP_le
      _ ≤ _ := (edges.successors_sublist_targets block).countP_le
  omega

/-- With a bound on what is pending and on the edges to blocks not met, the search goes on until all
that is met is closed under edges. -/
theorem meet_closed (edges : Edges) (fuel : Nat) (met pending : List Nat)
    (enough : pending.length + edges.unmet met ≤ fuel)
    (frontier : ∀ b ∈ met, b ∈ pending ∨ ∀ c ∈ edges.successors b, c ∈ met) {b c : Nat}
    (b_mem : b ∈ edges.meet fuel met pending) (leads : edges.Leads b c) :
    c ∈ edges.meet fuel met pending := by
  fun_induction meet edges fuel met pending with
  | case1 met pending =>
      have done : pending = [] := List.length_eq_zero_iff.1 (by omega)
      subst done
      exact (frontier b b_mem).resolve_left (by simp) c leads
  | case2 fuel met => exact (frontier b b_mem).resolve_left (by simp) c leads
  | case3 fuel met block pending new ih =>
      have fewer := edges.unmet_append_le block new rfl
      refine ih ?_ ?_ b_mem
      · simp only [List.length_append, List.length_reverse, List.length_cons] at enough ⊢
        omega
      · intro a a_mem
        by_cases new_a : a ∈ new
        · simp [new_a]
        · have a_met : a ∈ met := by simpa [new_a] using a_mem
          rcases frontier a a_met with waiting | done
          · rcases List.mem_cons.1 waiting with rfl | waiting
            · right
              intro d d_mem
              by_cases known : d ∈ met
              · simp [known]
              · simp [new, d_mem, known]
            · simp [waiting]
          · exact .inr fun d d_mem => List.mem_append_left new (done d d_mem)

/-! ## Reachable blocks -/

/-- The search finds exactly the blocks that can be reached. -/
theorem mem_reachable_iff (edges : Edges) (entry x : Nat) :
    x ∈ edges.reachable entry ↔ edges.Reaches entry x := by
  constructor
  · intro member
    obtain ⟨b, b_mem, reaches⟩ :=
      edges.exists_reaches_of_mem_meet _ [entry] [entry] (List.Subset.refl _) member
    rwa [List.mem_singleton.1 b_mem] at reaches
  · intro reaches
    induction reaches with
    | refl => exact edges.mem_meet_of_mem _ [entry] [entry] List.mem_cons_self
    | tail _ leads member =>
        refine edges.meet_closed _ [entry] [entry] ?_ (fun b b_mem => .inl b_mem) member leads
        have unmet_le : edges.unmet [entry] ≤ edges.targets.length := List.countP_le_length
        simp only [List.length_singleton]
        omega

theorem nodup_reachable (edges : Edges) (entry : Nat) : (edges.reachable entry).Nodup :=
  edges.nodup_meet _ _ _ (by simp)

/-! ## Dropping entries -/

theorem get?_filter_contains (lists : Std.TreeMap Nat (List Nat)) (blocks : List Nat) (b : Nat) :
    (lists.filter fun block _ => blocks.contains block).get? b =
      if b ∈ blocks then lists.get? b else none := by
  simp only [Std.TreeMap.get?_eq_getElem?, Std.TreeMap.getElem?_filter', List.contains_eq_mem]
  split
  · rename_i member
    cases lists[b]? <;> simp [member]
  · rename_i notMember
    cases lists[b]? <;> simp [notMember]

theorem getD_filter_contains (lists : Std.TreeMap Nat (List Nat)) (blocks : List Nat) (b : Nat) :
    (lists.filter fun block _ => blocks.contains block).getD b [] =
      if b ∈ blocks then lists.getD b [] else [] := by
  rw [Std.TreeMap.getD_eq_getD_getElem?, Std.TreeMap.getD_eq_getD_getElem?,
    ← Std.TreeMap.get?_eq_getElem?, ← Std.TreeMap.get?_eq_getElem?, get?_filter_contains]
  split <;> rfl

theorem nodup_getD_filter_contains {lists : Std.TreeMap Nat (List Nat)}
    (nodup : ∀ b, (lists.getD b []).Nodup) (blocks : List Nat) (b : Nat) :
    ((lists.filter fun block _ => blocks.contains block).getD b []).Nodup := by
  rw [getD_filter_contains]
  split
  · exact nodup b
  · exact List.nodup_nil

theorem outgoing_restrict (edges : Edges) (blocks : List Nat) (b : Nat) :
    (edges.restrict blocks).outgoing.get? b =
      if b ∈ blocks then edges.outgoing.get? b else none :=
  get?_filter_contains edges.outgoing blocks b

theorem incoming_restrict (edges : Edges) (blocks : List Nat) (b : Nat) :
    (edges.restrict blocks).incoming.get? b =
      if b ∈ blocks then edges.incoming.get? b else none :=
  get?_filter_contains edges.incoming blocks b

theorem successors_restrict (edges : Edges) (blocks : List Nat) (b : Nat) :
    (edges.restrict blocks).successors b = if b ∈ blocks then edges.successors b else [] :=
  getD_filter_contains edges.outgoing blocks b

theorem predecessors_restrict (edges : Edges) (blocks : List Nat) (b : Nat) :
    (edges.restrict blocks).predecessors b = if b ∈ blocks then edges.predecessors b else [] :=
  getD_filter_contains edges.incoming blocks b

theorem leads_of_leads_restrict {edges : Edges} {blocks : List Nat} {a c : Nat}
    (leads : (edges.restrict blocks).Leads a c) : edges.Leads a c := by
  rw [Leads, successors_restrict] at leads
  split at leads
  · exact leads
  · cases leads

section Reached

variable (edges : Edges) (entry : Nat)

theorem mem_successors_restrict_reachable {a c : Nat} :
    c ∈ (edges.restrict (edges.reachable entry)).successors a ↔
      edges.Reaches entry a ∧ edges.Leads a c := by
  rw [successors_restrict, ← mem_reachable_iff, Leads]
  split <;> simp [*]

theorem mem_predecessors_restrict_reachable {a c : Nat} :
    a ∈ (edges.restrict (edges.reachable entry)).predecessors c ↔
      edges.Reaches entry c ∧ a ∈ edges.predecessors c := by
  rw [predecessors_restrict, ← mem_reachable_iff]
  split <;> simp [*]

/-- Dropping the entries of blocks that cannot be reached changes nothing for those that can. -/
theorem reaches_restrict_reachable (x : Nat) :
    (edges.restrict (edges.reachable entry)).Reaches entry x ↔ edges.Reaches entry x := by
  constructor
  · intro reaches
    induction reaches with
    | refl => exact .refl
    | tail _ leads reaches =>
        exact .tail reaches ((edges.mem_successors_restrict_reachable entry).1 leads).2
  · intro reaches
    induction reaches with
    | refl => exact .refl
    | tail before leads reaches =>
        exact .tail reaches ((edges.mem_successors_restrict_reachable entry).2 ⟨before, leads⟩)

end Reached

end Edges

namespace Graph

@[simp]
theorem edgesOf_withEdges (graph : Graph) (key : Key) (edges : Edges) :
    (graph.withEdges key edges).edgesOf key = edges :=
  Std.TreeMap.getD_insert_self

theorem edgesOf_withEdges_of_ne (graph : Graph) {key other : Key} (different : key ≠ other)
    (edges : Edges) : (graph.withEdges key edges).edgesOf other = graph.edgesOf other := by
  simp only [edgesOf, withEdges, Std.TreeMap.getD_insert, Std.LawfulEqCmp.compare_eq_iff_eq,
    if_neg different]

@[simp]
theorem edgesOf_mark (graph : Graph) (key : Key) (blocks : List Nat) (other : Key) :
    (graph.mark key blocks).edgesOf other = graph.edgesOf other := rfl

theorem vacant_edgesOf_empty (key : Key) : (edgesOf {} key).Vacant := by
  rw [edgesOf, Std.TreeMap.getD_emptyc]
  exact Edges.vacant_empty

/-- Marking adds the key once for each time a block is listed. -/
theorem marksOf_mark_eq_replicate (graph : Graph) (key : Key) (blocks : List Nat) (b : Nat) :
    (graph.mark key blocks).marksOf b =
      graph.marksOf b ++ List.replicate (blocks.count b) key := by
  simp only [marksOf, mark]
  generalize graph.marks = marks
  induction blocks generalizing marks with
  | nil => simp
  | cons c blocks ih =>
      rw [List.foldl_cons, ih, Std.TreeMap.getD_insert, List.count_cons]
      simp only [Nat.compare_eq_eq, beq_iff_eq]
      split
      · rename_i same
        subst same
        rw [List.append_assoc, List.singleton_append, List.replicate_succ]
      · simp

theorem marksOf_mark (graph : Graph) (key : Key) {blocks : List Nat} (nodup : blocks.Nodup)
    (b : Nat) :
    (graph.mark key blocks).marksOf b = graph.marksOf b ++ if b ∈ blocks then [key] else [] := by
  rw [marksOf_mark_eq_replicate, nodup.count]
  split <;> rfl

theorem mem_keys_mark (graph : Graph) (key : Key) (blocks : List Nat) (b : Nat) :
    b ∈ (graph.mark key blocks).marks.keys ↔ b ∈ graph.marks.keys ∨ b ∈ blocks := by
  simp only [mark, Std.TreeMap.mem_keys]
  generalize graph.marks = marks
  induction blocks generalizing marks with
  | nil => simp
  | cons c blocks ih =>
      rw [List.foldl_cons, ih, Std.TreeMap.mem_insert, Nat.compare_eq_eq, List.mem_cons,
        eq_comm (b := b)]
      tauto

/-- If no loose edge can be met, settling marks what can be reached and keeps the entries of these
blocks. -/
theorem settle_eq_of_reached (graph : Graph) (entry : Nat) (key : Key)
    (tight : ∀ a ∈ (graph.edgesOf key).reachable entry, (graph.edgesOf key).isLoose a = false) :
    graph.settle entry key =
      { state :=
          (graph.mark key ((graph.edgesOf key).reachable entry)).withEdges key
            ((graph.edgesOf key).restrict ((graph.edgesOf key).reachable entry)) } := by
  have noneLoose :
      ((graph.edgesOf key).reachable entry).any (graph.edgesOf key).isLoose = false := by
    rw [List.any_eq_false]
    exact fun a reached => by simp [tight a reached]
  simp [settle, markReachable, noneLoose, Outcome.andThen]

theorem settle_eq (graph : Graph) (entry : Nat) (key : Key)
    (tight : ∀ a, (graph.edgesOf key).isLoose a = false) :
    graph.settle entry key =
      { state :=
          (graph.mark key ((graph.edgesOf key).reachable entry)).withEdges key
            ((graph.edgesOf key).restrict ((graph.edgesOf key).reachable entry)) } :=
  graph.settle_eq_of_reached entry key fun a _ => tight a

end Graph
end EvmFlow
