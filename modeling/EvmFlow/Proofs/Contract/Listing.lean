import EvmFlow.Proofs.Contract.Depth

/-!
# The functions listed after a walk

Functions are listed by address: of those found at one address the last stays, in the place of the
first.  `listFound_eq_latest` says so of any walk, and `pairs_findFunctions` of a new contract whose
dispatcher is walked through to its end.
-/

namespace EvmFlow

/-! ## The last pair under each address -/

/-- The last pair under each address, in the order in which the addresses first occur. -/
def latest (pairs : List (Nat × Key)) : List (Nat × Key) :=
  (pairs.map Prod.fst).eraseDups.filterMap fun address => pairs.reverse.find? (·.1 == address)

/-- A pair is the last one under its address. -/
theorem mem_latest_iff {pairs : List (Nat × Key)} {pair : Nat × Key} :
    pair ∈ latest pairs ↔
      ∃ before after, pairs = before ++ pair :: after ∧ ∀ other ∈ after, other.1 ≠ pair.1 := by
  rw [latest, List.mem_filterMap]
  constructor
  · rintro ⟨address, -, here⟩
    obtain ⟨same, later, earlier, split_eq, later_ne⟩ := List.find?_eq_some_iff_append.1 here
    refine ⟨earlier.reverse, later.reverse, ?_, fun other member => ?_⟩
    · rw [← List.reverse_reverse pairs, split_eq]
      simp
    · have := later_ne other (List.mem_reverse.1 member)
      simp_all
  · rintro ⟨before, after, rfl, after_ne⟩
    refine ⟨pair.1, List.mem_eraseDups.2 (by simp), List.find?_eq_some_iff_append.2 ⟨by simp, ?_⟩⟩
    refine ⟨after.reverse, before.reverse, by simp, fun other member => ?_⟩
    simpa using after_ne other (List.mem_reverse.1 member)

namespace Contract

/-! ## What a list of found functions holds -/

/-- The function listed for one found by a walk. -/
def ofFound (found : Dispatch.Found) : Function := .unexplored found.key found.start found.entry

theorem listFound_concat (found : List Dispatch.Found) (new : Dispatch.Found)
    (functions : List Function) :
    listFound (found ++ [new]) functions =
      listFunction (ofFound new) (listFound found functions) := by
  rw [listFound, List.foldl_concat]
  rfl

/-- A function keeps its place under its address; under a new one it comes last. -/
theorem starts_listFunction (f : Function) (functions : List Function) :
    (listFunction f functions).map (·.start) =
      if f.start ∈ functions.map (·.start) then functions.map (·.start)
      else functions.map (·.start) ++ [f.start] := by
  induction functions with
  | nil => rfl
  | cons g rest ih =>
      rw [listFunction]
      split
      · rename_i same
        simp [same]
      · rename_i different
        rw [List.map_cons, ih, List.map_cons]
        simp only [List.mem_cons, Ne.symm different, false_or]
        split <;> rfl

theorem mem_listFunction_self (f : Function) (functions : List Function) :
    f ∈ listFunction f functions := by
  induction functions with
  | nil => exact List.mem_singleton_self f
  | cons g rest ih =>
      rw [listFunction]
      split
      · exact List.mem_cons_self
      · exact List.mem_cons_of_mem g ih

/-- The addresses listed are those found, in the order in which they first occur. -/
theorem starts_listFound (found : List Dispatch.Found) :
    (listFound found []).map (·.start) =
      (found.map Dispatch.Found.start).eraseDups.map (Nat.cast : Nat → Int) := by
  induction found using List.reverseRecOn with
  | nil => rfl
  | append_singleton found new ih =>
      have known_iff : (ofFound new).start ∈
            (found.map Dispatch.Found.start).eraseDups.map (Nat.cast : Nat → Int) ↔
          new.start ∈ found.map Dispatch.Found.start := by
        simp only [ofFound, Function.unexplored, List.mem_map, List.mem_eraseDups, Int.natCast_inj,
          exists_eq_right]
      rw [listFound_concat, starts_listFunction, ih, List.map_append, List.eraseDups_append]
      by_cases known : new.start ∈ found.map Dispatch.Found.start
      · have removed : (List.map Dispatch.Found.start [new]).removeAll
            (found.map Dispatch.Found.start) = [] := by
          simpa [List.removeAll] using known
        rw [if_pos (known_iff.2 known), removed, List.eraseDups_nil, List.append_nil]
      · have kept : (List.map Dispatch.Found.start [new]).removeAll
            (found.map Dispatch.Found.start) = [new.start] := by
          simpa [List.removeAll] using known
        rw [if_neg (mt known_iff.1 known), kept, List.map_append]
        rfl

/-- Each function listed is the last one found at its address, or one listed before at an address
where none was found. -/
theorem cases_of_mem_listFound {found : List Dispatch.Found} {functions : List Function}
    (apart : Apart functions) {f : Function} (member : f ∈ listFound found functions) :
    (∃ new, found.reverse.find? (·.start == new.start) = some new ∧ f = ofFound new) ∨
      (f ∈ functions ∧ ∀ new ∈ found, (ofFound new).start ≠ f.start) := by
  -- From the right: what is found last is listed last, and takes the place of what was there.
  induction found using List.reverseRecOn with
  | nil => exact .inr ⟨member, List.forall_mem_nil _⟩
  | append_singleton found new ih =>
      have listed_apart : Apart (listFound (found ++ [new]) functions) := apart.listFound _
      rw [listFound_concat] at member listed_apart
      rw [List.reverse_concat]
      by_cases same : f.start = (ofFound new).start
      · have f_eq := listed_apart.eq_of_start_eq member (mem_listFunction_self _ _) same
        exact .inl ⟨new, by simp, f_eq⟩
      · have earlier := (mem_of_mem_listFunction member).resolve_left fun here => same (here ▸ rfl)
        rcases ih earlier with ⟨old, last, rfl⟩ | ⟨kept, others⟩
        · have different : new.start ≠ old.start := fun here =>
            same (congrArg (Nat.cast : Nat → Int) here.symm)
          exact .inl ⟨old, by rw [List.find?_cons_of_neg (by simpa using different), last], rfl⟩
        · exact .inr
            ⟨kept, List.forall_mem_append.2 ⟨others, List.forall_mem_singleton.2 (Ne.symm same)⟩⟩

theorem last_of_mem_listFound {found : List Dispatch.Found} {f : Function}
    (member : f ∈ listFound found []) :
    ∃ new, found.reverse.find? (·.start == new.start) = some new ∧ f = ofFound new :=
  (cases_of_mem_listFound .nil member).resolve_right fun kept => List.not_mem_nil kept.1

/-- The addresses and keys listed are the last ones found. -/
theorem listFound_eq_latest (found : List Dispatch.Found) :
    (listFound found []).map (fun f => (f.start, f.key)) =
      (latest (found.map fun new => (new.start, new.key))).map fun pair =>
        ((pair.1 : Int), pair.2) := by
  have addresses : (found.map Dispatch.Found.start).eraseDups =
      (listFound found []).map (·.start.toNat) := by
    have := congrArg (List.map Int.toNat) (starts_listFound found)
    simpa [Function.comp_def] using this.symm
  have last : ∀ f ∈ listFound found [],
      ((found.reverse.map fun new => (new.start, new.key)).find? (·.1 == f.start.toNat)).map
        (fun pair => ((pair.1 : Int), pair.2)) = some (f.start, f.key) := by
    intro f member
    obtain ⟨new, here, rfl⟩ := last_of_mem_listFound member
    rw [List.find?_map]
    simp only [ofFound, Function.unexplored, Int.toNat_natCast]
    exact congrArg (Option.map _) (congrArg (Option.map _) here)
  rw [latest, List.map_map, List.map_filterMap, ← List.map_reverse]
  simp only [Function.comp_def]
  rw [addresses, List.filterMap_map, ← List.filterMap_eq_map]
  exact List.filterMap_congr fun f member => (last f member).symm

/-! ## New contracts -/

section Walked

variable {code : Code} {d : Disassembler} {entry : Block} {found : List Dispatch.Found}
  (first : (Layout.ofCode code d).blockAt? 0 = some entry)
  (walked : Dispatch.walk (.ofCode code d) entry true = { found }) (directory : Directory)
include first walked

theorem findFunctions_completes :
    (findFunctions { code := some code } directory d).failure = none := by
  rw [findFunctions_of_walk first walked]

/-- The addresses and keys of the functions listed. -/
theorem pairs_findFunctions :
    (findFunctions { code := some code } directory d).state.functions.map
        (fun f => (f.start, f.key)) =
      (latest (found.map fun new => (new.start, new.key))).map
        (fun pair => ((pair.1 : Int), pair.2)) ++ [(0, Key.dispatcher)] := by
  have pair_named : (fun f => (f.start, f.key)) ∘ named directory =
      fun f : Function => (f.start, f.key) := by
    funext f
    have kin := kin_named directory f
    exact Prod.ext kin.start_eq kin.key_eq
  rw [findFunctions_of_walk first walked, List.map_map, pair_named, List.map_append,
    listFound_eq_latest]
  rfl

/-- A function other than the dispatcher is listed if it was found last at its address. -/
theorem exists_function_iff {address : Nat} {key : Key} (key_ne : key ≠ Key.dispatcher) :
    (∃ f ∈ (findFunctions { code := some code } directory d).state.functions,
        f.key = key ∧ f.start = (address : Int)) ↔
      (address, key) ∈ latest (found.map fun new => (new.start, new.key)) := by
  have listed : (∃ f ∈ (findFunctions { code := some code } directory d).state.functions,
      f.key = key ∧ f.start = (address : Int)) ↔
      ((address : Int), key) ∈ (findFunctions { code := some code } directory d).state.functions.map
        fun f => (f.start, f.key) := by
    simp [and_comm]
  rw [listed, pairs_findFunctions first walked, List.mem_append, List.mem_map]
  constructor
  · rintro (⟨⟨address', key'⟩, member, same⟩ | dispatcher)
    · obtain ⟨address_eq, rfl⟩ := Prod.mk.inj same
      obtain rfl := Int.natCast_inj.1 address_eq
      exact member
    · exact absurd (Prod.mk.inj (List.mem_singleton.1 dispatcher)).2 key_ne
  · exact fun member => .inl ⟨_, member, rfl⟩

/-- A function listed is one that the walk found, or the dispatcher. -/
theorem cases_of_mem_findFunctions {f : Function}
    (member : f ∈ (findFunctions { code := some code } directory d).state.functions) :
    (∃ new : Dispatch.Found, new.Fits (.ofCode code d) ∧ f = named directory (ofFound new)) ∨
      f = named directory (.unexplored Key.dispatcher 0 entry.start) := by
  rw [findFunctions_of_walk first walked] at member
  obtain ⟨g, g_mem, rfl⟩ := List.mem_map.1 member
  rcases List.mem_append.1 g_mem with g_mem | g_mem
  · obtain ⟨new, fits, rfl⟩ := fits_of_mem_listFound walked g_mem
    exact .inl ⟨new, fits, rfl⟩
  · exact .inr (congrArg (named directory) (List.mem_singleton.1 g_mem))

/-- Each function listed is as yet unexplored, and begins at the block of its address. -/
theorem located_of_mem_findFunctions {f : Function}
    (member : f ∈ (findFunctions { code := some code } directory d).state.functions) :
    ∃ address b, (Layout.ofCode code d).blockAt? address = some b ∧
      f = named directory (.unexplored f.key address b.start) := by
  rcases cases_of_mem_findFunctions first walked directory member with ⟨new, fits, rfl⟩ | rfl
  · obtain ⟨b, located, start_eq⟩ := fits.located
    rw [(kin_named directory (ofFound new)).key_eq]
    exact ⟨new.start, b, located, by rw [start_eq]; rfl⟩
  · rw [(kin_named directory _).key_eq]
    exact ⟨0, entry, first, rfl⟩

end Walked

end Contract
end EvmFlow
