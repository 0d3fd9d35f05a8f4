import EvmFlow.Proofs.Contract.Attributes
import EvmFlow.Proofs.Export.Drawing
import EvmFlow.Proofs.Storage.Files

/-!
# Which drawings are left

The drawings of the functions of a contract are written one after the other, each to a file with the
name of its function.  A function has the name that is known for its key; so functions of one key
share a file, and the last of them is left in it.  `node?_addEach` and `node?_drawAll` say what is at
each location in the end.
-/

namespace EvmFlow

namespace Written

variable {contract : Contract} {base : String} {written : Written}

/-- The path to which the drawing of a function is written. -/
def pathOf (base : String) (f : Function) : String := base ++ f.name ++ ".dot"

/-- Functions whose names have no slash share a file only if they share their name. -/
theorem target?_pathOf_eq_iff {files : Files} (base_ne : base ≠ "") {f g : Function}
    (leads : (files.target? (pathOf base f)).isSome) (f_plain : '/' ∉ f.name.toList)
    (g_plain : '/' ∉ g.name.toList) :
    files.target? (pathOf base f) = files.target? (pathOf base g) ↔ f.name = g.name := by
  constructor
  · intro same
    obtain ⟨target, f_leads⟩ := Option.isSome_iff_exists.1 leads
    have g_leads := same.symm.trans f_leads
    have dotted_ne (name : String) : name ++ ".dot" ≠ "" := by simp
    have dotted_plain {name : String} (plain : '/' ∉ name.toList) :
        '/' ∉ (name ++ ".dot").toList := by
      rw [String.toList_append, List.mem_append, not_or]
      exact ⟨plain, by decide⟩
    rw [pathOf, String.append_assoc] at f_leads g_leads
    have dotted_eq := Files.name_eq_of_target?_eq base_ne (dotted_ne f.name) (dotted_ne g.name)
      (dotted_plain f_plain) (dotted_plain g_plain) f_leads g_leads
    exact (String.append_left_inj _).1 dotted_eq
  · intro same
    rw [pathOf, pathOf, same]

/-! ## One drawing -/

theorem addDrawing_of_target? {path : String} {target : Location}
    (leads : written.files.target? path = some target) (dot : Dot) :
    written.addDrawing path dot false =
      { state := { written with files := written.files.put target (.file (.drawing dot)) } } := by
  simp only [addDrawing, Files.write_of_target? leads]
  rfl

theorem exists_target?_of_addDrawing {path : String} {dot : Dot} {isLoose : Bool}
    (completed : (written.addDrawing path dot isLoose).failure = none) :
    ∃ target, written.files.target? path = some target := by
  rw [addDrawing] at completed
  split at completed
  · cases completed
  · rename_i files writes
    obtain ⟨target, leads, -⟩ := Files.write_eq_ok_iff.1 writes
    exact ⟨target, leads⟩

theorem exists_target?_of_addFunction {f : Function}
    (completed : (written.addFunction contract base f).failure = none) :
    ∃ target, written.files.target? (pathOf base f) = some target :=
  exists_target?_of_addDrawing (Outcome.andThen_completed completed).1

/-! ## One function after the other -/

section Each

variable (tight : ∀ key a, (contract.graph.edgesOf key).isLoose a = false)
include tight

theorem files_addFunction {f : Function} {target : Location}
    (leads : written.files.target? (pathOf base f) = some target) :
    (written.addFunction contract base f).failure = none ∧
      (written.addFunction contract base f).state.files =
        written.files.put target (.file (.drawing (Dot.ofFunction contract f))) := by
  rw [addFunction_of_tight (tight f.key) (Files.write_of_target? leads _)]
  exact ⟨rfl, rfl⟩

/-- A run that completes writes the first drawing, which changes no folder, and goes on. -/
theorem exists_of_addEach_cons {f : Function} {rest : List Function}
    (completed : (addEach contract base (f :: rest) written).failure = none) :
    ∃ target next, written.files.target? (pathOf base f) = some target ∧
      next.files = written.files.put target (.file (.drawing (Dot.ofFunction contract f))) ∧
      written.files.SameFolders next.files ∧
      (addEach contract base rest next).failure = none ∧
      (addEach contract base (f :: rest) written).state =
        (addEach contract base rest next).state := by
  obtain ⟨first, rest_completed, state_eq⟩ := Outcome.andThen_completed completed
  obtain ⟨target, leads⟩ := exists_target?_of_addFunction first
  have files_eq := (files_addFunction tight leads).2
  refine ⟨target, _, leads, files_eq, ?_, rest_completed, state_eq⟩
  rw [files_eq]
  exact Files.sameFolders_of_target? leads _

/-- All drawings are written if each of the paths could be written at first. -/
theorem addEach_completed_iff (functions : List Function) (written : Written) :
    (addEach contract base functions written).failure = none ↔
      ∀ f ∈ functions, (written.files.target? (pathOf base f)).isSome := by
  induction functions generalizing written with
  | nil => simp [addEach]
  | cons f rest ih =>
      rw [List.forall_mem_cons]
      constructor
      · intro completed
        obtain ⟨target, next, leads, -, same, rest_completed, -⟩ :=
          exists_of_addEach_cons tight completed
        rw [ih] at rest_completed
        simp only [same.target?_eq] at rest_completed
        exact ⟨Option.isSome_iff_exists.2 ⟨target, leads⟩, rest_completed⟩
      · rintro ⟨first, rest_lead⟩
        obtain ⟨target, leads⟩ := Option.isSome_iff_exists.1 first
        obtain ⟨first_completed, files_eq⟩ := files_addFunction tight leads
        simp only [addEach, Outcome.andThen, first_completed]
        rw [ih, files_eq]
        simpa only [(Files.sameFolders_of_target? leads _).target?_eq] using rest_lead

theorem sameFolders_addEach (functions : List Function) (written : Written)
    (completed : (addEach contract base functions written).failure = none) :
    written.files.SameFolders (addEach contract base functions written).state.files := by
  induction functions generalizing written with
  | nil => exact fun _ => Iff.rfl
  | cons f rest ih =>
      obtain ⟨-, next, -, -, same, rest_completed, state_eq⟩ :=
        exists_of_addEach_cons tight completed
      rw [state_eq]
      exact same.trans (ih next rest_completed)

/-- At each location there is in the end the drawing of the last function whose path leads there, or
what was there before. -/
theorem node?_addEach (functions : List Function) (written : Written)
    (completed : (addEach contract base functions written).failure = none) (place : Location) :
    (addEach contract base functions written).state.files.node? place =
      match functions.findRev? (fun g => written.files.target? (pathOf base g) = some place) with
      | some g => some (.file (.drawing (Dot.ofFunction contract g)))
      | none => written.files.node? place := by
  induction functions generalizing written with
  | nil => rfl
  | cons f rest ih =>
      obtain ⟨target, next, leads, files_eq, same, rest_completed, state_eq⟩ :=
        exists_of_addEach_cons tight completed
      have rest_eq := ih next rest_completed
      simp only [same.target?_eq] at rest_eq
      rw [state_eq, rest_eq, List.findRev?]
      cases rest.findRev? (fun g => written.files.target? (pathOf base g) = some place) with
      | some g => rfl
      | none =>
          -- No later function leads there, so this one decides.
          rw [files_eq, Files.node?_put _ (Files.inner_of_target? leads), leads]
          by_cases here : place = target
          · simp [here]
          · simp [here, Ne.symm here]

end Each

/-! ## All drawings of a contract -/

theorem isLoose_of_tight (tight : ∀ key a, (contract.graph.edgesOf key).isLoose a = false) :
    contract.isLoose = false := by
  refine List.any_eq_false.2 fun b _ => ?_
  rw [Graph.isLoose, Bool.not_eq_true, List.any_eq_false]
  rintro ⟨key, edges⟩ member
  have edges_eq : contract.graph.edgesOf key = edges := by
    rw [Graph.edgesOf, Std.TreeMap.getD_eq_getD_getElem?,
      Std.TreeMap.mem_toList_iff_getElem?_eq_some.1 member]
    rfl
  simp [← edges_eq, tight]

/-- Writes the drawings of a contract and of its functions, once their folder is made. -/
def drawAll (contract : Contract) (base : String) (ready : Outcome Written) : Outcome Written :=
  (ready.andThen fun written => written.addContract contract base).andThen
    (addEach contract base contract.functions)

theorem addAll_eq_drawAll (written : Written) (contract : Contract) (folder file : String) :
    written.addAll contract folder file =
      drawAll contract (Path.inside folder (Path.fileName file ++ "_"))
        { state := { written with files := (written.files.ensureFolder folder).state }
          failure := (written.files.ensureFolder folder).failure } :=
  rfl

section All

variable {ready : Outcome Written}
  (tight : ∀ key a, (contract.graph.edgesOf key).isLoose a = false)
include tight

theorem addContract_of_target? {target : Location}
    (leads : written.files.target? (base ++ "FULL_GRAPH.dot") = some target) :
    written.addContract contract base =
      { state := { written with
          files := written.files.put target (.file (.drawing (Dot.ofContract contract))) } } := by
  rw [addContract, isLoose_of_tight tight]
  exact addDrawing_of_target? leads _

/-- After the drawing of the contract come those of its functions. -/
theorem exists_addEach_of_drawAll (completed : (drawAll contract base ready).failure = none) :
    ready.failure = none ∧
      ∃ target written, ready.state.files.target? (base ++ "FULL_GRAPH.dot") = some target ∧
        written.files =
          ready.state.files.put target (.file (.drawing (Dot.ofContract contract))) ∧
        (addEach contract base contract.functions written).failure = none ∧
        (drawAll contract base ready).state =
          (addEach contract base contract.functions written).state := by
  obtain ⟨drawn, each_completed, state_eq⟩ := Outcome.andThen_completed completed
  obtain ⟨ready_completed, contract_drawn, drawn_eq⟩ := Outcome.andThen_completed drawn
  obtain ⟨target, leads⟩ := exists_target?_of_addDrawing contract_drawn
  refine ⟨ready_completed, target, _, leads, ?_, each_completed, state_eq⟩
  rw [drawn_eq, addContract_of_target? tight leads]

theorem drawAll_completed_iff :
    (drawAll contract base ready).failure = none ↔
      ready.failure = none ∧ (ready.state.files.target? (base ++ "FULL_GRAPH.dot")).isSome ∧
        ∀ f ∈ contract.functions, (ready.state.files.target? (pathOf base f)).isSome := by
  constructor
  · intro completed
    obtain ⟨ready_completed, target, written, leads, files_eq, each_completed, -⟩ :=
      exists_addEach_of_drawAll tight completed
    rw [addEach_completed_iff tight, files_eq] at each_completed
    simp only [(Files.sameFolders_of_target? leads _).target?_eq] at each_completed
    exact ⟨ready_completed, Option.isSome_iff_exists.2 ⟨target, leads⟩, each_completed⟩
  · rintro ⟨ready_completed, contract_leads, each_lead⟩
    obtain ⟨target, leads⟩ := Option.isSome_iff_exists.1 contract_leads
    simp only [drawAll, Outcome.andThen, ready_completed, addContract_of_target? tight leads]
    rw [addEach_completed_iff tight]
    simpa only [(Files.sameFolders_of_target? leads _).target?_eq] using each_lead

section Completed

variable (completed : (drawAll contract base ready).failure = none)
include completed

theorem sameFolders_drawAll :
    ready.state.files.SameFolders (drawAll contract base ready).state.files := by
  obtain ⟨-, target, written, leads, files_eq, each_completed, state_eq⟩ :=
    exists_addEach_of_drawAll tight completed
  have first := Files.sameFolders_of_target? leads (.drawing (Dot.ofContract contract))
  rw [← files_eq] at first
  rw [state_eq]
  exact first.trans (sameFolders_addEach tight _ _ each_completed)

/-- At each location there is in the end the drawing of the last function whose path leads there, or
the drawing of the contract, or what was there before. -/
theorem node?_drawAll (place : Location) :
    (drawAll contract base ready).state.files.node? place =
      match contract.functions.findRev?
        (fun g => ready.state.files.target? (pathOf base g) = some place) with
      | some g => some (.file (.drawing (Dot.ofFunction contract g)))
      | none =>
        if ready.state.files.target? (base ++ "FULL_GRAPH.dot") = some place then
          some (.file (.drawing (Dot.ofContract contract)))
        else ready.state.files.node? place := by
  obtain ⟨-, target, written, leads, files_eq, each_completed, state_eq⟩ :=
    exists_addEach_of_drawAll tight completed
  have same := Files.sameFolders_of_target? leads (.drawing (Dot.ofContract contract))
  rw [state_eq, node?_addEach tight _ _ each_completed, files_eq,
    Files.node?_put _ (Files.inner_of_target? leads), leads]
  simp only [same.target?_eq, Option.some.injEq, eq_comm]

/-- Nothing changes where no path leads. -/
theorem node?_drawAll_of_notMem {place : Location}
    (elsewhere : ready.state.files.target? (base ++ "FULL_GRAPH.dot") ≠ some place)
    (unnamed : ∀ f ∈ contract.functions, ready.state.files.target? (pathOf base f) ≠ some place) :
    (drawAll contract base ready).state.files.node? place = ready.state.files.node? place := by
  have none_last : contract.functions.findRev?
      (fun g => ready.state.files.target? (pathOf base g) = some place) = none := by
    rw [List.findRev?_eq_find?_reverse]
    simpa using unnamed
  rw [node?_drawAll tight completed, none_last]
  exact if_neg elsewhere

/-- A file holds the drawing of the last function whose path leads there. -/
theorem read_drawAll {f : Function} (f_mem : f ∈ contract.functions) :
    ∃ last, contract.functions.findRev? (fun g => ready.state.files.target? (pathOf base g) =
        ready.state.files.target? (pathOf base f)) = some last ∧
      (drawAll contract base ready).state.files.read (pathOf base f) =
        .ok (.drawing (Dot.ofFunction contract last)) := by
  obtain ⟨-, -, each_lead⟩ := (drawAll_completed_iff tight).1 completed
  obtain ⟨target, leads⟩ := Option.isSome_iff_exists.1 (each_lead f f_mem)
  rw [leads]
  have some_last : (contract.functions.findRev?
      (fun g => ready.state.files.target? (pathOf base g) = some target)).isSome := by
    rw [List.findRev?_eq_find?_reverse, List.find?_isSome]
    exact ⟨f, List.mem_reverse.2 f_mem, decide_eq_true leads⟩
  obtain ⟨last, last_eq⟩ := Option.isSome_iff_exists.1 some_last
  refine ⟨last, last_eq, ?_⟩
  have leads_after := ((sameFolders_drawAll tight completed).target?_eq _).trans leads
  refine Files.read_of_target? leads_after ?_
  rw [node?_drawAll tight completed, last_eq]

/-- If the names are all different and have no slash, every drawing is left in its file. -/
theorem read_drawAll_of_nodup (base_ne : base ≠ "")
    (plain : ∀ f ∈ contract.functions, '/' ∉ f.name.toList)
    (nodup : (contract.functions.map Function.name).Nodup) {f : Function}
    (f_mem : f ∈ contract.functions) :
    (drawAll contract base ready).state.files.read (pathOf base f) =
      .ok (.drawing (Dot.ofFunction contract f)) := by
  obtain ⟨-, -, each_lead⟩ := (drawAll_completed_iff tight).1 completed
  obtain ⟨last, last_eq, read_eq⟩ := read_drawAll tight completed f_mem
  rw [List.findRev?_eq_find?_reverse] at last_eq
  have last_mem := List.mem_reverse.1 (List.mem_of_find?_eq_some last_eq)
  have same := List.find?_some last_eq
  rw [decide_eq_true_eq, target?_pathOf_eq_iff base_ne (each_lead last last_mem)
    (plain last last_mem) (plain f f_mem)] at same
  rwa [List.inj_on_of_nodup_map nodup last_mem f_mem same] at read_eq

end Completed
end All
end Written

open Contract

/-- The drawings of a contract that was built are written to files with the names of its functions,
and a function has the name that the directory knows for its key.  All are written exactly if the
folder can be made and each path can be written there.  Then a file holds the drawing of the last
function whose path leads there, and nothing changes elsewhere.  Functions whose names have no slash
share a file exactly if they share their name; so if the names are all different and have no slash,
every function has its drawing in a file of its own. -/
theorem export_keeps_last_drawing_of_file (directory : Directory) (source : Source)
    (stripsMetadata optimizes : Bool) (disassembler : Disassembler) (plan : Plan)
    (completed :
      (build directory source { stripsMetadata, optimizes, disassembler, plan }).failure = none)
    (written : Written) (folder file : String) :
    let contract := (build directory source { stripsMetadata, optimizes, disassembler, plan }).state
    let base := Path.inside folder (Path.fileName file ++ "_")
    let made := written.files.ensureFolder folder
    let target? (f : Function) := made.state.target? (Written.pathOf base f)
    let outcome := written.addAll contract folder file
    (∀ f ∈ contract.functions,
      f.name = (directory.find? f.key).getD (Function.defaultName f.key)) ∧
    (∀ f ∈ contract.functions, ∀ g ∈ contract.functions, (target? f).isSome →
      '/' ∉ f.name.toList → '/' ∉ g.name.toList → (target? f = target? g ↔ f.name = g.name)) ∧
    (outcome.failure = none ↔
      made.failure = none ∧ (made.state.target? (base ++ "FULL_GRAPH.dot")).isSome ∧
        ∀ f ∈ contract.functions, (target? f).isSome) ∧
    (outcome.failure = none →
      (∀ f ∈ contract.functions, ∃ last,
        contract.functions.findRev? (fun g => target? g = target? f) = some last ∧
          outcome.state.files.read (Written.pathOf base f) =
            .ok (.drawing (Dot.ofFunction contract last))) ∧
      (∀ place, made.state.target? (base ++ "FULL_GRAPH.dot") ≠ some place →
        (∀ f ∈ contract.functions, target? f ≠ some place) →
          outcome.state.files.node? place = made.state.node? place) ∧
      ((∀ f ∈ contract.functions, '/' ∉ f.name.toList) →
        (contract.functions.map Function.name).Nodup → ∀ f ∈ contract.functions,
          outcome.state.files.read (Written.pathOf base f) =
            .ok (.drawing (Dot.ofFunction contract f)))) := by
  have coherent : Coherent disassembler
      (build directory source { stripsMetadata, optimizes, disassembler, plan }).state :=
    coherent_build _ _ rfl
  have tight := fun key => (coherent.enclosed key).tight
  have base_ne : Path.inside folder (Path.fileName file ++ "_") ≠ "" :=
    Path.inside_ne_empty folder (by simp)
  dsimp only
  rw [Written.addAll_eq_drawAll]
  refine ⟨fun f f_mem => (build_named completed f f_mem).2,
    fun f _ g _ leads => Written.target?_pathOf_eq_iff base_ne leads,
    Written.drawAll_completed_iff tight, fun drawn => ⟨fun f => Written.read_drawAll tight drawn,
    fun place => Written.node?_drawAll_of_notMem tight drawn, fun plain nodup f =>
      Written.read_drawAll_of_nodup tight drawn base_ne plain nodup⟩⟩

theorem twinCode_drawn :
    (Written.addAll {} (build {} (.raw twinCode) {}).state "crytic-export/evm"
      "contract.evm").failure = none := by
  decide +kernel

/-- The file of the fallback functions holds the drawing of the second of them. -/
theorem twinCode_keeps_last_drawing :
    let built := build {} (.raw twinCode) {}
    let outcome := Written.addAll {} built.state "crytic-export/evm" "contract.evm"
    built.failure = none ∧ built.state.functions = [firstTwin, secondTwin, twinDispatcher] ∧
      outcome.failure = none ∧
      outcome.state.files.read "crytic-export/evm/contract.evm__fallback.dot" =
        .ok (.drawing (Dot.ofFunction built.state secondTwin)) := by
  have completed : (build {} (.raw twinCode) {}).failure = none := by decide +kernel
  have first_mem : firstTwin ∈ (build {} (.raw twinCode) {}).state.functions := by
    rw [twinCode_functions]
    exact List.mem_cons_self
  obtain ⟨-, -, -, kept⟩ := export_keeps_last_drawing_of_file {} (.raw twinCode) true true
    .evm .inOrder completed {} "crytic-export/evm" "contract.evm"
  obtain ⟨last, last_eq, read_eq⟩ := (kept twinCode_drawn).1 firstTwin first_mem
  rw [twinCode_functions] at last_eq
  obtain rfl : last = secondTwin := by
    refine Option.some.inj (last_eq.symm.trans ?_)
    decide +kernel
  have path_eq : Written.pathOf
      (Path.inside "crytic-export/evm" (Path.fileName "contract.evm" ++ "_")) firstTwin =
        "crytic-export/evm/contract.evm__fallback.dot" := by
    decide +kernel
  rw [path_eq] at read_eq
  exact ⟨completed, twinCode_functions, twinCode_drawn, read_eq⟩

/-- Both fallback functions are written to one file, and the drawing of the first is nowhere. -/
theorem twinCode_overwrites_drawing :
    let built := build {} (.raw twinCode) {}
    let outcome := Written.addAll {} built.state "crytic-export/evm" "contract.evm"
    built.failure = none ∧ firstTwin ∈ built.state.functions ∧
      secondTwin ∈ built.state.functions ∧ firstTwin ≠ secondTwin ∧ outcome.failure = none ∧
      firstTwin.name = secondTwin.name ∧
      ∀ entry ∈ outcome.state.files.listed,
        entry.2 ≠ .drawing (Dot.ofFunction built.state firstTwin) := by
  decide +kernel

end EvmFlow
