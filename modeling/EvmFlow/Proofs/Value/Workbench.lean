import EvmFlow.Proofs.Value.Tracking
import EvmFlow.Value.Workbench

/-!
# What stays true on a workbench

Names, stacks and elements refer to elements and cells by their numbers.  Whatever is done on a
workbench, beginning with an empty one, every number refers to something that is there.
-/

namespace EvmFlow
namespace Workbench

variable {α β : Type}

/-- The bench after several steps, whether they were refused or not. -/
def Bench.afterAll (bench : Bench) (steps : List Step) : Bench :=
  steps.foldl (fun bench step => (run bench step).2) bench

/-- Every number refers to something on the bench. -/
structure Bench.Sound (bench : Bench) : Prop where
  cells : ∀ e ∈ bench.elements, ∀ cell ∈ e.cell?, cell < bench.cells.size
  named : ∀ name number, bench.elementNames.get? name = some number →
    number < bench.elements.size
  piled : ∀ name pile, bench.pileNames.get? name = some pile →
    ∀ number ∈ pile.slots, number < bench.elements.size

/-! ## Work in parts -/

/-- Work on a sound bench on which some numbers refer to elements.  If it is done, the bench is sound
again and has no fewer elements, and further numbers, which the result gives, refer to elements. -/
def Minds (known : List Nat) (work : Work α) (found : α → List Nat) : Prop :=
  ∀ bench result after, bench.Sound → (∀ n ∈ known, n < bench.elements.size) →
    work.run bench = .ok (result, after) →
      after.Sound ∧ bench.elements.size ≤ after.elements.size ∧
        ∀ n ∈ found result, n < after.elements.size

theorem run_bind_eq_ok_iff {work : Work α} {next : α → Work β} {bench after : Bench} {b : β} :
    (work >>= next).run bench = .ok (b, after) ↔
      ∃ a middle, work.run bench = .ok (a, middle) ∧ (next a).run middle = .ok (b, after) := by
  rw [StateT.run_bind]
  cases work.run bench with
  | error failure => simp [bind, Except.bind]
  | ok outcome =>
      obtain ⟨a, middle⟩ := outcome
      simp [bind, Except.bind]

theorem run_bind_of_ok {work : Work α} {bench middle : Bench} {a : α}
    (done : work.run bench = .ok (a, middle)) (next : α → Work β) :
    (work >>= next).run bench = (next a).run middle := by
  rw [StateT.run_bind, done]
  rfl

namespace Minds

variable {known : List Nat} {work : Work α} {found : α → List Nat}

theorem bind (first : Minds known work found) {next : α → Work β} {more : β → List Nat}
    (rest : ∀ a, Minds (found a ++ known) (next a) more) : Minds known (work >>= next) more := by
  intro bench b after sound inside done
  obtain ⟨a, middle, work_done, next_done⟩ := run_bind_eq_ok_iff.1 done
  obtain ⟨middle_sound, le_middle, a_inside⟩ := first bench a middle sound inside work_done
  have known_inside : ∀ n ∈ found a ++ known, n < middle.elements.size := by
    intro n member
    rcases List.mem_append.1 member with new | old
    · exact a_inside n new
    · exact Nat.lt_of_lt_of_le (inside n old) le_middle
  obtain ⟨after_sound, le_after, b_inside⟩ :=
    rest a middle b after middle_sound known_inside next_done
  exact ⟨after_sound, le_middle.trans le_after, b_inside⟩

theorem pure {a : α} (subset : found a ⊆ known) : Minds known (pure a) found := by
  intro bench result after sound inside done
  cases done
  exact ⟨sound, Nat.le_refl _, fun n member => inside n (subset member)⟩

theorem answer (a : α) : Minds known (Pure.pure a) (fun _ => []) := pure (List.nil_subset _)

theorem throw (failure : Failure) : Minds known (throw failure : Work α) found := by
  intro bench result after _ _ done
  cases done

theorem mapM {act : α → Work β} {more : β → List Nat} (each : ∀ known a, Minds known (act a) more)
    (list : List α) : Minds known (list.mapM act) (List.flatMap more) := by
  induction list generalizing known with
  | nil => exact pure (List.nil_subset _)
  | cons a list ih =>
      rw [List.mapM_cons]
      refine (each known a).bind fun b => ih.bind fun bs => pure ?_
      intro n member
      rw [List.flatMap_cons, List.mem_append] at member
      rcases member with first | rest
      · exact List.mem_append_right _ (List.mem_append_left _ first)
      · exact List.mem_append_left _ rest

end Minds

/-! ## Elements and cells -/

/-- The bench with one more element. -/
def Bench.withElement (bench : Bench) (e : Element) : Bench :=
  { bench with elements := bench.elements.push e }

/-- The bench with one more cell. -/
def Bench.withCell (bench : Bench) (values : ValueSet) : Bench :=
  { bench with cells := bench.cells.push values }

/-- The bench with a new element that has a value of its own. -/
def Bench.withValue (bench : Bench) (tracked : ValueSet) : AbstractValue → Bench
  | .top => bench.withElement ⟨tracked, none⟩
  | .among values => (bench.withCell values).withElement ⟨tracked, some bench.cells.size⟩

/-- The element under a number, or one that holds every value. -/
def Bench.elementAt (bench : Bench) (number : Nat) : Element :=
  (bench.elements[number]?).getD ⟨.empty, none⟩

theorem run_make (bench : Bench) (tracked : ValueSet) (value : AbstractValue) :
    (make tracked value).run bench = .ok (bench.elements.size, bench.withValue tracked value) := by
  cases value <;> rfl

theorem run_element (bench : Bench) (number : Nat) :
    (element number).run bench = .ok (bench.elementAt number, bench) := rfl

theorem run_value (bench : Bench) (number : Nat) :
    (value number).run bench = .ok (valueOf bench number, bench) := rfl

/-- The bench with a copy of an element. -/
def Bench.withCopy (bench : Bench) (number : Nat) : Bench :=
  match valueOf bench number with
  | .top => bench.withValue (bench.elementAt number).tracked .nothing
  | .among values =>
    if values.isEmpty then bench.withValue (bench.elementAt number).tracked .nothing
    else bench.withElement (bench.elementAt number)

theorem run_copy (bench : Bench) (number : Nat) :
    (copy number).run bench = .ok (bench.elements.size, bench.withCopy number) := by
  rw [copy, run_bind_of_ok (run_element bench number), run_bind_of_ok (run_value bench number),
    Bench.withCopy]
  cases valueOf bench number with
  | top => exact run_make bench _ _
  | among values =>
      dsimp only
      split
      · exact run_make bench _ _
      · rfl

namespace Bench.Sound

variable {bench : Bench}

theorem empty : Bench.Sound {} where
  cells := by simp
  named := by simp
  piled := by simp

theorem cell_lt (sound : bench.Sound) {number cell : Nat}
    (refers : (bench.elementAt number).cell? = some cell) : cell < bench.cells.size := by
  rw [Bench.elementAt] at refers
  cases there : bench.elements[number]? with
  | none => simp [there] at refers
  | some e =>
      rw [there, Option.getD_some] at refers
      exact sound.cells e (Array.mem_of_getElem? there) cell refers

theorem withElement (sound : bench.Sound) {e : Element}
    (refers : ∀ cell ∈ e.cell?, cell < bench.cells.size) : (bench.withElement e).Sound where
  cells := by
    intro f member
    rcases Array.mem_push.1 member with old | rfl
    · exact sound.cells f old
    · exact refers
  named := by
    intro name number named
    rw [Bench.withElement, Array.size_push]
    exact Nat.lt_succ_of_lt (sound.named name number named)
  piled := by
    intro name pile piled number member
    rw [Bench.withElement, Array.size_push]
    exact Nat.lt_succ_of_lt (sound.piled name pile piled number member)

theorem withCell (sound : bench.Sound) (values : ValueSet) : (bench.withCell values).Sound where
  cells := by
    intro e member cell refers
    rw [Bench.withCell, Array.size_push]
    exact Nat.lt_succ_of_lt (sound.cells e member cell refers)
  named := sound.named
  piled := sound.piled

theorem withValue (sound : bench.Sound) (tracked : ValueSet) (value : AbstractValue) :
    (bench.withValue tracked value).Sound := by
  cases value with
  | top => exact sound.withElement (by simp)
  | among values => exact (sound.withCell values).withElement (by simp [Bench.withCell])

theorem withCopy (sound : bench.Sound) (number : Nat) : (bench.withCopy number).Sound := by
  rw [Bench.withCopy]
  split
  · exact sound.withValue _ _
  · split
    · exact sound.withValue _ _
    · exact sound.withElement fun cell refers => sound.cell_lt refers

end Bench.Sound

theorem size_withValue (bench : Bench) (tracked : ValueSet) (value : AbstractValue) :
    (bench.withValue tracked value).elements.size = bench.elements.size + 1 := by
  cases value <;> simp [Bench.withValue, Bench.withElement, Bench.withCell]

theorem size_withCopy (bench : Bench) (number : Nat) :
    (bench.withCopy number).elements.size = bench.elements.size + 1 := by
  rw [Bench.withCopy]
  split
  · exact size_withValue _ _ _
  · split
    · exact size_withValue _ _ _
    · simp [Bench.withElement]

section

variable {known : List Nat}

theorem minds_make (tracked : ValueSet) (value : AbstractValue) :
    Minds known (make tracked value) ([·]) := by
  intro bench number after sound _ done
  rw [run_make] at done
  cases done
  refine ⟨sound.withValue tracked value, ?_, ?_⟩ <;> simp [size_withValue]

theorem minds_copy (number : Nat) : Minds known (copy number) ([·]) := by
  intro bench copied after sound _ done
  rw [run_copy] at done
  cases done
  refine ⟨sound.withCopy number, ?_, ?_⟩ <;> simp [size_withCopy]

/-- Work that only looks at the bench. -/
theorem minds_of_reads {work : Work α} {look : Bench → α}
    (reads : ∀ bench, work.run bench = .ok (look bench, bench)) :
    Minds known work (fun _ => []) := by
  intro bench result after sound _ done
  rw [reads] at done
  cases done
  exact ⟨sound, Nat.le_refl _, by simp⟩

theorem minds_element (number : Nat) : Minds known (element number) (fun _ => []) :=
  minds_of_reads fun bench => run_element bench number

theorem minds_value (number : Nat) : Minds known (value number) (fun _ => []) :=
  minds_of_reads fun bench => run_value bench number

theorem minds_stackOf (pile : Pile) : Minds known (stackOf pile) (fun _ => []) :=
  minds_of_reads fun _ => rfl

theorem minds_replace (number : Nat) (value : AbstractValue) :
    Minds known (replace number value) (fun _ => []) := by
  intro bench result after sound _ done
  -- An element that refers to what is there takes the place of another one.
  have replaced : ∀ {middle : Bench} {e : Element}, middle.Sound →
      (∀ cell ∈ e.cell?, cell < middle.cells.size) →
      Bench.Sound { middle with elements := middle.elements.setIfInBounds number e } := by
    intro middle e middle_sound refers
    refine ⟨fun f member => ?_, ?_, ?_⟩
    · rcases Array.mem_or_eq_of_mem_setIfInBounds member with old | rfl
      · exact middle_sound.cells f old
      · exact refers
    · simpa using middle_sound.named
    · simpa using middle_sound.piled
  cases value with
  | top =>
      cases done
      exact ⟨replaced sound (by simp), by simp, by simp⟩
  | among values =>
      cases done
      exact ⟨replaced (sound.withCell values) (by simp [Bench.withCell]), by simp, by simp⟩

theorem minds_extend (number : Nat) (v : Value) :
    Minds known (extend number v) (fun _ => []) := by
  refine (minds_element number).bind fun old => (minds_value number).bind fun held => ?_
  split
  · exact .throw _
  · intro bench result after sound _ done
    cases done
    refine ⟨⟨?_, sound.named, sound.piled⟩, Nat.le_refl _, by simp⟩
    simpa using sound.cells
  · exact .answer _

/-! ## Names -/

theorem run_get (bench : Bench) : (get : Work Bench).run bench = .ok (bench, bench) := rfl

theorem run_named (bench : Bench) (name : String) :
    (named name).run bench = (bench.elementNames.get? name).elim (.error (.unknownName name))
      fun number => .ok (number, bench) := by
  rw [named, run_bind_of_ok (run_get bench)]
  cases bench.elementNames.get? name <;> rfl

theorem run_pile (bench : Bench) (name : String) :
    (pile name).run bench = (bench.pileNames.get? name).elim (.error (.unknownName name))
      fun p => .ok (p, bench) := by
  rw [pile, run_bind_of_ok (run_get bench)]
  cases bench.pileNames.get? name <;> rfl

/-- Work that looks something up, and is refused if it is not there. -/
theorem minds_of_lookup {work : Work α} {look : Bench → Option α} {failure : Failure}
    {found : α → List Nat}
    (looks : ∀ bench, work.run bench = (look bench).elim (.error failure) fun a => .ok (a, bench))
    (refers : ∀ {bench a}, bench.Sound → look bench = some a →
      ∀ n ∈ found a, n < bench.elements.size) : Minds known work found := by
  intro bench result after sound _ done
  rw [looks] at done
  cases there : look bench with
  | none =>
      rw [there] at done
      cases done
  | some a =>
      rw [there] at done
      cases done
      exact ⟨sound, Nat.le_refl _, refers sound there⟩

theorem minds_named (name : String) : Minds known (named name) ([·]) :=
  minds_of_lookup (fun bench => run_named bench name) fun sound there => by
    simpa using sound.named name _ there

theorem minds_pile (name : String) : Minds known (pile name) (·.slots) :=
  minds_of_lookup (fun bench => run_pile bench name) fun sound there => sound.piled name _ there

theorem minds_nameElement (name? : Option String) {number : Nat} (member : number ∈ known) :
    Minds known (nameElement name? number) (fun _ => []) := by
  cases name? with
  | none => exact .answer _
  | some name =>
      intro bench result after sound inside done
      cases done
      refine ⟨⟨sound.cells, fun other n named => ?_, sound.piled⟩, Nat.le_refl _, by simp⟩
      rw [Std.TreeMap.get?_eq_getElem?, Std.TreeMap.getElem?_insert] at named
      split at named
      · cases named
        exact inside number member
      · exact sound.named other n named

theorem minds_namePile (name? : Option String) {p : Pile} (subset : p.slots ⊆ known) :
    Minds known (namePile name? p) (fun _ => []) := by
  cases name? with
  | none => exact .answer _
  | some name =>
      intro bench result after sound inside done
      cases done
      refine ⟨⟨sound.cells, sound.named, fun other q named => ?_⟩, Nat.le_refl _, by simp⟩
      rw [Std.TreeMap.get?_eq_getElem?, Std.TreeMap.getElem?_insert] at named
      split at named
      · cases named
        exact fun n member => inside n (subset member)
      · exact sound.piled other q named

theorem minds_answerElement (target? : Option String) {number : Nat} (member : number ∈ known) :
    Minds known (answerElement target? number) (fun _ => []) :=
  (minds_nameElement target? member).bind fun _ => (minds_value number).bind fun _ =>
    .answer _

theorem minds_answerPile (target? : Option String) {p : Pile} (subset : p.slots ⊆ known) :
    Minds known (answerPile target? p) (fun _ => []) :=
  (minds_namePile target? subset).bind fun _ => (minds_stackOf p).bind fun _ =>
    .answer _

/-! ## Stacks -/

theorem minds_itemFor (p : Pile) (item : Item) : Minds known (itemFor p item) ([·]) := by
  cases item with
  | element name => exact minds_named name
  | value v =>
      rw [itemFor]
      exact minds_make _ _

theorem minds_topOf {p : Pile} (subset : p.slots ⊆ known) :
    Minds known (topOf p) (fun found => found.1 :: found.2) := by
  rw [topOf]
  split
  · rename_i number rest slots_eq
    rw [slots_eq] at subset
    exact .pure (List.cons_subset.2 ⟨subset List.mem_cons_self, subset⟩)
  · exact (minds_make _ _).bind fun number => .pure (by simp)

theorem minds_place (depth : Nat) (position : Int) :
    Minds known (Stack.place depth position : Work Nat) (fun _ => []) := by
  intro bench n after sound _ done
  cases placed : Stack.place depth position with
  | error failure =>
      rw [placed] at done
      cases done
  | ok n =>
      rw [placed] at done
      cases done
      exact ⟨sound, Nat.le_refl _, by simp⟩

theorem minds_slotAt {p : Pile} (subset : p.slots ⊆ known) (position : Int) :
    Minds known (slotAt p position) ([·]) := by
  refine (minds_place _ _).bind fun n => ?_
  split
  · rename_i number there
    refine .pure ?_
    simpa using subset (List.mem_of_getElem? there)
  · exact .throw _

/-- Each of the elements that are made has a number of its own. -/
theorem minds_makeUnknown (tracked : ValueSet) (depth : Nat) :
    Minds known (makeUnknown tracked depth) (fun fresh => (List.range (depth + 1)).map fresh) := by
  have made : ∀ (list : List Nat) (bench after : Bench), bench.Sound →
      (forIn list PUnit.unit fun _ _ => do
        let _ ← make tracked .unknown
        pure (ForInStep.yield PUnit.unit) : Work PUnit).run bench = .ok (PUnit.unit, after) →
      after.Sound ∧ after.elements.size = bench.elements.size + list.length := by
    intro list
    induction list with
    | nil =>
        intro bench after sound done
        cases done
        exact ⟨sound, rfl⟩
    | cons i list ih =>
        intro bench after sound done
        rw [List.forIn_cons] at done
        obtain ⟨after_sound, size_eq⟩ := ih _ after (sound.withValue tracked .unknown) done
        refine ⟨after_sound, ?_⟩
        rw [size_eq, size_withValue, List.length_cons]
        omega
  intro bench fresh after sound _ done
  obtain ⟨start, middle, looked, done⟩ := run_bind_eq_ok_iff.1 done
  cases looked
  obtain ⟨nothing, last, loop_done, done⟩ := run_bind_eq_ok_iff.1 done
  cases done
  obtain ⟨after_sound, size_eq⟩ := made _ bench after sound loop_done
  rw [List.length_range] at size_eq
  refine ⟨after_sound, by omega, fun n member => ?_⟩
  obtain ⟨i, i_mem, rfl⟩ := List.mem_map.1 member
  have i_lt := List.mem_range.1 i_mem
  omega

theorem minds_swapped {p : Pile} (subset : p.slots ⊆ known) (n : Int) :
    Minds known (swapped p n) id := by
  rw [swapped]
  split
  · refine (minds_place _ _).bind fun place => .pure fun number member => ?_
    exact subset (Stack.mem_exchange member)
  · refine (minds_makeUnknown _ _).bind fun fresh => .pure fun number member => ?_
    rcases Stack.mem_sink member with old | ⟨i, le, rfl⟩
    · exact List.mem_append_right _ (subset old)
    · exact List.mem_append_left _ (List.mem_map_of_mem (List.mem_range.2 (by omega)))

theorem minds_duplicated {p : Pile} (subset : p.slots ⊆ known) (n : Int) :
    Minds known (duplicated p n) id := by
  have pushed : ∀ number, number :: p.slots ⊆ [number] ++ known := fun number =>
    List.cons_subset_cons number subset
  rw [duplicated]
  split
  · exact (minds_slotAt subset _).bind fun number => .pure (pushed number)
  · exact (minds_make _ _).bind fun number => .pure (pushed number)

theorem minds_mergeOnto {high low : List Nat} (subset : high ⊆ known) :
    Minds known (mergeOnto high low) id := by
  induction high, low using mergeOnto.induct generalizing known with
  | case1 high =>
      rw [mergeOnto]
      exact .pure subset
  | case2 =>
      rw [mergeOnto]
      exact .pure (List.nil_subset _)
  | case3 a high b low ih =>
      obtain ⟨-, high_subset⟩ := List.cons_subset.1 subset
      rw [mergeOnto]
      refine (minds_element a).bind fun e => (minds_value a).bind fun v =>
        (minds_value b).bind fun w => (minds_make _ _).bind fun merged =>
          (ih ?_).bind fun rest => .pure ?_
      · intro n member
        simp [high_subset member]
      · intro n member
        rcases List.mem_cons.1 member with rfl | member
        · simp
        · exact List.mem_append_left _ member

theorem minds_merged (p q : Pile) : Minds known (merged p q) id := by
  rw [merged]
  dsimp only
  refine (Minds.mapM (fun known n => minds_copy n) _).bind fun copies => minds_mergeOnto ?_
  simp

/-! ## Steps -/

/-- Whatever a step does, all that it names is there. -/
theorem minds_perform (step : Step) : Minds [] (perform step) (fun _ => []) := by
  cases step with
  | makeElement tracked values target? =>
      exact (minds_make _ _).bind fun n => minds_answerElement _ (by simp)
  | extend e v =>
      exact (minds_named e).bind fun n => (minds_extend n v).bind fun _ =>
        (minds_value n).bind fun _ => .answer _
  | replace e values? =>
      exact (minds_named e).bind fun n => (minds_replace n _).bind fun _ =>
        (minds_value n).bind fun _ => .answer _
  | look e =>
      exact (minds_named e).bind fun n => (minds_value n).bind fun _ => .answer _
  | and e f target? | merge e f target? =>
      exact (minds_named e).bind fun n => (minds_element n).bind fun _ => (minds_value n).bind fun _ =>
        (minds_named f).bind fun m => (minds_value m).bind fun _ => (minds_make _ _).bind fun r =>
          minds_answerElement _ (by simp)
  | areEqual e f =>
      exact (minds_named e).bind fun n => (minds_value n).bind fun _ => (minds_named f).bind fun m =>
        (minds_value m).bind fun _ => .answer _
  | copy e target? =>
      exact (minds_named e).bind fun n => (minds_copy n).bind fun m =>
        minds_answerElement _ (by simp)
  | describe e =>
      exact (minds_named e).bind fun n => (minds_value n).bind fun _ => .answer _
  | makeStack tracked target? => exact minds_answerPile _ (List.nil_subset _)
  | push s item | insert s item =>
      refine (minds_pile s).bind fun old => (minds_itemFor old item).bind fun n =>
        minds_answerPile _ ?_
      intro m member
      simpa [or_comm] using member
  | pop s target? =>
      refine (minds_pile s).bind fun old => (minds_topOf (by simp)).bind fun found => ?_
      obtain ⟨n, slots⟩ := found
      refine (minds_namePile _ fun m member => ?_).bind fun _ =>
        (minds_nameElement _ (by simp)).bind fun _ => (minds_value n).bind fun _ =>
          (minds_stackOf _).bind fun _ => .answer _
      simp [List.mem_of_mem_tail member]
  | top s target? =>
      refine (minds_pile s).bind fun old => (minds_topOf (by simp)).bind fun found => ?_
      obtain ⟨n, slots⟩ := found
      exact (minds_namePile _ (by simp)).bind fun _ => (minds_nameElement _ (by simp)).bind fun _ =>
        (minds_value n).bind fun _ => (minds_stackOf _).bind fun _ => .answer _
  | get s index target? =>
      exact (minds_pile s).bind fun old => (minds_slotAt (by simp) index).bind fun n =>
        minds_answerElement _ (by simp)
  | swap s n =>
      exact (minds_pile s).bind fun old => (minds_swapped (by simp) n).bind fun slots =>
        minds_answerPile _ (by simp)
  | dup s n =>
      exact (minds_pile s).bind fun old => (minds_duplicated (by simp) n).bind fun slots =>
        minds_answerPile _ (by simp)
  | setElements s elements =>
      refine (minds_pile s).bind fun old =>
        (Minds.mapM (fun _ name => minds_named name) elements).bind fun slots =>
          minds_answerPile _ ?_
      simp
  | copyStack s source =>
      refine (minds_pile s).bind fun old => (minds_pile source).bind fun copied =>
        (Minds.mapM (fun _ n => minds_copy n) copied.slots).bind fun slots =>
          minds_answerPile _ ?_
      simp
  | mergeStacks s t target? =>
      exact (minds_pile s).bind fun first => (minds_pile t).bind fun second =>
        (minds_merged first second).bind fun slots => minds_answerPile _ (by simp)
  | joinStacks names tracked target? =>
      refine (Minds.mapM (fun _ name => (minds_pile name).bind fun p => minds_stackOf p) names).bind
        fun group => (Minds.mapM (fun _ v => minds_make _ v) _).bind fun slots =>
          minds_answerPile _ ?_
      simp
  | areEqualStacks s t =>
      exact (minds_pile s).bind fun p => (minds_stackOf p).bind fun _ => (minds_pile t).bind fun q =>
        (minds_stackOf q).bind fun _ => .answer _
  | depth s => exact (minds_pile s).bind fun p => .answer _
  | describeStack s | lookStack s =>
      exact (minds_pile s).bind fun p => (minds_stackOf p).bind fun _ => .answer _

end

theorem Bench.Sound.run {bench : Bench} (sound : bench.Sound) (step : Step) :
    (Workbench.run bench step).2.Sound := by
  rw [Workbench.run]
  split
  · rename_i answer after done
    exact (minds_perform step bench answer after sound (by simp) done).1
  · exact sound

/-- On a bench that was empty in the beginning every number refers to something. -/
theorem sound_afterAll (steps : List Step) : (Bench.afterAll {} steps).Sound := by
  suffices ∀ bench : Bench, bench.Sound → (bench.afterAll steps).Sound from this {} .empty
  induction steps with
  | nil => exact fun bench sound => sound
  | cons step steps ih => exact fun bench sound => ih _ (sound.run step)

end Workbench
end EvmFlow
