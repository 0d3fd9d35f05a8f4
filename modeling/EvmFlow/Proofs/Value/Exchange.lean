import EvmFlow.Value.Transfer

/-!
# Exchanges below the bottom

An exchange may reach further down than a stack is high.  The elements that nobody has seen then
fill the gap, and one would expect the top to change places with the last of them.  But the top is
only copied there and stays where it is.  So the result is that of an exchange if the stack is high
enough or nothing is known of its top, and in no other case (`swap_exchanges_iff`).
-/

namespace EvmFlow
namespace Stack

variable {α β : Type}

/-- The stack with fresh elements put below its bottom until it reaches `n` places below its top. -/
def padded (fresh : α) (n : Nat) (s : List α) : List α :=
  s ++ List.replicate (n + 1 - s.length) fresh

/-- The top and the element `n` places below it have changed places, and the others have not moved.
-/
structure Exchanged (n : Nat) (before after : List α) : Prop where
  top : after[0]? = before[n]?
  below : after[n]? = before[0]?
  others : ∀ i, i ≠ 0 → i ≠ n → after[i]? = before[i]?

/-! ## Padding -/

theorem padded_of_lt {fresh : α} {n : Nat} {s : List α} (high : n < s.length) :
    padded fresh n s = s := by
  rw [padded, Nat.sub_eq_zero_of_le high, List.replicate_zero, List.append_nil]

theorem length_padded (fresh : α) (n : Nat) (s : List α) :
    (padded fresh n s).length = max (n + 1) s.length := by
  rw [padded, List.length_append, List.length_replicate]
  omega

theorem getElem?_padded_zero (fresh : α) (n : Nat) (s : List α) :
    (padded fresh n s)[0]? = some (s.headD fresh) := by
  cases s with
  | nil => simp [padded]
  | cons a s => rfl

/-- What was put below the bottom is fresh. -/
theorem getElem?_padded_self {fresh : α} {n : Nat} {s : List α} (short : s.length ≤ n) :
    (padded fresh n s)[n]? = some fresh := by
  rw [padded, List.getElem?_append_right short, List.getElem?_replicate_of_lt (by omega)]

/-! ## Exchanges -/

theorem exchanged_exchange {n : Nat} {s : List α} (high : n < s.length) :
    Exchanged n s (exchange n s) := by
  cases s with
  | nil => cases high
  | cons a s =>
      have there : (a :: s)[n]? = some (a :: s)[n] := List.getElem?_eq_getElem high
      have exchange_eq : exchange n (a :: s) = (((a :: s)[n]) :: s).set n a := by
        simp only [exchange, List.head?_cons, there, List.set_cons_zero]
      rw [exchange_eq]
      refine ⟨?_, ?_, ?_⟩
      · cases n with
        | zero => simp
        | succ n => simp [there]
      · rw [List.getElem?_set_self (by simpa using high), List.getElem?_cons_zero]
      · intro i below_top elsewhere
        rw [List.getElem?_set_ne (Ne.symm elsewhere)]
        obtain ⟨j, rfl⟩ := Nat.exists_eq_succ_of_ne_zero below_top
        rfl

theorem length_exchange (n : Nat) (s : List α) : (exchange n s).length = s.length := by
  rw [exchange]
  split <;> simp

theorem sink_cons (fresh a : α) {n : Nat} {s : List α} (short : (a :: s).length ≤ n) :
    sink (fun _ => fresh) n (a :: s) =
      a :: s ++ List.replicate (n - (a :: s).length) fresh ++ [a] := by
  simp only [sink, ensured, short, ↓reduceIte, List.head?_cons, Option.toList_some,
    List.map_const', List.length_range]

/-- Below the bottom the top is copied down, and stays in place. -/
theorem sink_eq_set (fresh : α) {n : Nat} (positive : 1 ≤ n) {s : List α} (short : s.length ≤ n) :
    sink (fun _ => fresh) n s = (padded fresh n s).set n (s.headD fresh) := by
  have of_cons : ∀ {a : α} {s : List α}, (a :: s).length ≤ n →
      sink (fun _ => fresh) n (a :: s) = (padded fresh n (a :: s)).set n a := by
    intro a s short
    let front := a :: s ++ List.replicate (n - (a :: s).length) fresh
    have place : front.length = n := by
      rw [List.length_append, List.length_replicate]
      omega
    have padded_eq : padded fresh n (a :: s) = front ++ [fresh] := by
      have gap : n + 1 - (a :: s).length = n - (a :: s).length + 1 := by omega
      rw [padded, gap, List.replicate_succ', ← List.append_assoc]
    rw [sink_cons fresh a short, padded_eq, ← place, List.set_append_right _ _ (Nat.le_refl _),
      Nat.sub_self, List.set_cons_zero, place]
  cases s with
  | nil =>
      -- An empty stack gets its top, a fresh element, when the top is looked at.
      have padded_eq : padded fresh n [] = padded fresh n [fresh] := by
        simp only [padded, List.length_nil, Nat.sub_zero, List.length_singleton, Nat.add_sub_cancel,
          List.replicate_succ, List.nil_append, List.singleton_append]
      rw [padded_eq]
      exact of_cons positive
  | cons a s => exact of_cons short

theorem length_swap (fresh : α) {n : Nat} (positive : 1 ≤ n) (s : List α) :
    (swap (fun _ => fresh) n s).length = (padded fresh n s).length := by
  rw [swap]
  split
  · rename_i high
    rw [length_exchange, padded_of_lt high]
  · rename_i short
    rw [sink_eq_set fresh positive (Nat.le_of_not_lt short), List.length_set]

theorem exchanged_swap_iff (fresh : α) {n : Nat} (positive : 1 ≤ n) (s : List α) :
    Exchanged n (padded fresh n s) (swap (fun _ => fresh) n s) ↔
      n < s.length ∨ s.headD fresh = fresh := by
  rw [swap]
  split
  · rename_i high
    rw [padded_of_lt high]
    exact iff_of_true (exchanged_exchange high) (.inl high)
  · rename_i short
    have short_le := Nat.le_of_not_lt short
    have zero_ne : n ≠ 0 := Nat.ne_of_gt positive
    have reaches : n < (padded fresh n s).length := by
      rw [length_padded]
      omega
    rw [sink_eq_set fresh positive short_le, or_iff_right short]
    constructor
    · intro exchanged
      have top := exchanged.top
      rw [List.getElem?_set_ne zero_ne, getElem?_padded_zero, getElem?_padded_self short_le] at top
      exact Option.some.inj top
    · intro unknown
      refine ⟨?_, ?_, ?_⟩
      · rw [List.getElem?_set_ne zero_ne, getElem?_padded_zero, getElem?_padded_self short_le,
          unknown]
      · rw [List.getElem?_set_self reaches, getElem?_padded_zero]
      · intro i _ elsewhere
        rw [List.getElem?_set_ne (Ne.symm elsewhere)]

/-! ## Elements and what is known of them -/

theorem map_exchange (view : α → β) (n : Nat) (s : List α) :
    (exchange n s).map view = exchange n (s.map view) := by
  simp only [exchange, List.head?_map, List.getElem?_map]
  cases s.head? with
  | none => rfl
  | some a =>
      cases s[n]? with
      | none => rfl
      | some b => simp [List.map_set]

theorem map_sink (view : α → β) (fresh : Nat → α) (n : Nat) (s : List α) :
    (sink fresh n s).map view = sink (fun i => view (fresh i)) n (s.map view) := by
  have ensured_eq : (ensured (fresh 0) s).map view = ensured (view (fresh 0)) (s.map view) := by
    cases s <;> rfl
  have length_eq :
      (ensured (view (fresh 0)) (s.map view)).length = (ensured (fresh 0) s).length := by
    rw [← ensured_eq, List.length_map]
  simp only [sink, List.map_append, ensured_eq, length_eq, List.map_map, Function.comp_def]
  congr 1
  split
  · rw [← ensured_eq, List.head?_map]
    cases (ensured (fresh 0) s).head? <;> rfl
  · rfl

/-- What is known after an exchange depends only on what was known before. -/
theorem map_swap (view : α → β) (fresh : Nat → α) (n : Nat) (s : List α) :
    (swap fresh n s).map view = swap (fun i => view (fresh i)) n (s.map view) := by
  simp only [swap, List.length_map, apply_ite (List.map view), map_exchange, map_sink]

end Stack

/-- An exchange on a stack of elements of any kind, of which only what is known of them matters.  It
leaves as many elements as a stack that was first padded with unknown elements until it is high
enough.  It is an exchange on the padded stack if and only if the stack was high enough or its top
is unknown itself; otherwise it copies the top down to the last unknown element and leaves it in
place as well. -/
theorem swap_exchanges_iff {α : Type} (view : α → AbstractValue) (fresh : Nat → α)
    (unknown : ∀ i, view (fresh i) = .unknown) (s : List α) (n : Nat) (positive : 1 ≤ n) :
    let known := s.map view
    let padded := Stack.padded .unknown n known
    let swapped := (Stack.swap fresh n s).map view
    swapped.length = padded.length ∧
      (Stack.Exchanged n padded swapped ↔ n < s.length ∨ known.headD .unknown = .unknown) ∧
      (s.length ≤ n → swapped = padded.set n (known.headD .unknown)) := by
  intro known padded swapped
  have swapped_eq : swapped = Stack.swap (fun _ => .unknown) n known := by
    simp only [swapped, Stack.map_swap, unknown, known]
  have length_eq : known.length = s.length := List.length_map view
  rw [swapped_eq, ← length_eq]
  refine ⟨Stack.length_swap _ positive known, Stack.exchanged_swap_iff _ positive known, ?_⟩
  intro short
  rw [Stack.swap, if_neg (Nat.not_lt.2 short), Stack.sink_eq_set _ positive short]

theorem known_pair_exchanged :
    let pair : AbstractStack := [.among (.single (some 1)), .among (.single (some 2))]
    1 < pair.length ∧
      Stack.Exchanged 1 (Stack.padded .unknown 1 pair) (Stack.swap (fun _ => .unknown) 1 pair) := by
  intro pair
  have high : 1 < pair.length := by decide
  obtain ⟨-, exchanged_iff, -⟩ :=
    swap_exchanges_iff id (fun _ => .unknown) (fun _ => rfl) pair 1 (Nat.le_refl 1)
  rw [List.map_id, List.map_id] at exchanged_iff
  exact ⟨high, exchanged_iff.2 (.inl high)⟩

/-- A known element does not give way to the unknown element below it. -/
theorem lone_element_stays :
    let lone : AbstractStack := [.among (.single (some 1))]
    Stack.padded .unknown 1 lone = [.among (.single (some 1)), .unknown] ∧
      Stack.swap (fun _ => .unknown) 1 lone =
        [.among (.single (some 1)), .among (.single (some 1))] ∧
      ¬ Stack.Exchanged 1 (Stack.padded .unknown 1 lone)
        (Stack.swap (fun _ => .unknown) 1 lone) := by
  intro lone
  refine ⟨rfl, by decide, fun exchanged => ?_⟩
  exact absurd exchanged.top (by decide)

end EvmFlow
