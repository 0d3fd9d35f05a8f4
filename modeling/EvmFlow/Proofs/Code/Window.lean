import EvmFlow.Code.Metadata

/-!
# Sequences cut at windows

Replacing the windows of a sequence changes nothing exactly if there is none, and keeps the length
if the filling is as long as a window.  Placeholders and metadata trailers are the two kinds of
windows: here they are described by what stands in them, not by the test that finds them.
-/

namespace EvmFlow
namespace Window

variable {α : Type} {size : Nat} {fits : List α → Bool}

/-- No window begins anywhere in a sequence. -/
def Free (fits : List α → Bool) (sequence : List α) : Prop :=
  ∀ rest, rest <:+ sequence → fits rest = false

theorem free_cons_iff {a : α} {rest : List α} :
    Free fits (a :: rest) ↔ fits (a :: rest) = false ∧ Free fits rest := by
  simp only [Free, List.suffix_cons_iff, forall_eq_or_imp]

theorem cut_cons_of_misfit {a : α} {rest : List α} (misfit : fits (a :: rest) = false) :
    cut size fits (a :: rest) = .single a :: cut size fits rest := by
  simp [cut, cutFrom, misfit]

/-- Passing over the rest of a window leads to what follows it. -/
theorem cutFrom_append {front : List α} (rest : List α) {skip : Nat} (long : front.length = skip) :
    cutFrom size fits skip (front ++ rest) = cut size fits rest := by
  subst long
  induction front with
  | nil => rfl
  | cons a front ih => exact ih

theorem cut_append_of_fits {window rest : List α} (long : window.length = size)
    (positive : 0 < size) (fit : fits (window ++ rest) = true) :
    cut size fits (window ++ rest) = .window window :: cut size fits rest := by
  cases window with
  | nil =>
    rw [List.length_nil] at long
    omega
  | cons a window =>
    rw [List.cons_append] at fit ⊢
    have after_first : window.length = size - 1 := by
      rw [← long, List.length_cons, Nat.add_sub_cancel]
    have taken : (a :: (window ++ rest)).take size = a :: window := List.take_left' long
    simp only [cut, cutFrom, fit, if_true, taken]
    rw [cutFrom_append rest after_first, cut]

theorem found_cut_of_free {sequence : List α} (free : Free fits sequence) :
    found (cut size fits sequence) = [] := by
  induction sequence with
  | nil => rfl
  | cons a rest ih =>
    obtain ⟨misfit, free_rest⟩ := free_cons_iff.mp free
    rw [cut_cons_of_misfit misfit]
    exact ih free_rest

section Replaced

variable {filling : List α}

theorem replaced_cut_cons_of_misfit {a : α} {rest : List α} (misfit : fits (a :: rest) = false) :
    replaced filling (cut size fits (a :: rest)) =
      a :: replaced filling (cut size fits rest) := by
  rw [cut_cons_of_misfit misfit]
  rfl

theorem replaced_cut_cons_of_fits {a : α} {rest : List α} (fit : fits (a :: rest) = true) :
    replaced filling (cut size fits (a :: rest)) =
      filling ++ replaced filling (cutFrom size fits (size - 1) rest) := by
  simp [cut, cutFrom, fit, replaced]

theorem replaced_cut_append_of_fits {window rest : List α} (long : window.length = size)
    (positive : 0 < size) (fit : fits (window ++ rest) = true) :
    replaced filling (cut size fits (window ++ rest)) =
      filling ++ replaced filling (cut size fits rest) := by
  rw [cut_append_of_fits long positive fit]
  rfl

/-- Elements at which no window begins stay as they are. -/
theorem replaced_cut_append_of_misfit {front rest : List α}
    (misfit : ∀ back, back <:+ front → back ≠ [] → fits (back ++ rest) = false) :
    replaced filling (cut size fits (front ++ rest)) =
      front ++ replaced filling (cut size fits rest) := by
  induction front with
  | nil => rfl
  | cons a front ih =>
    have misfit_first : fits (a :: (front ++ rest)) = false :=
      misfit (a :: front) List.suffix_rfl (List.cons_ne_nil a front)
    have misfit_later : ∀ back, back <:+ front → back ≠ [] → fits (back ++ rest) = false :=
      fun back ends => misfit back (ends.trans (List.suffix_cons a front))
    rw [List.cons_append, replaced_cut_cons_of_misfit misfit_first, ih misfit_later]
    rfl

/-- Nothing changes exactly if there is no window, provided that the filling shows: it begins with
an element with which no window begins. -/
theorem replaced_cut_eq_self_iff {sequence : List α} (none_empty : fits [] = false)
    (shows : ∀ a rest, fits (a :: rest) = true → ∃ b others, filling = b :: others ∧ b ≠ a) :
    replaced filling (cut size fits sequence) = sequence ↔ Free fits sequence := by
  induction sequence with
  | nil => simpa [cut, cutFrom, replaced, Free] using none_empty
  | cons a rest ih =>
    rw [free_cons_iff]
    cases fit : fits (a :: rest) with
    | false => simp [replaced_cut_cons_of_misfit fit, ih]
    | true =>
      obtain ⟨b, others, rfl, differs⟩ := shows a rest fit
      simp [replaced_cut_cons_of_fits fit, differs]

/-- Windows that are as long as the filling leave the length as it is. -/
theorem length_replaced_cut {sequence : List α} (filled : filling.length = size)
    (long : ∀ rest, fits rest = true → size ≤ rest.length) (positive : 0 < size) :
    (replaced filling (cut size fits sequence)).length = sequence.length := by
  -- inside a window the elements still to be passed over count for nothing
  suffices passing : ∀ skip, (replaced filling (cutFrom size fits skip sequence)).length =
      sequence.length - skip from passing 0
  induction sequence with
  | nil => simp [cutFrom, replaced]
  | cons a rest ih =>
    intro skip
    cases skip with
    | succ skip => simpa [cutFrom] using ih skip
    | zero =>
      cases fit : fits (a :: rest) with
      | false => simpa [cutFrom, fit, replaced] using ih 0
      | true =>
        have fits_in := long _ fit
        have passed := ih (size - 1)
        simp only [List.length_cons] at fits_in
        simp only [cutFrom, fit, if_true, replaced, List.flatMap_cons, List.length_append,
          List.length_cons, filled] at passed ⊢
        omega

end Replaced

end Window

namespace Placeholder

variable {α : Type} {underscore newline : α}

/-- A placeholder stands in a sequence: two underscores, 36 elements on one line, and two more
underscores. -/
def Occurs (underscore newline : α) (sequence : List α) : Prop :=
  ∃ front body back,
    sequence = front ++ underscore :: underscore :: (body ++ underscore :: underscore :: back) ∧
      body.length = 36 ∧ newline ∉ body

/-- Without an underscore there is no placeholder. -/
theorem not_occurs_of_notMem {sequence : List α} (absent : underscore ∉ sequence) :
    ¬ Occurs underscore newline sequence := by
  rintro ⟨front, body, back, rfl, -, -⟩
  simp at absent

variable [BEq α] [LawfulBEq α]

theorem fits_iff {sequence : List α} :
    fits underscore newline sequence = true ↔ ∃ body back,
      sequence = underscore :: underscore :: (body ++ underscore :: underscore :: back) ∧
        body.length = 36 ∧ newline ∉ body := by
  constructor
  · intro fit
    rcases sequence with _ | ⟨a, _ | ⟨b, rest⟩⟩
    · cases fit
    · cases fit
    · rcases ending : rest.drop 36 with _ | ⟨c, _ | ⟨d, back⟩⟩ <;> simp [fits, ending] at fit
      obtain ⟨⟨rfl, rfl⟩, ⟨long, one_line⟩, rfl, rfl⟩ := fit
      refine ⟨rest.take 36, back, ?_, by simpa using long, fun broken => one_line _ broken rfl⟩
      rw [← ending, List.take_append_drop]
  · rintro ⟨body, back, rfl, long, one_line⟩
    simp only [fits, List.take_left' long, List.drop_left' long, long, beq_self_eq_true,
      Bool.and_true, Bool.true_and, List.all_eq_true, bne_iff_ne]
    rintro b b_mem rfl
    exact one_line b_mem

/-- A placeholder begins with an underscore. -/
theorem fits_cons_of_ne {a : α} {rest : List α} (differs : a ≠ underscore) :
    fits underscore newline (a :: rest) = false := by
  rw [Bool.eq_false_iff]
  intro fit
  obtain ⟨body, back, shape, -⟩ := fits_iff.mp fit
  exact differs (List.cons.inj shape).1

theorem length_of_fits {sequence : List α} (fit : fits underscore newline sequence = true) :
    size ≤ sequence.length := by
  obtain ⟨body, back, rfl, long, -⟩ := fits_iff.mp fit
  simp only [size, List.length_cons, List.length_append]
  omega

theorem free_iff_not_occurs {sequence : List α} :
    Window.Free (fits underscore newline) sequence ↔ ¬ Occurs underscore newline sequence := by
  constructor
  · rintro free ⟨front, body, back, rfl, long, one_line⟩
    have misfit := free _ (List.suffix_append front _)
    rw [fits_iff.mpr ⟨body, back, rfl, long, one_line⟩] at misfit
    cases misfit
  · rintro absent rest ⟨front, rfl⟩
    rw [Bool.eq_false_iff]
    intro fit
    obtain ⟨body, back, rfl, long, one_line⟩ := fits_iff.mp fit
    exact absent ⟨front, body, back, rfl, long, one_line⟩

/-- It shows if a placeholder is filled with anything but underscores: nothing changes exactly if
there is none. -/
theorem replaced_cut_eq_self_iff {filling : α} (shows : filling ≠ underscore) {sequence : List α} :
    Window.replaced (List.replicate size filling)
        (Window.cut size (fits underscore newline) sequence) = sequence ↔
      ¬ Occurs underscore newline sequence := by
  rw [← free_iff_not_occurs]
  refine Window.replaced_cut_eq_self_iff rfl fun a rest fit => ?_
  obtain ⟨body, back, shape, -⟩ := fits_iff.mp fit
  obtain ⟨rfl, -⟩ := List.cons.inj shape
  exact ⟨filling, _, rfl, shows⟩

end Placeholder

namespace Metadata

/-- A trailer: the header, 32 bytes of any kind, the footer. -/
def IsTrailer (bytes : Code) : Prop :=
  ∃ hash, hash.length = 32 ∧ bytes = header ++ hash ++ footer

/-- What is left of code when, from left to right, each trailer is left out. -/
inductive Stripped : Code → Code → Prop
  | nil : Stripped [] []
  | trailer {bytes rest kept : Code} (is_trailer : IsTrailer bytes) (others : Stripped rest kept) :
      Stripped (bytes ++ rest) kept
  | byte {b : UInt8} {rest kept : Code}
      (none_begins : ∀ bytes, bytes <+: b :: rest → ¬ IsTrailer bytes)
      (others : Stripped rest kept) : Stripped (b :: rest) (b :: kept)

theorem fits_iff {code : Code} :
    fits code = true ↔ ∃ bytes rest, IsTrailer bytes ∧ code = bytes ++ rest := by
  simp only [fits, Bool.and_eq_true, List.isPrefixOf_iff_prefix]
  constructor
  · rintro ⟨⟨after, rfl⟩, back, ending⟩
    refine ⟨header ++ after.take 32 ++ footer, back, ⟨after.take 32, ?_, rfl⟩, ?_⟩
    · have bound := congrArg List.length ending
      simp [header, footer] at bound ⊢
      omega
    · have ends : footer ++ back = after.drop 32 := ending
      simp [List.append_assoc, ends]
  · rintro ⟨bytes, rest, ⟨hash, long, rfl⟩, rfl⟩
    refine ⟨⟨hash ++ footer ++ rest, by simp⟩, rest, ?_⟩
    have reached : (header ++ hash).length = 41 := by simp [header, long]
    rw [List.append_assoc (header ++ hash), List.drop_left' reached]

theorem length_of_isTrailer {trailer : Code} (is_trailer : IsTrailer trailer) :
    trailer.length = size := by
  obtain ⟨hash, long, rfl⟩ := is_trailer
  simp [header, footer, size, long]

/-- The code left is the code without its trailers. -/
theorem stripped_strip (code : Code) : Stripped code (strip code) := by
  suffices passing : ∀ skip, Stripped (code.drop skip)
      (Window.replaced [] (Window.cutFrom size fits skip code)) from passing 0
  induction code with
  | nil => simpa [Window.cutFrom, Window.replaced] using Stripped.nil
  | cons b rest ih =>
    intro skip
    cases skip with
    | succ skip => simpa [Window.cutFrom] using ih skip
    | zero =>
      cases fit : fits (b :: rest) with
      | false =>
        simp only [Window.cutFrom, fit, Bool.false_eq_true, if_false, List.drop_zero]
        refine .byte (fun bytes begins is_trailer => ?_) (ih 0)
        obtain ⟨back, divided⟩ := begins
        rw [fits_iff.mpr ⟨bytes, back, is_trailer, divided.symm⟩] at fit
        cases fit
      | true =>
        obtain ⟨bytes, back, is_trailer, divided⟩ := fits_iff.mp fit
        have reach := length_of_isTrailer is_trailer
        have remaining : rest.drop (size - 1) = back := by
          have dropped : (bytes ++ back).drop size = back := List.drop_left' reach
          rwa [← divided] at dropped
        have others := ih (size - 1)
        rw [remaining] at others
        simp only [Window.cutFrom, fit, if_true, List.drop_zero]
        rw [divided]
        exact .trailer is_trailer others

end Metadata
end EvmFlow
