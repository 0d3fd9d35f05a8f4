import EvmFlow.Proofs.Code.Conversion

/-!
# Code with trailers

Trailers stand between stretches of code that hold no header.  Their hashes may hold anything, even
headers and whole trailers, and they may follow one another at once.  Stripping removes exactly these
trailers: a header begins with a byte that does not come again in it, so that none reaches out of a
stretch into the trailer that follows.
-/

namespace EvmFlow
namespace Metadata

/-- Code made of stretches without a header, with a trailer between any two, and what is kept of it:
the stretches. -/
inductive Trailed : Code → Code → Prop
  | last {stretch : Code} (free : ¬ header <:+: stretch) : Trailed stretch stretch
  | trailer {stretch trailer rest kept : Code} (free : ¬ header <:+: stretch)
      (is_trailer : IsTrailer trailer) (others : Trailed rest kept) :
      Trailed (stretch ++ trailer ++ rest) (stretch ++ kept)

theorem header_prefix_of_isTrailer {trailer : Code} (is_trailer : IsTrailer trailer)
    (rest : Code) : header <+: trailer ++ rest := by
  obtain ⟨hash, -, rfl⟩ := is_trailer
  exact ⟨hash ++ footer ++ rest, by simp [List.append_assoc]⟩

theorem header_prefix_of_fits {code : Code} (fit : fits code = true) : header <+: code := by
  obtain ⟨trailer, rest, is_trailer, rfl⟩ := fits_iff.mp fit
  exact header_prefix_of_isTrailer is_trailer rest

/-- A header that begins in a stretch ends in it, if another header follows the stretch, or nothing. -/
theorem header_prefix_of_append {stretch rest : Code} (nonempty : stretch ≠ [])
    (follows : rest = [] ∨ header <+: rest) (begins : header <+: stretch ++ rest) :
    header <+: stretch := by
  obtain ⟨back, divided⟩ := begins
  rcases List.append_eq_append_iff.mp divided with ⟨extra, inside, -⟩ | ⟨reach, across, rest_eq⟩
  · exact ⟨extra, inside.symm⟩
  · cases reach with
    | nil => exact ⟨[], by rw [across, List.append_nil, List.append_nil]⟩
    | cons b reach =>
      -- the byte after the stretch belongs to both headers: it begins one, but not the other
      exfalso
      rcases follows with rfl | ⟨later, next⟩
      · cases rest_eq
      · have b_eq : 0xa1 = b := (List.cons.inj (next.trans rest_eq)).1
        cases stretch with
        | nil => exact nonempty rfl
        | cons a stretch =>
          have b_mem : b ∈ header.tail := by
            rw [across]
            simp
          subst b_eq
          exact absurd b_mem (by decide)

/-- A stretch without a header stays as it is. -/
theorem strip_stretch {stretch rest : Code} (free : ¬ header <:+: stretch)
    (follows : rest = [] ∨ header <+: rest) : strip (stretch ++ rest) = stretch ++ strip rest := by
  refine Window.replaced_cut_append_of_misfit fun back ends nonempty => ?_
  rw [Bool.eq_false_iff]
  intro fit
  have begins := header_prefix_of_append nonempty follows (header_prefix_of_fits fit)
  exact free (begins.isInfix.trans ends.isInfix)

/-- A trailer is removed, whatever its hash holds. -/
theorem strip_trailer {trailer : Code} (is_trailer : IsTrailer trailer) (rest : Code) :
    strip (trailer ++ rest) = strip rest :=
  Window.replaced_cut_append_of_fits (length_of_isTrailer is_trailer) (by decide)
    (fits_iff.mpr ⟨trailer, rest, is_trailer, rfl⟩)

theorem Trailed.strip_eq {code kept : Code} (trailed : Trailed code kept) : strip code = kept := by
  induction trailed with
  | @last stretch free =>
    have stripped := strip_stretch free (.inl rfl)
    rwa [List.append_nil, show strip [] = [] from rfl, List.append_nil] at stripped
  | @trailer stretch trailer rest kept free is_trailer others ih =>
    rw [List.append_assoc, strip_stretch free (.inr (header_prefix_of_isTrailer is_trailer rest)),
      strip_trailer is_trailer, ih]

end Metadata

theorem Source.notices_of_plain {bytes : Code} (plain : Source.IsPlain bytes) :
    Source.notices (.raw bytes) = [] := by
  have free := Placeholder.free_iff_not_occurs.mpr plain.2
  simp [Source.notices, Placeholder.cutBytes, Window.found_cut_of_free free]

/-- Removing the metadata of a contract whose code has trailers between stretches without a header
succeeds, if what is kept can be taken for nothing but code: it leaves the stretches, without the
trailers, and drops all that was worked out. -/
theorem trailers_removed_exactly (contract : Contract) (code kept : Code)
    (holds : contract.code = some code) (trailed : Metadata.Trailed code kept)
    (unmarked : ¬ [0x30, 0x78] <+: kept) (no_placeholder : ¬ Placeholder.Occurs 0x5f 0x0a kept) :
    contract.stripMetadata =
      { state :=
          { code := some kept
            layout := { instructions := [], blocks := [] }
            graph := {}
            functions := [] }
        notices := []
        failure := none } := by
  have plain : Source.IsPlain kept := ⟨unmarked, no_placeholder⟩
  have converted : Source.convert (.raw kept) = .ok (some kept) :=
    Source.convert_raw_eq_iff.mpr (Source.readBytes_eq_self_iff.mpr plain)
  simp only [Contract.stripMetadata, holds, trailed.strip_eq, Contract.setSource, converted,
    Source.notices_of_plain plain]
  rfl

/-- Code that ends as a header begins, a trailer whose hash begins with a header, a trailer whose hash
is all underscores, and more code. -/
def doubleTrailedCode : Code :=
  [0x60, 0xa1, 0x65] ++
    ([0xa1, 0x65, 0x62, 0x7a, 0x7a, 0x72, 0x30, 0x58, 0x20] ++
      (Metadata.header ++ List.replicate 23 0x29) ++ [0x00, 0x29]) ++
    ([0xa1, 0x65, 0x62, 0x7a, 0x7a, 0x72, 0x30, 0x58, 0x20] ++
      List.replicate 32 0x5f ++ [0x00, 0x29] ++ [0x00])

theorem doubleTrailedCode_stripped :
    Metadata.Trailed doubleTrailedCode [0x60, 0xa1, 0x65, 0x00] ∧
      Contract.stripMetadata
          { code := some doubleTrailedCode, layout := .ofCode doubleTrailedCode } =
        { state := { code := some [0x60, 0xa1, 0x65, 0x00] } } := by
  have trailed : Metadata.Trailed doubleTrailedCode [0x60, 0xa1, 0x65, 0x00] := by
    refine .trailer (by decide) ⟨Metadata.header ++ List.replicate 23 0x29, by decide, rfl⟩ ?_
    refine @Metadata.Trailed.trailer [] _ _ _ (by decide)
      ⟨List.replicate 32 0x5f, by decide, rfl⟩ ?_
    exact .last (by decide)
  refine ⟨trailed, trailers_removed_exactly _ _ _ rfl trailed (by decide) ?_⟩
  exact Placeholder.not_occurs_of_notMem (by decide)

end EvmFlow
