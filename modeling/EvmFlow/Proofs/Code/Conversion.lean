import EvmFlow.Contract.Study
import EvmFlow.Proofs.Code.Window

/-!
# Code given as text

A text that spells bytes is read as these bytes.  Bytes are read as they are exactly if they do not
begin like a text and hold no placeholder.  A contract built from a text reads the stripped code
once more, as bytes, and so keeps it exactly in this case.
-/

namespace EvmFlow

theorem exists_of_map_eq_ok {ε α β : Type} {read : Except ε α} {f : α → β} {result : β}
    (mapped : read.map f = .ok result) : ∃ a, read = .ok a ∧ f a = result := by
  cases read with
  | error failure => cases mapped
  | ok a => exact ⟨a, rfl, Except.ok.inj mapped⟩

namespace Hex

/-- A text spells bytes: two digits of either case for each byte. -/
inductive Spells : List Char → List UInt8 → Prop
  | nil : Spells [] []
  | cons {high low : Char} {h l : Nat} {text : List Char} {bytes : List UInt8}
      (high_digit : digitValue? high = some h) (low_digit : digitValue? low = some l)
      (others : Spells text bytes) :
      Spells (high :: low :: text) (UInt8.ofNat (16 * h + l) :: bytes)

theorem digitValue?_digitChar {d : Nat} (small : d < 16) :
    digitValue? (Nat.digitChar d) = some d := by
  revert d
  decide

/-- A byte is spelled by the digits of its two halves. -/
theorem Spells.cons_byte {b : UInt8} {high low : Char} {text : List Char} {bytes : List UInt8}
    (high_digit : digitValue? high = some (b.toNat / 16))
    (low_digit : digitValue? low = some (b.toNat % 16)) (others : Spells text bytes) :
    Spells (high :: low :: text) (b :: bytes) := by
  have spelled := Spells.cons high_digit low_digit others
  rwa [Nat.div_add_mod, UInt8.ofNat_toNat] at spelled

/-- The digits written for bytes spell them. -/
theorem spells_encode (bytes : List UInt8) : Spells (encode bytes).toList bytes := by
  rw [encode, String.toList_ofList]
  induction bytes with
  | nil => exact .nil
  | cons b rest ih =>
    have bound : b.toNat < 256 := b.toNat_lt
    exact .cons_byte (digitValue?_digitChar (by omega)) (digitValue?_digitChar (by omega)) ih

theorem digitValue?_of_isBlank {c : Char} (blank : isBlank c = true) : digitValue? c = none := by
  simp only [isBlank, Bool.or_eq_true, Bool.and_eq_true, decide_eq_true_eq] at blank
  simp only [digitValue?]
  grind

theorem digitValue?_of_not_ascii {c : Char} (high : 128 ≤ c.toNat) : digitValue? c = none := by
  simp only [digitValue?]
  grind

theorem Spells.ne_of_mem {text : List Char} {bytes : List UInt8} (spells : Spells text bytes)
    {c d : Char} (c_mem : c ∈ text) (no_digit : digitValue? d = none) : c ≠ d := by
  rintro rfl
  induction spells with
  | nil => cases c_mem
  | cons high_digit low_digit others ih =>
    rcases List.mem_cons.mp c_mem with rfl | later
    · rw [no_digit] at high_digit
      cases high_digit
    · rcases List.mem_cons.mp later with rfl | later
      · rw [no_digit] at low_digit
        cases low_digit
      · exact ih later

theorem readPairs_of_spells {text : List Char} {bytes : List UInt8} (spells : Spells text bytes)
    (position : Nat) : readPairs position text = .ok bytes := by
  induction spells generalizing position with
  | nil => rfl
  | @cons high low h l text bytes high_digit low_digit others ih =>
    have not_blank : isBlank high = false := by
      rw [Bool.eq_false_iff]
      intro blank
      rw [digitValue?_of_isBlank blank] at high_digit
      cases high_digit
    simp [readPairs, not_blank, high_digit, low_digit, ih, Except.map]

theorem decode_of_spells {text : List Char} {bytes : List UInt8} (spells : Spells text bytes) :
    decode text = .ok bytes := by
  have ascii : text.findIdx? (fun c => 128 ≤ c.toNat) = none := by
    rw [List.findIdx?_eq_none_iff]
    intro c c_mem
    rw [decide_eq_false_iff_not]
    intro high
    exact spells.ne_of_mem c_mem (digitValue?_of_not_ascii high) rfl
  rw [decode, ascii]
  exact readPairs_of_spells spells 0

/-- A byte takes two digits. -/
theorem length_readPairs {position : Nat} {text : List Char} {bytes : List UInt8}
    (read : readPairs position text = .ok bytes) : 2 * bytes.length ≤ text.length := by
  fun_induction readPairs position text generalizing bytes with
  | case1 => cases read; simp
  | case2 position high rest blank ih =>
    have bound := ih read
    simp only [List.length_cons]
    omega
  | case3 | case4 | case5 => cases read
  | case6 position high not_blank h high_digit low rest l low_digit ih =>
    obtain ⟨others, tail, rfl⟩ := exists_of_map_eq_ok read
    have bound := ih tail
    simp only [List.length_cons]
    omega

theorem length_decode {text : List Char} {bytes : List UInt8} (read : decode text = .ok bytes) :
    2 * bytes.length ≤ text.length := by
  unfold decode at read
  split at read
  · cases read
  · exact length_readPairs read

end Hex

namespace Utf8

/-- A character takes at least one byte. -/
theorem length_scan {place : Place} {position : Nat} {bytes : List UInt8} {characters : List Char}
    (read : scan place position bytes = .ok characters) : characters.length ≤ bytes.length := by
  induction bytes generalizing place position characters with
  | nil => cases place <;> cases read; simp
  | cons b rest ih =>
    have extended {value : Nat} (read : (scan .between (position + 1) rest).map
        (Char.ofNat value :: ·) = .ok characters) : characters.length ≤ rest.length + 1 := by
      obtain ⟨others, tail, rfl⟩ := exists_of_map_eq_ok read
      exact Nat.succ_le_succ (ih tail)
    cases place with
    | between =>
      unfold scan at read
      split at read
      · exact extended read
      · split at read
        · cases read
        · exact Nat.le_succ_of_le (ih read)
    | inside start seen sequence =>
      unfold scan at read
      split at read
      · cases read
      · split at read
        · exact extended read
        · exact Nat.le_succ_of_le (ih read)

end Utf8

namespace Source

/-- A text writes code down: its digits, with or without `0x` in front. -/
inductive Written : List Char → Code → Prop
  | bare {text : List Char} {code : Code} (spells : Hex.Spells text code) : Written text code
  | marked {text : List Char} {code : Code} (spells : Hex.Spells text code) :
      Written ('0' :: 'x' :: text) code

/-- Bytes that can be taken for nothing but code: they do not begin with `0x` and hold no
placeholder. -/
def IsPlain (bytes : Code) : Prop :=
  ¬ [48, 120] <+: bytes ∧ ¬ Placeholder.Occurs 95 10 bytes

/-- Bytes with their placeholders replaced. -/
def filled (bytes : Code) : Code :=
  Window.replaced (List.replicate Placeholder.size 65) (Placeholder.cutBytes bytes)

/-- A text with its placeholders replaced. -/
def filledText (text : List Char) : List Char :=
  Window.replaced (List.replicate Placeholder.size 'A') (Placeholder.cutText text)

section Text

variable {text : List Char} {code : Code}

theorem readText_eq : readText text = readHex (bareDigits (filledText text)) := rfl

theorem filledText_cons_of_ne {c : Char} {rest : List Char} (differs : c ≠ '_') :
    filledText (c :: rest) = c :: filledText rest :=
  Window.replaced_cut_cons_of_misfit (Placeholder.fits_cons_of_ne differs)

theorem Written.underscore_notMem (written : Written text code) : '_' ∉ text := by
  intro underscore_mem
  cases written with
  | bare spells => exact spells.ne_of_mem underscore_mem rfl rfl
  | marked spells =>
    simp only [List.mem_cons, Char.reduceEq, false_or] at underscore_mem
    exact spells.ne_of_mem underscore_mem rfl rfl

theorem Written.not_occurs (written : Written text code) :
    ¬ Placeholder.Occurs '_' '\n' text :=
  Placeholder.not_occurs_of_notMem written.underscore_notMem

theorem filter_newline_of_spells (spells : Hex.Spells text code) :
    text.filter (· ≠ '\n') = text := by
  rw [List.filter_eq_self]
  intro c c_mem
  exact decide_eq_true (spells.ne_of_mem c_mem rfl)

theorem Written.spells_bareDigits (written : Written text code) :
    Hex.Spells (bareDigits text) code := by
  cases written with
  | marked spells =>
    unfold bareDigits
    rw [List.filter_cons_of_pos (by decide), List.filter_cons_of_pos (by decide),
      filter_newline_of_spells spells]
    exact spells
  | bare spells =>
    unfold bareDigits
    rw [filter_newline_of_spells spells]
    split
    -- a spelled text does not begin with `0x`, for its second character is a digit
    · exact absurd rfl (spells.ne_of_mem (List.mem_cons_of_mem _ (List.mem_cons_self ..)) rfl)
    · exact spells

/-- A text is read as the code it writes down. -/
theorem Written.convert {content : String} (written : Written content.toList code) :
    Source.convert (.text content) = .ok (some code) := by
  have kept : filledText content.toList = content.toList :=
    (Placeholder.replaced_cut_eq_self_iff (by decide)).mpr written.not_occurs
  have read : readText content.toList = .ok code := by
    rw [readText_eq, kept, readHex, Hex.decode_of_spells written.spells_bareDigits]
    rfl
  rw [Source.convert, read]
  rfl

theorem Written.notices {content : String} (written : Written content.toList code) :
    Source.notices (.text content) = [] := by
  have free := Placeholder.free_iff_not_occurs.mpr written.not_occurs
  simp [Source.notices, Placeholder.cutText, Window.found_cut_of_free free]

end Text

section Bytes

variable {bytes code : Code}

theorem filled_eq_self_iff : filled bytes = bytes ↔ ¬ Placeholder.Occurs 95 10 bytes :=
  Placeholder.replaced_cut_eq_self_iff (by decide)

theorem length_filled : (filled bytes).length = bytes.length :=
  Window.length_replaced_cut List.length_replicate (fun _ => Placeholder.length_of_fits) (by decide)

/-- An element other than an underscore stays in its place. -/
theorem filled_cons_of_ne {b : UInt8} {rest : Code} (differs : b ≠ 95) :
    filled (b :: rest) = b :: filled rest :=
  Window.replaced_cut_cons_of_misfit (Placeholder.fits_cons_of_ne differs)

/-- An element other than the filling is one that was there. -/
theorem eq_cons_of_filled_eq_cons {b : UInt8} {others : Code} (differs : b ≠ 65)
    (shape : filled bytes = b :: others) : ∃ rest, bytes = b :: rest ∧ filled rest = others := by
  cases bytes with
  | nil => cases shape
  | cons a rest =>
    cases fit : Placeholder.fits 95 10 (a :: rest) with
    | false =>
      have unchanged : filled (a :: rest) = a :: filled rest :=
        Window.replaced_cut_cons_of_misfit fit
      obtain ⟨rfl, same⟩ := List.cons.inj (unchanged.symm.trans shape)
      exact ⟨rest, rfl, same⟩
    | true =>
      have refilled := (Window.replaced_cut_cons_of_fits fit).symm.trans shape
      exact absurd (List.cons.inj refilled).1.symm differs

/-- Bytes that do not begin with `0x` are the code, but for their placeholders. -/
theorem readBytes_of_not_marked (unmarked : ¬ [48, 120] <+: bytes) :
    readBytes bytes = .ok (filled bytes) := by
  unfold readBytes
  split
  case h_2 => rfl
  case h_1 others shape =>
    obtain ⟨later, rfl, later_shape⟩ := eq_cons_of_filled_eq_cons (by decide) shape
    obtain ⟨rest, rfl, -⟩ := eq_cons_of_filled_eq_cons (by decide) later_shape
    exact absurd ⟨rest, rfl⟩ unmarked

/-- What bytes that begin with `0x` spell is less than half as long. -/
theorem length_readBytes_of_marked (marked : [48, 120] <+: bytes)
    (read : readBytes bytes = .ok code) : 2 * code.length + 2 ≤ bytes.length := by
  obtain ⟨rest, rfl⟩ := marked
  have shape : Window.replaced (List.replicate Placeholder.size 65)
      (Placeholder.cutBytes (48 :: 120 :: rest)) = 48 :: 120 :: filled rest :=
    (filled_cons_of_ne (by decide)).trans (congrArg _ (filled_cons_of_ne (by decide)))
  simp only [List.cons_append, List.nil_append, readBytes, shape] at read
  cases decoded : Utf8.decode (filled rest) with
  | error malformed =>
    rw [decoded] at read
    cases read
  | ok characters =>
    simp only [decoded, readHex] at read
    cases pairs : Hex.decode (characters.filter (· ≠ '\n')) with
    | error position =>
      rw [pairs] at read
      cases read
    | ok spelled =>
      rw [pairs] at read
      cases read
      have digits := Hex.length_decode pairs
      have filtered := List.length_filter_le (fun c => decide (c ≠ '\n')) characters
      have characters_le := Utf8.length_scan decoded
      rw [length_filled] at characters_le
      simp only [List.cons_append, List.nil_append, List.length_cons]
      omega

theorem readBytes_eq_self_iff : readBytes bytes = .ok bytes ↔ IsPlain bytes := by
  constructor
  · intro read
    have unmarked : ¬ [48, 120] <+: bytes := by
      intro marked
      have shorter := length_readBytes_of_marked marked read
      omega
    rw [readBytes_of_not_marked unmarked, Except.ok.injEq] at read
    exact ⟨unmarked, filled_eq_self_iff.mp read⟩
  · rintro ⟨unmarked, absent⟩
    rw [readBytes_of_not_marked unmarked, filled_eq_self_iff.mpr absent]

theorem convert_raw_eq_iff :
    convert (.raw bytes) = .ok (some code) ↔ readBytes bytes = .ok code := by
  cases read : readBytes bytes <;> simp [convert, read, Except.map]

end Bytes

end Source

namespace Contract

variable {code : Code} {content : String}

/-- A contract takes the code that a text writes down. -/
theorem setSource_of_written (contract : Contract)
    (written : Source.Written content.toList code) :
    contract.setSource (.text content) = { state := { code := some code } } := by
  simp [setSource, written.convert, written.notices, blank]

/-- The code of a contract after it was given bytes. -/
theorem setSource_raw_iff {contract : Contract} {bytes : Code} :
    (contract.setSource (.raw bytes)).failure = none ∧
      (contract.setSource (.raw bytes)).state.code = some code ↔
    Source.readBytes bytes = .ok code := by
  rw [← Source.convert_raw_eq_iff]
  cases converted : Source.convert (.raw bytes) <;> simp [setSource, converted]

/-- Building from a text reads the stripped code as bytes. -/
theorem build_stripped (directory : Directory) (written : Source.Written content.toList code) :
    build directory (.text content) { findsFunctions := false } =
      setSource { code := some code } (.raw (Metadata.strip code)) := by
  simp [build, setSource_of_written blank written, Outcome.andThen, stripMetadata]

end Contract

/-- A text is read as the code it writes down, and a contract built from it keeps this code if its
metadata stays.  If the metadata is removed, the code left over is kept exactly if it is plain.
Otherwise the placeholders in it are replaced; or, where it begins with `0x`, either nothing is
built or what is built has less than half of its length. -/
theorem stripped_code_kept_iff_plain (directory : Directory) (code : Code) (content : String)
    (written : Source.Written content.toList code) :
    let kept := Metadata.strip code
    let stripped := Contract.build directory (.text content) { findsFunctions := false }
    Metadata.Stripped code kept ∧
      Source.convert (.text content) = .ok (some code) ∧
      (Source.convert (.raw code) = .ok (some code) ↔ Source.IsPlain code) ∧
      Contract.build directory (.text content)
          { stripsMetadata := false, findsFunctions := false } =
        { state := { code := some code } } ∧
      (stripped.failure = none ∧ stripped.state.code = some kept ↔ Source.IsPlain kept) ∧
      (¬ [48, 120] <+: kept →
        stripped.failure = none ∧ stripped.state.code = some (Source.filled kept)) ∧
      ([48, 120] <+: kept → ∀ other, stripped.failure = none → stripped.state.code = some other →
        2 * other.length + 2 ≤ kept.length) := by
  intro kept stripped
  have reread : stripped = Contract.setSource { code := some code } (.raw kept) :=
    Contract.build_stripped directory written
  refine ⟨Metadata.stripped_strip code, written.convert, ?_, ?_, ?_, ?_, ?_⟩
  · exact Source.convert_raw_eq_iff.trans Source.readBytes_eq_self_iff
  · exact Contract.setSource_of_written .blank written
  · rw [reread]
    exact Contract.setSource_raw_iff.trans Source.readBytes_eq_self_iff
  · intro unmarked
    rw [reread]
    exact Contract.setSource_raw_iff.mpr (Source.readBytes_of_not_marked unmarked)
  · intro marked other succeeds holds
    rw [reread] at succeeds holds
    exact Source.length_readBytes_of_marked marked
      (Contract.setSource_raw_iff.mp ⟨succeeds, holds⟩)

/-- One instruction, and a trailer whose bytes in the middle look like hexadecimal text. -/
def trailedCode : Code :=
  [0x60, 0x01] ++ Metadata.header ++ [0x30, 0x78] ++ List.replicate 30 0x5f ++ Metadata.footer

theorem trailedCode_kept :
    let stripped := Contract.build {} (.text ("0x" ++ Hex.encode trailedCode))
      { findsFunctions := false }
    stripped.failure = none ∧ stripped.state.code = some [0x60, 0x01] := by
  have written : Source.Written ("0x" ++ Hex.encode trailedCode).toList trailedCode := by
    rw [String.toList_append]
    exact .marked (Hex.spells_encode trailedCode)
  obtain ⟨-, -, -, -, -, succeeds, -⟩ :=
    stripped_code_kept_iff_plain {} trailedCode _ written
  exact succeeds (by decide)

/-- Two bytes that read `0x` spell no byte when they are read again, and are lost; a third one that
is no digit makes the second reading fail. -/
theorem textual_code_lost :
    (Source.Written "3078".toList [0x30, 0x78] ∧ Metadata.strip [0x30, 0x78] = [0x30, 0x78] ∧
      (Contract.build {} (.text "3078") { findsFunctions := false }).state.code = some []) ∧
    Source.Written "30787a".toList [0x30, 0x78, 0x7a] ∧
      (Contract.build {} (.text "30787a") { findsFunctions := false }).failure =
        some (.notHexadecimal 0) := by
  refine ⟨⟨Source.Written.bare (Hex.spells_encode [0x30, 0x78]), by decide, by decide⟩,
    Source.Written.bare (Hex.spells_encode [0x30, 0x78, 0x7a]), by decide⟩

end EvmFlow
