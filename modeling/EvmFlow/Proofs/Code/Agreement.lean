import EvmFlow.Proofs.Code.Conversion

/-!
# Text given as bytes

A text of ASCII characters can be given as bytes too.  If it begins with `0x`, both are read as the
same code, or refused at the same position: its placeholders stand at the same places, and so do the
digits that are left when its line ends are gone.
-/

namespace EvmFlow

namespace Window

variable {α β : Type} {size : Nat} {filling : List α}

/-- Windows that correspond element by element are replaced alike. -/
theorem replaced_cut_map {f : α → β} {fits : List α → Bool} {fits_image : List β → Bool}
    {sequence : List α}
    (alike : ∀ back, back <:+ sequence → fits_image (back.map f) = fits back) :
    replaced (filling.map f) (cut size fits_image (sequence.map f)) =
      (replaced filling (cut size fits sequence)).map f := by
  suffices passing : ∀ skip,
      replaced (filling.map f) (cutFrom size fits_image skip (sequence.map f)) =
        (replaced filling (cutFrom size fits skip sequence)).map f from passing 0
  induction sequence with
  | nil => simp [cutFrom, replaced]
  | cons a rest ih =>
    have later := ih fun back ends => alike back (ends.trans (List.suffix_cons a rest))
    intro skip
    cases skip with
    | succ skip => exact later skip
    | zero =>
      have first : fits_image (f a :: rest.map f) = fits (a :: rest) := alike _ List.suffix_rfl
      cases fit : fits (a :: rest) with
      | false =>
        rw [fit] at first
        simpa [cutFrom, first, fit, replaced] using later 0
      | true =>
        rw [fit] at first
        simpa [cutFrom, first, fit, replaced] using later (size - 1)

/-- Replacing windows brings in nothing but the filling. -/
theorem mem_of_mem_replaced_cut {fits : List α → Bool} {sequence : List α} {x : α}
    (x_mem : x ∈ replaced filling (cut size fits sequence)) : x ∈ filling ∨ x ∈ sequence := by
  suffices passing : ∀ skip, x ∈ replaced filling (cutFrom size fits skip sequence) →
      x ∈ filling ∨ x ∈ sequence from passing 0 x_mem
  clear x_mem
  induction sequence with
  | nil => simp [cutFrom, replaced]
  | cons a rest ih =>
    intro skip x_mem
    have later : ∀ skip, x ∈ replaced filling (cutFrom size fits skip rest) →
        x ∈ filling ∨ x ∈ a :: rest :=
      fun skip kept => (ih skip kept).imp_right (List.mem_cons_of_mem a)
    cases skip with
    | succ skip => exact later skip x_mem
    | zero =>
      cases fit : fits (a :: rest) with
      | false =>
        simp only [cutFrom, fit, Bool.false_eq_true, if_false, replaced, List.flatMap_cons,
          List.singleton_append, List.mem_cons] at x_mem
        rcases x_mem with rfl | kept
        · exact .inr List.mem_cons_self
        · exact later 0 kept
      | true =>
        simp only [cutFrom, fit, if_true, replaced, List.flatMap_cons, List.mem_append] at x_mem
        exact x_mem.elim .inl (later (size - 1))

end Window

namespace Placeholder

variable {α β : Type} [BEq α] [LawfulBEq α] [BEq β] [LawfulBEq β]

/-- Whether a placeholder begins depends on where the underscores and the line ends stand. -/
theorem fits_map {f : α → β} {underscore newline : α} {underscore_image newline_image : β}
    {sequence : List α}
    (underscores : ∀ a ∈ sequence, (f a = underscore_image ↔ a = underscore))
    (newlines : ∀ a ∈ sequence, (f a = newline_image ↔ a = newline)) :
    fits underscore_image newline_image (sequence.map f) = fits underscore newline sequence := by
  have same_underscore : ∀ a ∈ sequence, (f a == underscore_image) = (a == underscore) := by
    intro a a_mem
    rw [Bool.eq_iff_iff, beq_iff_eq, beq_iff_eq, underscores a a_mem]
  have same_newline : ∀ a ∈ sequence, (f a != newline_image) = (a != newline) := by
    intro a a_mem
    rw [Bool.eq_iff_iff, bne_iff_ne, bne_iff_ne, ne_eq, ne_eq, newlines a a_mem]
  rcases sequence with _ | ⟨a, _ | ⟨b, rest⟩⟩
  · rfl
  · rfl
  · have same_body : ((rest.take 36).map f).all (· != newline_image) =
        (rest.take 36).all (· != newline) := by
      rw [List.all_map, Bool.eq_iff_iff, List.all_eq_true, List.all_eq_true]
      refine forall₂_congr fun c c_mem => ?_
      rw [Function.comp_apply, same_newline c (List.mem_cons_of_mem a
        (List.mem_cons_of_mem b (List.mem_of_mem_take c_mem)))]
    have in_rest : ∀ c ∈ rest.drop 36, c ∈ a :: b :: rest := fun c c_mem =>
      List.mem_cons_of_mem a (List.mem_cons_of_mem b (List.mem_of_mem_drop c_mem))
    simp only [fits, List.map_cons, ← List.map_take, ← List.map_drop, List.length_map,
      same_underscore a (by simp), same_underscore b (by simp), same_body]
    rcases ending : rest.drop 36 with _ | ⟨c, _ | ⟨d, back⟩⟩
    · rfl
    · rfl
    · rw [ending] at in_rest
      simp only [List.map_cons, same_underscore c (in_rest c (by simp)),
        same_underscore d (in_rest d (by simp))]

end Placeholder

namespace Ascii

/-- The characters of a text are all ASCII. -/
def Holds (text : List Char) : Prop := ∀ c ∈ text, c.toNat < 128

instance (text : List Char) : Decidable (Holds text) :=
  List.decidableBAll (fun c : Char => c.toNat < 128) text

/-- The byte of an ASCII character. -/
def byte (c : Char) : UInt8 := UInt8.ofNat c.toNat

/-- An ASCII text as bytes. -/
def encode (text : List Char) : Code := text.map byte

theorem toNat_byte {c : Char} (small : c.toNat < 128) : (byte c).toNat = c.toNat := by
  rw [byte, UInt8.toNat_ofNat']
  omega

theorem byte_eq_iff {c d : Char} (c_small : c.toNat < 128) (d_small : d.toNat < 128) :
    byte c = byte d ↔ c = d := by
  rw [← UInt8.toNat_inj, toNat_byte c_small, toNat_byte d_small, Char.toNat_inj]

/-- The bytes of an ASCII text are read as that text. -/
theorem decode_encode {text : List Char} (ascii : Holds text) :
    Utf8.decode (encode text) = .ok text := by
  suffices scanned : ∀ position, Utf8.scan .between position (encode text) = .ok text from scanned 0
  induction text with
  | nil => exact fun _ => rfl
  | cons c rest ih =>
    intro position
    have small : c.toNat < 128 := ascii c List.mem_cons_self
    have later := ih (fun d d_mem => ascii d (List.mem_cons_of_mem c d_mem)) (position + 1)
    rw [encode] at later
    simp [encode, Utf8.scan, toNat_byte small, small, later, Char.ofNat_toNat, Except.map]

end Ascii

namespace Source

section Text

variable {text : List Char}

theorem holds_filledText (ascii : Ascii.Holds text) : Ascii.Holds (filledText text) := by
  intro c c_mem
  rcases Window.mem_of_mem_replaced_cut c_mem with in_filling | in_text
  · rw [List.eq_of_mem_replicate in_filling]
    decide
  · exact ascii c in_text

/-- Placeholders are replaced in a text as they are in its bytes. -/
theorem filled_encode (ascii : Ascii.Holds text) :
    filled (Ascii.encode text) = Ascii.encode (filledText text) := by
  change Window.replaced ((List.replicate Placeholder.size 'A').map Ascii.byte)
    (Placeholder.cutBytes (text.map Ascii.byte)) = (filledText text).map Ascii.byte
  refine Window.replaced_cut_map fun back ends => Placeholder.fits_map ?_ ?_
  · exact fun c c_mem => Ascii.byte_eq_iff (d := '_') (ascii c (ends.subset c_mem)) (by decide)
  · exact fun c c_mem => Ascii.byte_eq_iff (d := '\n') (ascii c (ends.subset c_mem)) (by decide)

/-- The digits of a text that begins with `0x` are read in the text and in its bytes. -/
theorem readText_eq_readBytes (ascii : Ascii.Holds ('0' :: 'x' :: text)) :
    readText ('0' :: 'x' :: text) = readBytes (Ascii.encode ('0' :: 'x' :: text)) := by
  have ascii_rest : Ascii.Holds text := fun c c_mem => ascii c (by simp [c_mem])
  have marked : filledText ('0' :: 'x' :: text) = '0' :: 'x' :: filledText text := by
    rw [filledText_cons_of_ne (by decide), filledText_cons_of_ne (by decide)]
  have marked_bytes : filled (Ascii.encode ('0' :: 'x' :: text)) =
      48 :: 120 :: Ascii.encode (filledText text) := by
    rw [filled_encode ascii, marked]
    rfl
  have text_digits : readText ('0' :: 'x' :: text) =
      readHex ((filledText text).filter (· ≠ '\n')) := by
    rw [readText_eq, marked, bareDigits, List.filter_cons_of_pos (by decide), List.filter_cons_of_pos (by decide)]
    rfl
  have bytes_digits : readBytes (Ascii.encode ('0' :: 'x' :: text)) =
      readHex ((filledText text).filter (· ≠ '\n')) := by
    rw [filled] at marked_bytes
    simp only [readBytes, marked_bytes, Ascii.decode_encode (holds_filledText ascii_rest)]
  rw [text_digits, bytes_digits]

end Text

/-- Digits are read, or refused at a position. -/
theorem readHex_cases (characters : List Char) :
    (∃ code, readHex characters = .ok code) ∨
      ∃ position, readHex characters = .error (.notHexadecimal position) := by
  rw [readHex]
  cases Hex.decode characters with
  | ok code => exact .inl ⟨code, rfl⟩
  | error position => exact .inr ⟨position, rfl⟩

end Source

/-- An ASCII text that begins with `0x` is read as its bytes are: as the same code, or refused as not
hexadecimal at the same position. -/
theorem text_read_as_its_bytes (content : String) (ascii : Ascii.Holds content.toList)
    (marked : ['0', 'x'] <+: content.toList) :
    let bytes := Ascii.encode content.toList
    (∃ code, Source.convert (.text content) = .ok (some code) ∧
        Source.convert (.raw bytes) = .ok (some code)) ∨
      ∃ position, Source.convert (.text content) = .error (.notHexadecimal position) ∧
        Source.convert (.raw bytes) = .error (.notHexadecimal position) := by
  intro bytes
  have alike : Source.readBytes bytes = Source.readText content.toList := by
    obtain ⟨rest, shape⟩ := marked
    simp only [bytes, ← shape] at ascii ⊢
    exact (Source.readText_eq_readBytes ascii).symm
  simp only [Source.convert, alike]
  rcases Source.readHex_cases _ with ⟨code, read⟩ | ⟨position, refused⟩
  · left
    refine ⟨code, ?_⟩
    rw [Source.readText_eq, read]
    exact ⟨rfl, rfl⟩
  · right
    refine ⟨position, ?_⟩
    rw [Source.readText_eq, refused]
    exact ⟨rfl, rfl⟩

/-- A placeholder, a line end and a character that is no digit, after `0x`. -/
def spoiledText : String :=
  "0x60" ++ "__Library_______________________________" ++ "0\n0g"

theorem spoiledText_refused :
    Ascii.Holds spoiledText.toList ∧ ['0', 'x'] <+: spoiledText.toList ∧
      Source.convert (.text spoiledText) = .error (.notHexadecimal 44) ∧
      Source.convert (.raw (Ascii.encode spoiledText.toList)) = .error (.notHexadecimal 44) := by
  have ascii : Ascii.Holds spoiledText.toList := by decide
  have marked : ['0', 'x'] <+: spoiledText.toList := by decide
  have failure_eq : (Contract.setSource .blank (.text spoiledText)).failure =
      some (.notHexadecimal 44) := by decide +kernel
  rcases text_read_as_its_bytes spoiledText ascii marked with
    ⟨code, read, -⟩ | ⟨position, refused, refused_bytes⟩
  · simp [Contract.setSource, read] at failure_eq
  · have position_eq : position = 44 := by
      simpa [Contract.setSource, refused] using failure_eq
    subst position_eq
    exact ⟨ascii, marked, refused, refused_bytes⟩

end EvmFlow
