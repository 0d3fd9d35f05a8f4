import EvmFlow.Proofs.Code.Conversion

/-!
# Code spelled in parts

Code can be given in parts, bytes and placeholders of libraries, and a text of it can be broken into
lines anywhere but inside a placeholder.  However it is broken, and whatever stands in the
placeholders, the placeholders found are those of the parts, and the text is read as the bytes of the
parts, with a fixed address for each library.
-/

namespace EvmFlow

namespace Hex

/-- A character is the digit, of either case, for a number below 16. -/
def Denotes (c : Char) (d : Nat) : Prop :=
  d < 16 ∧ (c = Nat.digitChar d ∨ c = (Nat.digitChar d).toUpper)

/-- Bytes written with two digits each. -/
inductive Digits : List UInt8 → List Char → Prop
  | nil : Digits [] []
  | cons {b : UInt8} {bytes : List UInt8} {high low : Char} {digits : List Char}
      (high_denotes : Denotes high (b.toNat / 16)) (low_denotes : Denotes low (b.toNat % 16))
      (others : Digits bytes digits) : Digits (b :: bytes) (high :: low :: digits)

theorem digitValue?_of_denotes {c : Char} {d : Nat} (denotes : Denotes c d) :
    digitValue? c = some d := by
  have upper : ∀ d < 16, digitValue? (Nat.digitChar d).toUpper = some d := by decide
  obtain ⟨small, rfl | rfl⟩ := denotes
  · exact digitValue?_digitChar small
  · exact upper d small

theorem Digits.spells {bytes : List UInt8} {digits : List Char} (written : Digits bytes digits) :
    Spells digits bytes := by
  induction written with
  | nil => exact .nil
  | cons high_denotes low_denotes _ ih =>
    exact .cons_byte (digitValue?_of_denotes high_denotes) (digitValue?_of_denotes low_denotes) ih

theorem Spells.append {text other : List Char} {bytes others : List UInt8}
    (spells : Spells text bytes) (spells_other : Spells other others) :
    Spells (text ++ other) (bytes ++ others) := by
  induction spells with
  | nil => exact spells_other
  | cons high_digit low_digit _ ih => exact .cons high_digit low_digit ih

/-- A digit written many times spells one byte over and over. -/
theorem spells_replicate {c : Char} {d : Nat} (digit : digitValue? c = some d) (count : Nat) :
    Spells (List.replicate (2 * count) c) (List.replicate count (UInt8.ofNat (16 * d + d))) := by
  induction count with
  | zero => exact .nil
  | succ count ih => exact .cons digit digit ih

end Hex

namespace Placeholder

/-- What stands between the underscores of a placeholder: 36 characters on one line. -/
structure Label where
  characters : List Char
  length_eq : characters.length = 36
  one_line : '\n' ∉ characters

/-- The placeholder with a label. -/
def Label.text (label : Label) : List Char :=
  '_' :: '_' :: (label.characters ++ ['_', '_'])

theorem Label.length_text (label : Label) : label.text.length = size := by
  simp [text, label.length_eq, size]

theorem Label.fits_text (label : Label) (rest : List Char) :
    fits '_' '\n' (label.text ++ rest) = true :=
  fits_iff.mpr ⟨label.characters, rest, by simp [text], label.length_eq, label.one_line⟩

end Placeholder

namespace Source

/-- A part of code as it is given: bytes, or the placeholder of a library. -/
inductive Part
  | bytes (content : Code)
  | library (label : Placeholder.Label)

namespace Part

/-- The bytes of a part; those of a library are a fixed address. -/
def code : Part → Code
  | bytes content => content
  | library _ => List.replicate 20 0xaa

/-- The label of a library. -/
def label? : Part → Option Placeholder.Label
  | bytes _ => none
  | library label => some label

end Part

/-- What cannot be broken in a text: a single character, or a placeholder. -/
inductive Sign
  | character (c : Char)
  | placeholder (label : Placeholder.Label)

namespace Sign

/-- The text of a sign. -/
def text : Sign → List Char
  | character c => [c]
  | placeholder label => label.text

/-- The text of a sign after the placeholders are replaced. -/
def filled : Sign → List Char
  | character c => [c]
  | placeholder _ => List.replicate Placeholder.size 'A'

/-- The label of a placeholder. -/
def label? : Sign → Option Placeholder.Label
  | character _ => none
  | placeholder label => some label

end Sign

/-- The signs that write parts down: two digits for each byte, and the placeholders. -/
inductive Composed : List Part → List Sign → Prop
  | nil : Composed [] []
  | bytes {content : Code} {digits : List Char} {parts : List Part} {signs : List Sign}
      (written : Hex.Digits content digits) (others : Composed parts signs) :
      Composed (.bytes content :: parts) (digits.map .character ++ signs)
  | library {parts : List Part} {signs : List Sign} (label : Placeholder.Label)
      (others : Composed parts signs) :
      Composed (.library label :: parts) (.placeholder label :: signs)

/-- The signs of a whole text: those of its parts, with or without `0x` in front. -/
inductive Signed : List Part → List Sign → Prop
  | bare {parts : List Part} {signs : List Sign} (composed : Composed parts signs) :
      Signed parts signs
  | marked {parts : List Part} {signs : List Sign} (composed : Composed parts signs) :
      Signed parts (.character '0' :: .character 'x' :: signs)

/-- Signs one after the other, with line ends before, between and after them. -/
inductive Broken : List Sign → List Char → Prop
  | nil : Broken [] []
  | lineEnd {signs : List Sign} {text : List Char} (others : Broken signs text) :
      Broken signs ('\n' :: text)
  | sign {signs : List Sign} {text : List Char} (sign : Sign) (others : Broken signs text) :
      Broken (sign :: signs) (sign.text ++ text)

section Composed

variable {parts : List Part} {signs : List Sign}

/-- Filled in, the signs of parts spell their bytes. -/
theorem Composed.spells (composed : Composed parts signs) :
    Hex.Spells (signs.flatMap Sign.filled) (parts.flatMap Part.code) := by
  induction composed with
  | nil => exact .nil
  | @bytes content digits parts signs written others ih =>
    have characters : (digits.map Sign.character).flatMap Sign.filled = digits := by
      rw [List.flatMap_map]
      exact List.flatMap_singleton' digits
    rw [List.flatMap_append, characters]
    exact written.spells.append ih
  | library label others ih =>
    have ten : Hex.digitValue? 'A' = some 10 := rfl
    have address : Hex.Spells (List.replicate Placeholder.size 'A') (List.replicate 20 0xaa) :=
      Hex.spells_replicate ten 20
    exact address.append ih

/-- A single character among the signs of parts is a digit. -/
theorem Composed.ne_of_mem (composed : Composed parts signs) {c d : Char}
    (c_mem : Sign.character c ∈ signs) (no_digit : Hex.digitValue? d = none) : c ≠ d := by
  induction composed with
  | nil => cases c_mem
  | bytes written others ih =>
    rcases List.mem_append.mp c_mem with in_digits | later
    · obtain ⟨digit, digit_mem, same⟩ := List.mem_map.mp in_digits
      cases same
      exact written.spells.ne_of_mem digit_mem no_digit
    · exact ih later
  | library label others ih =>
    rcases List.mem_cons.mp c_mem with impossible | later
    · cases impossible
    · exact ih later

theorem Composed.labels (composed : Composed parts signs) :
    signs.filterMap Sign.label? = parts.filterMap Part.label? := by
  induction composed with
  | nil => rfl
  | @bytes content digits parts signs written others ih =>
    have unlabelled : (digits.map Sign.character).filterMap Sign.label? = [] := by
      simp [List.filterMap_map, Function.comp_def, Sign.label?]
    rw [List.filterMap_append, unlabelled, ih]
    rfl
  | library label others ih => exact congrArg (label :: ·) ih

end Composed

section Signed

variable {parts : List Part} {signs : List Sign}

theorem Signed.written (signed : Signed parts signs) :
    Written (signs.flatMap Sign.filled) (parts.flatMap Part.code) := by
  cases signed with
  | bare composed => exact .bare composed.spells
  | marked composed => exact .marked composed.spells

theorem Signed.ne_of_mem (signed : Signed parts signs) {c d : Char}
    (c_mem : Sign.character c ∈ signs) (no_digit : Hex.digitValue? d = none) (no_mark : d ≠ 'x') :
    c ≠ d := by
  cases signed with
  | bare composed => exact composed.ne_of_mem c_mem no_digit
  | marked composed =>
    simp only [List.mem_cons, Sign.character.injEq] at c_mem
    rcases c_mem with rfl | rfl | later
    · rintro rfl
      cases no_digit
    · exact no_mark.symm
    · exact composed.ne_of_mem later no_digit

theorem Signed.labels (signed : Signed parts signs) :
    signs.filterMap Sign.label? = parts.filterMap Part.label? := by
  cases signed with
  | bare composed => exact composed.labels
  | marked composed => exact composed.labels

end Signed

section Broken

variable {signs : List Sign} {text : List Char}

theorem filledText_append_label (label : Placeholder.Label) (rest : List Char) :
    filledText (label.text ++ rest) = List.replicate Placeholder.size 'A' ++ filledText rest :=
  Window.replaced_cut_append_of_fits label.length_text (by decide) (label.fits_text rest)

/-- However a text is broken, its placeholders are replaced and nothing else is. -/
theorem Broken.filter_filledText (broken : Broken signs text)
    (plain : ∀ c, Sign.character c ∈ signs → c ≠ '_' ∧ c ≠ '\n') :
    (filledText text).filter (· ≠ '\n') = signs.flatMap Sign.filled := by
  induction broken with
  | nil => rfl
  | lineEnd others ih =>
    rw [filledText_cons_of_ne (by decide), List.filter_cons_of_neg (by decide)]
    exact ih plain
  | sign sign others ih =>
    have plain_others := fun c c_mem => plain c (List.mem_cons_of_mem sign c_mem)
    rw [List.flatMap_cons]
    cases sign with
    | character c =>
      obtain ⟨not_underscore, not_newline⟩ := plain c List.mem_cons_self
      rw [Sign.text, List.singleton_append, filledText_cons_of_ne not_underscore,
        List.filter_cons_of_pos (by simpa using not_newline), ih plain_others]
      rfl
    | placeholder label =>
      -- it is cut off as a whole, so underscores inside it or after it begin no other window
      rw [Sign.text, filledText_append_label, List.filter_append, ih plain_others]
      rfl

/-- The placeholders that are found are those that were put there. -/
theorem Broken.found (broken : Broken signs text)
    (plain : ∀ c, Sign.character c ∈ signs → c ≠ '_' ∧ c ≠ '\n') :
    Window.found (Placeholder.cutText text) =
      (signs.filterMap Sign.label?).map Placeholder.Label.text := by
  rw [Placeholder.cutText]
  induction broken with
  | nil => rfl
  | lineEnd others ih =>
    rw [Window.cut_cons_of_misfit (Placeholder.fits_cons_of_ne (by decide))]
    exact ih plain
  | sign sign others ih =>
    have plain_others := fun c c_mem => plain c (List.mem_cons_of_mem sign c_mem)
    cases sign with
    | character c =>
      obtain ⟨not_underscore, -⟩ := plain c List.mem_cons_self
      rw [Sign.text, List.singleton_append,
        Window.cut_cons_of_misfit (Placeholder.fits_cons_of_ne not_underscore)]
      exact ih plain_others
    | placeholder label =>
      rw [Sign.text, Window.cut_append_of_fits label.length_text (by decide) (label.fits_text _)]
      exact congrArg (label.text :: ·) (ih plain_others)

end Broken

/-- Line ends do not count. -/
theorem bareDigits_filter (characters : List Char) :
    bareDigits (characters.filter (· ≠ '\n')) = bareDigits characters := by
  simp [bareDigits, List.filter_filter]

end Source

/-- A text made of bytes and placeholders, with or without `0x` in front and broken into lines anywhere
but inside the placeholders, is read as the bytes with a fixed address for each placeholder; a notice
is given for each placeholder, in order, and for nothing else. -/
theorem spelled_parts_read (parts : List Source.Part) (signs : List Source.Sign)
    (signed : Source.Signed parts signs) (content : String)
    (broken : Source.Broken signs content.toList) :
    Source.convert (.text content) = .ok (some (parts.flatMap Source.Part.code)) ∧
      Source.notices (.text content) = (parts.filterMap Source.Part.label?).map fun label =>
        Placeholder.notice (String.ofList label.text) := by
  have plain : ∀ c, Source.Sign.character c ∈ signs → c ≠ '_' ∧ c ≠ '\n' := fun c c_mem =>
    ⟨signed.ne_of_mem c_mem rfl (by decide), signed.ne_of_mem c_mem rfl (by decide)⟩
  constructor
  · have spelled : Hex.Spells (Source.bareDigits (Source.filledText content.toList))
        (parts.flatMap Source.Part.code) := by
      rw [← Source.bareDigits_filter, broken.filter_filledText plain]
      exact signed.written.spells_bareDigits
    rw [Source.convert, Source.readText_eq, Source.readHex, Hex.decode_of_spells spelled]
    rfl
  · rw [Source.notices, broken.found plain, signed.labels, List.map_map]
    rfl

/-- A label of underscores only. -/
def blankLabel : Placeholder.Label where
  characters := List.replicate 36 '_'
  length_eq := rfl
  one_line := by decide

/-- A label that looks like hexadecimal text. -/
def digitLabel : Placeholder.Label where
  characters := '0' :: 'x' :: List.replicate 34 'f'
  length_eq := rfl
  one_line := by decide

/-- A byte, two libraries and another byte, with line ends inside `0x`, inside the first byte and at
the end. -/
def linkedText : String :=
  "0\nx6\n0" ++ "________________________________________" ++
    "__0xffffffffffffffffffffffffffffffffff__" ++ "Ab\n"

theorem linkedText_read :
    let parts : List Source.Part :=
      [.bytes [0x60], .library blankLabel, .library digitLabel, .bytes [0xab]]
    let signs : List Source.Sign :=
      [.character '0', .character 'x', .character '6', .character '0', .placeholder blankLabel,
        .placeholder digitLabel, .character 'A', .character 'b']
    Source.Signed parts signs ∧ Source.Broken signs linkedText.toList ∧
      Source.convert (.text linkedText) =
        .ok (some ([0x60] ++ List.replicate 40 0xaa ++ [0xab])) := by
  intro parts signs
  have first : Hex.Digits [0x60] ['6', '0'] :=
    .cons ⟨by decide, .inl rfl⟩ ⟨by decide, .inl rfl⟩ .nil
  have last : Hex.Digits [0xab] ['A', 'b'] :=
    .cons ⟨by decide, .inr (by decide)⟩ ⟨by decide, .inl rfl⟩ .nil
  have signed : Source.Signed parts signs :=
    .marked (.bytes first (.library blankLabel (.library digitLabel (.bytes last .nil))))
  have broken : Source.Broken signs linkedText.toList :=
    .sign _ (.lineEnd (.sign _ (.sign _ (.lineEnd (.sign _ (.sign _ (.sign _ (.sign _ (.sign _
      (.lineEnd .nil))))))))))
  exact ⟨signed, broken, (spelled_parts_read parts signs signed linkedText broken).1⟩

end EvmFlow
