import WorkPackage.Proofs.Typing
import WorkPackage.Proofs.Number.Narrowing
import WorkPackage.Proofs.Number.Spelling

/-!
# Agreement of manifests and tables

A value means the same in a manifest and in a cell of a table.  Text is taken as
it is in both, integers are refused outside the same ranges and rounded to the
same words.  Only a number with a fraction that is asked for in single width can
come out differently: a manifest holds its double-width word, which is rounded a
second time, while the cell is rounded once.
-/

namespace WorkPackage.Typing

open Binary (Encloses Nearest Rounds Torn withSign)
open Binary.Format (single double)

variable {kind : Kind} {code : Char}

/-- A value of a manifest and a cell of a table become the same argument, or none
of them becomes one. -/
def Agree (code : Char) (value : Toml.Value) (cell : String) : Prop :=
  (fromToml code value).toOption = (fromText code cell).toOption

/-- The cell that an integer is written in. -/
def cell (number : Int) : String :=
  String.ofList (Decimal.ofInt number)

section Conversions

theorem fromText_toOption (known : Kind.ofCode? code = some kind) (text : String) :
    (fromText code text).toOption = fromText? kind text := by
  rw [fromText, known]
  cases converted : fromText? kind text with
  | none =>
      simp only [converted]
      rfl
  | some argument =>
      simp only [converted]
      rfl

theorem inRange_toOption {α : Type} (value : Toml.Value) (expectation : Expectation)
    (build : α → Argument) (content : Option α) :
    (inRange code value expectation build content).toOption = content.map build := by
  cases content <;> rfl

/-- Agreement is about what the kind makes of the value and of the text. -/
theorem agree_of_kind (kind : Kind) {value : Toml.Value} {text : String}
    (known : Kind.ofCode? code = some kind)
    (same : (fromKindToml code kind value).toOption = fromText? kind text) :
    Agree code value text := by
  rw [Agree, fromText_toOption known, fromToml, known]
  exact same

end Conversions

section Words

variable {magnitude : Nat}

theorem toNat_single (within : magnitude ≤ single.infinity) (negative : Bool) :
    (UInt32.ofNat (withSign single negative magnitude)).toNat =
      withSign single negative magnitude :=
  UInt32.toNat_ofNat_of_lt' (Binary.Format.withSign_lt within negative)

theorem toNat_double (within : magnitude ≤ double.infinity) (negative : Bool) :
    (UInt64.ofNat (withSign double negative magnitude)).toNat =
      withSign double negative magnitude :=
  UInt64.toNat_ofNat_of_lt' (Binary.Format.withSign_lt within negative)

/-- The digits of an integer are rounded to the same word as the integer. -/
theorem word_integer {format : Binary.Format} (reaches : Literal.Reaches format)
    (number : Int) :
    Literal.word format (.finite (number < 0) number.natAbs 0) =
      Binary.ofInt format number := by
  obtain ⟨spelled, word, left⟩ :=
    Literal.word_encloses reaches (number < 0) number.natAbs 0
  obtain ⟨counted, rounded, right⟩ := Binary.ofInt_encloses reaches.bits number
  rw [zpow_zero, mul_one] at left
  rw [word, rounded, left.unique right]

end Words

section Integers

variable (number : Int)

theorem trim_cell : Text.trim (cell number).toList = Decimal.ofInt number := by
  rw [cell, String.toList_ofList, ← Spelling.text_ofInt, Spelling.trim_text]

theorem read?_cell :
    Literal.read? (Text.trim (cell number).toList) =
      some (.finite (number < 0) number.natAbs 0) := by
  rw [trim_cell, ← Spelling.text_ofInt, Spelling.read?_text, Spelling.literal_ofInt]

theorem agree_integer : Agree 'i' (.integer number) (cell number) := by
  apply agree_of_kind .integer (by decide)
  rw [fromKindToml, inRange_toOption, fromText?, trim_cell, Decimal.signed?_ofInt]
  rfl

theorem agree_long : Agree 'l' (.integer number) (cell number) := by
  apply agree_of_kind .long (by decide)
  rw [fromKindToml, inRange_toOption, fromText?, trim_cell, Decimal.signed?_ofInt]
  rfl

theorem agree_unsigned : Agree 'u' (.integer number) (cell number) := by
  apply agree_of_kind .unsigned (by decide)
  rw [fromKindToml, inRange_toOption, fromText?, trim_cell, Decimal.unsigned?_ofInt]
  by_cases natural : 0 ≤ number
  · rw [if_pos natural, Option.bind_some, Int.toNat_of_nonneg natural]
  · rw [if_neg natural, Decimal.uint32?, if_neg fun range => natural range.left]
    rfl

theorem agree_float : Agree 'f' (.integer number) (cell number) := by
  apply agree_of_kind .float (by decide)
  rw [fromText?, read?_cell, Option.map_some, word_integer Literal.reaches_single]
  rfl

theorem agree_double : Agree 'd' (.integer number) (cell number) := by
  apply agree_of_kind .double (by decide)
  rw [fromText?, read?_cell, Option.map_some, word_integer Literal.reaches_double]
  rfl

/-- An integer is rounded once, to the nearest word of the width. -/
theorem integer_single :
    ∃ word, fromToml 'f' (.integer number) = .ok (.float word) ∧
      Rounds single (number < 0) |(number : ℚ)| word.toNat := by
  obtain ⟨magnitude, word, nearest⟩ := Binary.ofInt_rounds Literal.reaches_single.bits number
  refine ⟨_, rfl, magnitude, ?_, nearest⟩
  rw [word, toNat_single nearest.within]

theorem integer_double :
    ∃ word, fromToml 'd' (.integer number) = .ok (.double word) ∧
      Rounds double (number < 0) |(number : ℚ)| word.toNat := by
  obtain ⟨magnitude, word, nearest⟩ := Binary.ofInt_rounds Literal.reaches_double.bits number
  refine ⟨_, rfl, magnitude, ?_, nearest⟩
  rw [word, toNat_double nearest.within]

end Integers

section Texts

variable (text : String)

theorem agree_text : Agree 't' (.string text) text :=
  agree_of_kind .text (by decide) rfl

theorem agree_character : Agree 'c' (.string text) text := by
  apply agree_of_kind .character (by decide)
  rw [fromKindToml, inRange_toOption]
  rfl

theorem agree_bytes : Agree 'v' (.string text) text :=
  agree_of_kind .bytes (by decide) rfl

end Texts

/-- Whatever a manifest can say in one word and a table in one cell means the same
in both, integers being rounded to the nearest word. -/
theorem manifest_and_table_agree :
    (∀ text : String, Agree 't' (.string text) text ∧ Agree 'c' (.string text) text ∧
      Agree 'v' (.string text) text) ∧
    (∀ number : Int, Agree 'i' (.integer number) (cell number) ∧
      Agree 'l' (.integer number) (cell number) ∧
      Agree 'u' (.integer number) (cell number) ∧
      Agree 'f' (.integer number) (cell number) ∧
      Agree 'd' (.integer number) (cell number) ∧
      (∃ word, fromToml 'f' (.integer number) = .ok (.float word) ∧
        Rounds single (number < 0) |(number : ℚ)| word.toNat) ∧
      ∃ word, fromToml 'd' (.integer number) = .ok (.double word) ∧
        Rounds double (number < 0) |(number : ℚ)| word.toNat) ∧
    ∀ content : Bool, fromToml 'b' (.boolean content) =
      fromText 'b' (if content then "true" else "false") := by
  refine ⟨fun text => ⟨agree_text text, agree_character text, agree_bytes text⟩,
    fun number => ?_, fun content => ?_⟩
  · exact ⟨agree_integer number, agree_long number, agree_unsigned number,
      agree_float number, agree_double number, integer_single number,
      integer_double number⟩
  · cases content with
    | false => rfl
    | true => rfl

section Fractions

variable (spelling : Spelling)

/-- The cell that a number is spelled in. -/
def spelled : String :=
  String.ofList spelling.text

theorem read?_spelled :
    Literal.read? (Text.trim (spelled spelling).toList) = some spelling.literal := by
  rw [spelled, String.toList_ofList, spelling.trim_text, spelling.read?_text]

theorem word_spelled {format : Binary.Format} (reaches : Literal.Reaches format) :
    ∃ magnitude, spelling.literal.word format =
        withSign format spelling.sign.negative magnitude ∧
      Encloses format spelling.magnitude magnitude := by
  rw [spelling.magnitude_eq]
  exact Literal.word_encloses reaches _ _ _

theorem fromText_double :
    ∃ wide, fromText 'd' (spelled spelling) =
        .ok (.double (UInt64.ofNat (withSign double spelling.sign.negative wide))) ∧
      Encloses double spelling.magnitude wide := by
  obtain ⟨wide, word, encloses⟩ := word_spelled spelling Literal.reaches_double
  refine ⟨wide, ?_, encloses⟩
  have known : Kind.ofCode? 'd' = some .double := by decide
  rw [fromText, known]
  simp only [fromText?, read?_spelled, Option.map_some, word]

theorem fromText_single :
    ∃ direct, fromText 'f' (spelled spelling) =
        .ok (.float (UInt32.ofNat (withSign single spelling.sign.negative direct))) ∧
      Encloses single spelling.magnitude direct := by
  obtain ⟨direct, word, encloses⟩ := word_spelled spelling Literal.reaches_single
  refine ⟨direct, ?_, encloses⟩
  have known : Kind.ofCode? 'f' = some .float := by decide
  rw [fromText, known]
  simp only [fromText?, read?_spelled, Option.map_some, word]

theorem fromToml_single {wide : Nat} (within : wide ≤ double.infinity) (negative : Bool) :
    ∃ narrowed, fromToml 'f' (.float (UInt64.ofNat (withSign double negative wide))) =
        .ok (.float (UInt32.ofNat (withSign single negative narrowed))) ∧
      Encloses single (double.value wide) narrowed := by
  obtain ⟨narrowed, word, encloses⟩ := Binary.narrow_encloses within negative
  refine ⟨narrowed, ?_, encloses⟩
  have known : Kind.ofCode? 'f' = some .float := by decide
  rw [fromToml, known]
  simp only [fromKindToml, toNat_double within, word]

/-- A number with a fraction comes out the same in single width, unless its
double-width word is halfway between two single-width neighbours and the number
itself lies on the side of the odd one. -/
theorem spelled_number_agrees_unless_torn :
    ∃ word wide narrowed direct,
      fromText 'd' (spelled spelling) = .ok (.double word) ∧
      word.toNat = withSign double spelling.sign.negative wide ∧
      Nearest double spelling.magnitude wide ∧
      fromToml 'f' (.float word) = .ok (.float narrowed) ∧
      fromText 'f' (spelled spelling) = .ok (.float direct) ∧
      (narrowed = direct ↔ ¬∃ lower, Torn spelling.magnitude wide lower) ∧
      ∀ lower, Torn spelling.magnitude wide lower →
        narrowed.toNat = withSign single spelling.sign.negative (lower + lower % 2) ∧
        direct.toNat = withSign single spelling.sign.negative (lower + (lower + 1) % 2) := by
  obtain ⟨wide, asDouble, rounded⟩ := fromText_double spelling
  obtain ⟨direct, asFloat, once⟩ := fromText_single spelling
  obtain ⟨narrowed, again, twice⟩ :=
    fromToml_single rounded.within spelling.sign.negative
  refine ⟨_, wide, _, _, asDouble, toNat_double rounded.within _, rounded.nearest,
    again, asFloat, ?_, ?_⟩
  · rw [← Binary.narrowed_ne_direct_iff rounded twice once, not_not]
    constructor
    · intro same
      have words := congrArg UInt32.toNat same
      rw [toNat_single twice.within, toNat_single once.within] at words
      exact Binary.Format.withSign_injective words
    · rintro rfl
      rfl
  · intro lower torn
    obtain ⟨even, odd⟩ := torn.parts rounded twice once
    rw [toNat_single twice.within, toNat_single once.within]
    refine ⟨congrArg _ even, congrArg _ ?_⟩
    omega

/-- One and a bit more than half a step of single width, but no step of double
width more. -/
def tornSpelling : Spelling where
  sign := .absent
  whole := ['1']
  places := some "0000000596046448".toList
  power := none
  digits := List.all_eq_true.mp (by decide)
  written := by decide

/-- Its double-width word is exactly halfway, and loses the bit more. -/
theorem torn_spelling_disagrees :
    ¬∀ (spelling : Spelling) (word : UInt64),
      fromText 'd' (spelled spelling) = .ok (.double word) →
        fromToml 'f' (.float word) = fromText 'f' (spelled spelling) := by
  intro agree
  have word : fromText 'd' (spelled tornSpelling) = .ok (.double 0x3ff0000010000000) := by
    decide +kernel
  have twice : fromToml 'f' (.float 0x3ff0000010000000) = .ok (.float 0x3f800000) := by
    decide +kernel
  have once : fromText 'f' (spelled tornSpelling) = .ok (.float 0x3f800001) := by
    decide +kernel
  have same := agree tornSpelling _ word
  rw [twice, once] at same
  cases same

end Fractions

end WorkPackage.Typing
