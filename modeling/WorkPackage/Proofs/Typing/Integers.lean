import WorkPackage.Proofs.Rendering
import WorkPackage.Proofs.Typing
import Mathlib.Data.Nat.Digits.Defs

/-!
# Integers and truth values in cells

A cell is taken for an integer exactly if, apart from the blanks around it, it spells
one that the word has room for, however many digits it has.  What a word is shown as
is such a spelling, so it is read back as the same word.
-/

namespace WorkPackage

namespace Text

variable {front middle back : List Char}

/-- The blanks around a text without blanks are trimmed. -/
theorem trim_between (before : ∀ character ∈ front, isBlank character = true)
    (behind : ∀ character ∈ back, isBlank character = true)
    (solid : ∀ character ∈ middle, isBlank character = false) :
    trim (front ++ (middle ++ back)) = middle := by
  have kept := trim_eq_self solid
  rw [trim] at kept ⊢
  rw [List.dropWhile_append_of_pos before]
  cases middle with
  | nil =>
      rw [List.nil_append, List.dropWhile_eq_nil_iff.mpr behind]
      rfl
  | cons first others =>
      have starts : isBlank first ≠ true := by
        rw [solid first List.mem_cons_self]
        exact Bool.false_ne_true
      have ends : ∀ character ∈ back.reverse, isBlank character = true :=
        fun character member => behind character (List.mem_reverse.mp member)
      rw [List.dropWhile_cons_of_neg starts] at kept
      rw [List.cons_append, List.dropWhile_cons_of_neg starts, ← List.cons_append,
        List.reverse_append, List.dropWhile_append_of_pos ends, kept]

end Text

namespace Decimal

variable {text run : List Char} {number : Int} {natural : Nat}

/-- A text spells an integer: behind a sign, or none, stand digits in base ten, the
highest in front. -/
def Spells (sign : Sign) (text : List Char) (number : Int) : Prop :=
  ∃ run, text = sign.text ++ run ∧ run ≠ [] ∧ (∀ digit ∈ run, digit.isDigit = true) ∧
    number = sign.apply (Nat.ofDigits 10 (run.reverse.map digitValue))

theorem value_eq_ofDigits (run : List Char) :
    value run = Nat.ofDigits 10 (run.reverse.map digitValue) := by
  induction run using List.reverseRecOn with
  | nil => rfl
  | append_singleton run digit induction =>
      rw [value_concat, induction, List.reverse_concat, List.map_cons, Nat.ofDigits_cons]
      ring

theorem spells_of_natural? (sign : Sign) (found : natural? run = some natural) :
    Spells sign (sign.text ++ run) (sign.apply natural) := by
  rw [natural?, Option.ite_none_right_eq_some, List.all_eq_true] at found
  obtain ⟨⟨written, digits⟩, same⟩ := found
  rw [Option.some.injEq, value_eq_ofDigits] at same
  exact ⟨run, rfl, written, digits, congrArg sign.apply same.symm⟩

theorem signed?_eq_some_iff : signed? text = some number ↔
    ∃ sign ∈ [Sign.absent, .plus, .minus], Spells sign text number := by
  constructor
  · intro found
    unfold signed? at found
    split at found
    · obtain ⟨natural, read, rfl⟩ := Option.map_eq_some_iff.mp found
      exact ⟨.plus, by decide, spells_of_natural? .plus read⟩
    · obtain ⟨natural, read, rfl⟩ := Option.map_eq_some_iff.mp found
      exact ⟨.minus, by decide, spells_of_natural? .minus read⟩
    · obtain ⟨natural, read, rfl⟩ := Option.map_eq_some_iff.mp found
      exact ⟨.absent, by decide, spells_of_natural? .absent read⟩
  · rintro ⟨sign, -, run, rfl, written, digits, rfl⟩
    rw [signed?_run digits written, value_eq_ofDigits]

/-- A natural number is never spelled with a minus sign. -/
theorem unsigned?_eq_some_iff : (unsigned? text).map Int.ofNat = some number ↔
    ∃ sign ∈ [Sign.absent, .plus], Spells sign text number := by
  rw [Option.map_eq_some_iff]
  constructor
  · rintro ⟨natural, found, rfl⟩
    unfold unsigned? at found
    split at found
    · exact ⟨.plus, by decide, spells_of_natural? .plus found⟩
    · exact ⟨.absent, by decide, spells_of_natural? .absent found⟩
  · rintro ⟨sign, bare, run, rfl, written, digits, rfl⟩
    rw [← value_eq_ofDigits]
    cases sign with
    | absent => exact ⟨_, unsigned?_run digits written, rfl⟩
    | plus => exact ⟨_, natural?_run digits written, rfl⟩
    | minus => contradiction

/-- An integer is shown as a text that spells it. -/
theorem spells_ofInt (number : Int) :
    ∃ sign ∈ [Sign.absent, .plus, .minus], Spells sign (ofInt number) number :=
  signed?_eq_some_iff.mp (signed?_ofInt number)

theorem spells_digits (natural : Nat) : Spells .absent (digits natural) natural := by
  refine ⟨digits natural, rfl, digits_ne_nil natural, digits_isDigit natural, ?_⟩
  rw [← value_eq_ofDigits, value_digits]
  rfl

theorem int32?_eq_some_iff {word : Int32} : int32? number = some word ↔
    (-2 ^ 31 ≤ number ∧ number < 2 ^ 31) ∧ word.toInt = number := by
  rw [int32?, Option.ite_none_right_eq_some, Option.some.injEq]
  constructor
  · rintro ⟨range, rfl⟩
    have within : -2 ^ 31 ≤ number ∧ number < 2 ^ 31 := by omega
    exact ⟨within, Int32.toInt_ofInt_of_le within.1 within.2⟩
  · rintro ⟨within, rfl⟩
    exact ⟨by omega, Int32.ofInt_toInt word⟩

theorem int64?_eq_some_iff {word : Int64} : int64? number = some word ↔
    (-2 ^ 63 ≤ number ∧ number < 2 ^ 63) ∧ word.toInt = number := by
  rw [int64?, Option.ite_none_right_eq_some, Option.some.injEq]
  constructor
  · rintro ⟨range, rfl⟩
    have within : -2 ^ 63 ≤ number ∧ number < 2 ^ 63 := by omega
    exact ⟨within, Int64.toInt_ofInt_of_le within.1 within.2⟩
  · rintro ⟨within, rfl⟩
    exact ⟨by omega, Int64.ofInt_toInt word⟩

theorem uint32?_eq_some_iff {word : UInt32} : uint32? number = some word ↔
    (0 ≤ number ∧ number < 2 ^ 32) ∧ (word.toNat : Int) = number := by
  rw [uint32?, Option.ite_none_right_eq_some, Option.some.injEq]
  constructor
  · rintro ⟨range, rfl⟩
    have bound : number.toNat < UInt32.size := by
      rw [UInt32.size]
      omega
    rw [UInt32.toNat_ofNat_of_lt' bound]
    exact ⟨by omega, Int.toNat_of_nonneg range.1⟩
  · rintro ⟨within, rfl⟩
    exact ⟨by omega, UInt32.ofNat_toNat⟩

end Decimal

namespace Typing

variable {kind : Kind} {code : Char} {argument : Argument}

section Range

variable {α : Type} {signs : List Sign} {least beyond : Int} {holds : α → Int}
  {build : α → Argument}

/-- A code takes the texts that spell an integer within bounds, blanks around it apart,
and no others; the argument holds the integer itself. -/
def TakesIntegers (code : Char) (signs : List Sign) (least beyond : Int)
    (holds : α → Int) (build : α → Argument) : Prop :=
  ∀ text argument, fromText code text = .ok argument ↔
    ∃ sign ∈ signs, ∃ number word, Decimal.Spells sign (Text.trim text.toList) number ∧
      (least ≤ number ∧ number < beyond) ∧ holds word = number ∧ argument = build word

/-- Reading an integer and fitting it into a word are settled apart. -/
theorem takesIntegers_of_read {read : List Char → Option Int} {fit : Int → Option α}
    (known : Kind.ofCode? code = some kind)
    (converts : ∀ text, fromText? kind text =
      ((read (Text.trim text.toList)).bind fit).map build)
    (spelled : ∀ {text number}, read text = some number ↔
      ∃ sign ∈ signs, Decimal.Spells sign text number)
    (fits : ∀ {number word}, fit number = some word ↔
      (least ≤ number ∧ number < beyond) ∧ holds word = number) :
    TakesIntegers code signs least beyond holds build := by
  intro text argument
  simp only [fromText_eq_ok_iff, known, Option.some.injEq, exists_eq_left', converts,
    Option.map_eq_some_iff]
  constructor
  · rintro ⟨word, found, rfl⟩
    obtain ⟨number, found, fitted⟩ := Option.bind_eq_some_iff.mp found
    obtain ⟨sign, allowed, spells⟩ := spelled.mp found
    obtain ⟨within, held⟩ := fits.mp fitted
    exact ⟨sign, allowed, number, word, spells, within, held, rfl⟩
  · rintro ⟨sign, allowed, number, word, spells, within, held, rfl⟩
    refine ⟨word, Option.bind_eq_some_iff.mpr ⟨number, ?_, ?_⟩, rfl⟩
    · exact spelled.mpr ⟨sign, allowed, spells⟩
    · exact fits.mpr ⟨within, held⟩

theorem takesIntegers_integer :
    TakesIntegers 'i' [.absent, .plus, .minus] (-2 ^ 31) (2 ^ 31) Int32.toInt .integer :=
  takesIntegers_of_read (by decide : Kind.ofCode? 'i' = some .integer) (fun _ => rfl)
    Decimal.signed?_eq_some_iff Decimal.int32?_eq_some_iff

theorem takesIntegers_long :
    TakesIntegers 'l' [.absent, .plus, .minus] (-2 ^ 63) (2 ^ 63) Int64.toInt .long :=
  takesIntegers_of_read (by decide : Kind.ofCode? 'l' = some .long) (fun _ => rfl)
    Decimal.signed?_eq_some_iff Decimal.int64?_eq_some_iff

theorem takesIntegers_unsigned :
    TakesIntegers 'u' [.absent, .plus] 0 (2 ^ 32) (fun word : UInt32 => word.toNat)
      .unsigned := by
  refine takesIntegers_of_read (by decide : Kind.ofCode? 'u' = some .unsigned) ?_
    Decimal.unsigned?_eq_some_iff Decimal.uint32?_eq_some_iff
  intro text
  rw [fromText?, Option.bind_map]
  rfl

end Range

section RoundTrip

/-- The kinds whose values are shown by one word without blanks. -/
def IsWord (argument : Argument) : Prop :=
  argument.kind ∈ [Kind.integer, .long, .unsigned, .boolean]

theorem solid_ofInt (number : Int) :
    ∀ character ∈ Decimal.ofInt number, Text.isBlank character = false := by
  intro character member
  have signed := Decimal.ofInt_isSigned number character member
  rw [Decimal.isSigned, Bool.or_eq_true, beq_iff_eq] at signed
  rcases signed with digit | rfl
  · exact Text.isBlank_digit digit
  · decide

/-- What such an argument is shown as has no blanks. -/
theorem solid_render (word : IsWord argument) :
    ∀ character ∈ argument.render, Text.isBlank character = false := by
  cases argument with
  | integer value | long value => exact solid_ofInt _
  | unsigned value => exact solid_ofInt value.toNat
  | boolean value =>
      have solid : (Argument.boolean value).render.any Text.isBlank = false := by
        cases value <;> decide
      intro character member
      exact Bool.eq_false_iff.mpr (List.any_eq_false.mp solid character member)
  | _ => simp [IsWord, Argument.kind] at word

/-- What such an argument is shown as is read as the same argument. -/
theorem fromText_render (word : IsWord argument) (coded : argument.kind.code? = some code)
    {text : String} (shown : Text.trim text.toList = argument.render) :
    fromText code text = .ok argument := by
  cases argument with
  | integer value =>
      cases coded
      obtain ⟨sign, allowed, spells⟩ := Decimal.spells_ofInt value.toInt
      change Text.trim text.toList = Decimal.ofInt value.toInt at shown
      rw [← shown] at spells
      exact (takesIntegers_integer text _).mpr ⟨sign, allowed, _, value, spells,
        ⟨value.le_toInt, value.toInt_lt⟩, rfl, rfl⟩
  | long value =>
      cases coded
      obtain ⟨sign, allowed, spells⟩ := Decimal.spells_ofInt value.toInt
      change Text.trim text.toList = Decimal.ofInt value.toInt at shown
      rw [← shown] at spells
      exact (takesIntegers_long text _).mpr ⟨sign, allowed, _, value, spells,
        ⟨value.le_toInt, value.toInt_lt⟩, rfl, rfl⟩
  | unsigned value =>
      cases coded
      have bound := value.toNat_lt
      have spells := Decimal.spells_digits value.toNat
      change Text.trim text.toList = Decimal.digits value.toNat at shown
      rw [← shown] at spells
      exact (takesIntegers_unsigned text _).mpr ⟨.absent, by decide, _, value, spells,
        ⟨by omega, by omega⟩, rfl, rfl⟩
  | boolean value =>
      cases coded
      refine fromText_eq_ok_iff.mpr ⟨.boolean, by decide, ?_⟩
      rw [fromText?, shown]
      cases value <;> rfl
  | _ => simp [IsWord, Argument.kind] at word

end RoundTrip

/-- What an integer or a truth value is shown as is read back wherever blanks stand
around it.  A text is read as an integer exactly if, blanks apart, it spells one in the
range of its kind, and then it is read as this integer: nothing wraps or saturates, and
no part of a text is read alone. -/
theorem integers_are_read_as_they_are_spelled :
    (∀ argument code, IsWord argument → argument.kind.code? = some code →
      ∀ front back : List Char, (∀ character ∈ front, Text.isBlank character = true) →
        (∀ character ∈ back, Text.isBlank character = true) →
        fromText code (String.ofList (front ++ (argument.render ++ back))) = .ok argument) ∧
    TakesIntegers 'i' [.absent, .plus, .minus] (-2 ^ 31) (2 ^ 31) Int32.toInt .integer ∧
    TakesIntegers 'l' [.absent, .plus, .minus] (-2 ^ 63) (2 ^ 63) Int64.toInt .long ∧
    TakesIntegers 'u' [.absent, .plus] 0 (2 ^ 32) (fun word : UInt32 => word.toNat)
      .unsigned := by
  refine ⟨?_, takesIntegers_integer, takesIntegers_long, takesIntegers_unsigned⟩
  intro argument code word coded front back before behind
  apply fromText_render word coded
  rw [String.toList_ofList]
  exact Text.trim_between before behind (solid_render word)

/-- The least integer is read between an ideographic space and a line feed, and with a
zero in front of it; the integer below is not. -/
theorem example_least_integer_is_read :
    IsWord (.integer (-2147483648)) ∧
    fromText 'i' "\u3000-2147483648\n" = .ok (.integer (-2147483648)) ∧
    fromText 'i' "-02147483648" = .ok (.integer (-2147483648)) ∧
    fromText 'i' "-2147483649" =
      .error (.invalidValue 'i' "-2147483649" .int32) := by
  obtain ⟨shown, takes, -⟩ := integers_are_read_as_they_are_spelled
  have word : IsWord (.integer (-2147483648)) := List.mem_cons_self
  have spelled : Decimal.Spells .minus "-02147483648".toList (-2147483648) :=
    ⟨"02147483648".toList, by decide, by decide, List.all_eq_true.mp (by decide), by decide⟩
  refine ⟨word, ?_, ?_, by decide⟩
  · have cell : String.ofList ("\u3000".toList ++
        ((Argument.integer (-2147483648)).render ++ "\n".toList)) =
        "\u3000-2147483648\n" := by
      decide +kernel
    have read := shown _ 'i' word rfl "\u3000".toList "\n".toList
      (List.all_eq_true.mp (by decide)) (List.all_eq_true.mp (by decide))
    exact (congrArg (fromText 'i') cell).symm.trans read
  · exact (takes _ _).mpr ⟨.minus, by decide, _, _, spelled, by decide, by decide, rfl⟩

end Typing

end WorkPackage
