import WorkPackage.Proofs.Number.Literal

/-!
# Spelled numbers

A decimal literal is taken apart into the pieces that it is written with.  It is
read as what the positional notation of these pieces says, and what is read is
the same for every way to write it.
-/

namespace WorkPackage

namespace Spelling

/-- A power of ten behind a number. -/
structure Power where
  mark : Char
  sign : Sign
  run : List Char
  marked : mark = 'e' ∨ mark = 'E'
  digits : ∀ digit ∈ run, digit.isDigit = true
  written : run ≠ []

namespace Power

def text (power : Power) : List Char :=
  power.mark :: (power.sign.text ++ power.run)

def exponent (power : Power) : Int :=
  power.sign.apply (Decimal.value power.run)

end Power

end Spelling

/-- A decimal literal in its pieces: a sign, digits, a point with places behind
it, and a power of ten.  At least one digit stands beside the point. -/
structure Spelling where
  sign : Sign
  whole : List Char
  places : Option (List Char)
  power : Option Spelling.Power
  digits : ∀ digit ∈ whole ++ places.getD [], digit.isDigit = true
  written : whole ++ places.getD [] ≠ []

namespace Spelling

/-- The point with the places behind it. -/
def point (spelling : Spelling) : List Char :=
  match spelling.places with
  | none => []
  | some run => '.' :: run

def tail (spelling : Spelling) : List Char :=
  match spelling.power with
  | none => []
  | some power => power.text

def text (spelling : Spelling) : List Char :=
  spelling.sign.text ++ (spelling.whole ++ (spelling.point ++ spelling.tail))

def exponent (spelling : Spelling) : Int :=
  match spelling.power with
  | none => 0
  | some power => power.exponent

/-- What the notation stands for, without the sign. -/
def magnitude (spelling : Spelling) : ℚ :=
  let places := spelling.places.getD []
  (Decimal.value spelling.whole + Decimal.value places / 10 ^ places.length) *
    10 ^ spelling.exponent

/-- The literal that is read. -/
def literal (spelling : Spelling) : Literal :=
  let places := spelling.places.getD []
  .finite spelling.sign.negative (Decimal.value (spelling.whole ++ places))
    (spelling.exponent - places.length)

end Spelling

/-- What a number may open with when it has no sign. -/
def Opens (first : Char) : Prop :=
  first.isDigit = true ∨ first = '.'

namespace Opens

variable {first : Char} {rest : List Char}

theorem not_sign (opens : Opens first) : first ≠ '-' ∧ first ≠ '+' := by
  rcases opens with isDigit | rfl
  · constructor
    · rintro rfl
      contradiction
    · rintro rfl
      contradiction
  · decide

/-- No word opens with a digit or with a point. -/
theorem not_letter (opens : Opens first) :
    first.toLower ≠ 'i' ∧ first.toLower ≠ 'n' := by
  rcases opens with isDigit | rfl
  · obtain ⟨least, most⟩ := Decimal.range_of_isDigit isDigit
    rw [← Char.ofNat_toNat first]
    generalize first.toNat = code at least most
    interval_cases code <;> decide
  · decide

theorem splitSign_eq (opens : Opens first) :
    Literal.splitSign (first :: rest) = (false, first :: rest) := by
  obtain ⟨minus, plus⟩ := opens.not_sign
  rw [Literal.splitSign]
  · rintro other same
    cases same
    contradiction
  · rintro other same
    cases same
    contradiction

/-- What opens like a number is read as one. -/
theorem read?_eq (opens : Opens first) (sign : Sign) :
    Literal.read? (sign.text ++ first :: rest) =
      (Literal.magnitude? (first :: rest)).map fun (digits, exponent) =>
        .finite sign.negative digits exponent := by
  have split : Literal.splitSign (sign.text ++ first :: rest) =
      (sign.negative, first :: rest) := by
    cases sign with
    | absent => exact opens.splitSign_eq
    | plus => rfl
    | minus => rfl
  obtain ⟨infinite, nothing⟩ := opens.not_letter
  rw [Literal.read?, split]
  simp [← String.toList_inj, infinite, nothing]

end Opens

namespace Spelling

variable (spelling : Spelling)

theorem exponent?_tail : Literal.exponent? spelling.tail = some spelling.exponent := by
  rw [tail, exponent]
  cases spelling.power with
  | none => rfl
  | some power =>
      change Literal.exponent? (power.mark :: _) = _
      rw [Literal.exponent?, if_pos power.marked]
      exact Decimal.signed?_run power.digits power.written power.sign

/-- The digits in front of a power end where it begins. -/
theorem span_tail {run : List Char} (digits : ∀ digit ∈ run, digit.isDigit = true) :
    (run ++ spelling.tail).takeWhile Char.isDigit = run ∧
      (run ++ spelling.tail).dropWhile Char.isDigit = spelling.tail := by
  rw [List.takeWhile_append_of_pos digits, List.dropWhile_append_of_pos digits, tail]
  cases spelling.power with
  | none => simp
  | some power =>
      rcases power.marked with small | great
      · simp [Power.text, small]
      · simp [Power.text, great]

theorem tail_ne_point (rest : List Char) : spelling.tail ≠ '.' :: rest := by
  rw [tail]
  cases spelling.power with
  | none => simp
  | some power =>
      intro same
      have mark : power.mark = '.' := (List.cons.inj same).left
      rcases power.marked with small | great
      · cases small.symm.trans mark
      · cases great.symm.trans mark

theorem magnitude?_text :
    Literal.magnitude? (spelling.whole ++ (spelling.point ++ spelling.tail)) =
      some (Decimal.value (spelling.whole ++ spelling.places.getD []),
        spelling.exponent - (spelling.places.getD []).length) := by
  obtain ⟨digits, written⟩ := And.intro spelling.digits spelling.written
  have exponent := spelling.exponent?_tail
  rw [Literal.magnitude?, point]
  cases pieces : spelling.places with
  | none =>
      rw [pieces, Option.getD_none, List.append_nil] at digits written
      obtain ⟨front, behind⟩ := spelling.span_tail digits
      simp only [List.nil_append, front, behind, Option.getD_none]
      split
      next rest same => exact absurd same (spelling.tail_ne_point rest)
      next =>
        rw [if_neg, exponent]
        · rfl
        · simpa using written
  | some run =>
      rw [pieces, Option.getD_some] at digits written
      have whole : ∀ digit ∈ spelling.whole, digit.isDigit = true :=
        fun digit member => digits digit (List.mem_append_left run member)
      have places : ∀ digit ∈ run, digit.isDigit = true :=
        fun digit member => digits digit (List.mem_append_right _ member)
      obtain ⟨front, behind⟩ := spelling.span_tail places
      have stop : ∀ rest : List Char, ('.' :: rest).takeWhile Char.isDigit = [] ∧
          ('.' :: rest).dropWhile Char.isDigit = '.' :: rest :=
        fun _ => ⟨rfl, rfl⟩
      simp only [List.takeWhile_append_of_pos whole, List.dropWhile_append_of_pos whole,
        List.cons_append, stop, List.append_nil, front, behind, Option.getD_some]
      rw [if_neg, exponent]
      · rfl
      · simpa using written

/-- Without its sign, a number opens with a digit or with the point. -/
theorem exists_opening :
    ∃ first rest, spelling.whole ++ (spelling.point ++ spelling.tail) = first :: rest ∧
      Opens first := by
  obtain ⟨digits, written⟩ := And.intro spelling.digits spelling.written
  cases whole : spelling.whole with
  | cons first others =>
      refine ⟨first, _, rfl, .inl (digits first ?_)⟩
      rw [whole]
      exact List.mem_cons_self
  | nil =>
      rw [whole, List.nil_append] at written
      rw [point]
      cases pieces : spelling.places with
      | none =>
          rw [pieces] at written
          exact absurd rfl written
      | some run => exact ⟨'.', _, rfl, .inr rfl⟩

theorem read?_text : Literal.read? spelling.text = some spelling.literal := by
  obtain ⟨first, rest, opening, opens⟩ := spelling.exists_opening
  rw [text, opening, opens.read?_eq, ← opening, magnitude?_text]
  rfl

/-- A spelled number has no blanks. -/
theorem isBlank_text : ∀ character ∈ spelling.text, Text.isBlank character = false := by
  have solid : ∀ sign : Sign, ∀ character ∈ sign.text, Text.isBlank character = false := by
    intro sign character member
    cases sign with
    | absent => cases member
    | plus | minus =>
        rw [List.mem_singleton.mp member]
        rfl
  intro character member
  rw [text, List.mem_append, List.mem_append, List.mem_append] at member
  rcases member with signed | whole | pointed | powered
  · exact solid spelling.sign character signed
  · exact Text.isBlank_digit (spelling.digits character (List.mem_append_left _ whole))
  · rw [point] at pointed
    cases pieces : spelling.places with
    | none =>
        rw [pieces] at pointed
        contradiction
    | some run =>
        rw [pieces] at pointed
        rcases List.mem_cons.mp pointed with rfl | placed
        · decide
        · apply Text.isBlank_digit
          apply spelling.digits character
          rw [pieces]
          exact List.mem_append_right _ placed
  · rw [tail] at powered
    cases pieces : spelling.power with
    | none =>
        rw [pieces] at powered
        contradiction
    | some power =>
        rw [pieces] at powered
        rcases List.mem_cons.mp powered with rfl | behind
        · rcases power.marked with small | great
          · rw [small]
            decide
          · rw [great]
            decide
        · rcases List.mem_append.mp behind with signed | digit
          · exact solid power.sign character signed
          · exact Text.isBlank_digit (power.digits character digit)

theorem trim_text : Text.trim spelling.text = spelling.text :=
  Text.trim_eq_self spelling.isBlank_text

/-- The places behind the point count for their power of ten. -/
theorem magnitude_eq :
    spelling.magnitude =
      Decimal.value (spelling.whole ++ spelling.places.getD []) *
        10 ^ (spelling.exponent - (spelling.places.getD []).length) := by
  have ten : (10 : ℚ) ≠ 0 := by norm_num
  rw [magnitude, Decimal.value_append, zpow_sub₀ ten, zpow_natCast]
  push_cast
  field_simp

/-- An integer is spelled by its digits alone. -/
def ofInt (number : Int) : Spelling where
  sign :=
    match number with
    | .ofNat _ => .absent
    | .negSucc _ => .minus
  whole := Decimal.digits number.natAbs
  places := none
  power := none
  digits := by
    simpa using Decimal.digits_isDigit number.natAbs
  written := by
    simpa using Decimal.digits_ne_nil number.natAbs

theorem text_ofInt (number : Int) : (ofInt number).text = Decimal.ofInt number := by
  cases number with
  | ofNat number => exact List.append_nil _
  | negSucc number => exact congrArg ('-' :: ·) (List.append_nil _)

theorem literal_ofInt (number : Int) :
    (ofInt number).literal = .finite (number < 0) number.natAbs 0 := by
  have sign : (ofInt number).sign.negative = decide (number < 0) := by
    cases number with
    | ofNat number => exact (decide_eq_false (Int.not_lt.mpr (Int.natCast_nonneg _))).symm
    | negSucc number => exact (decide_eq_true (Int.negSucc_lt_zero number)).symm
  rw [literal, sign]
  simp [ofInt, exponent, Decimal.value_digits]

end Spelling

end WorkPackage
