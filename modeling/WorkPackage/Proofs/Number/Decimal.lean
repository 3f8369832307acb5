import WorkPackage.Number.Decimal
import WorkPackage.Text.Blank
import Mathlib.Data.List.Induction
import Mathlib.Tactic.IntervalCases
import Mathlib.Tactic.Ring

/-!
# Laws of decimal integers

The digits of a number are read back as the number, and there are as many as its
size calls for.  An integer that is written has no blanks, so that it is read
back wherever blanks are taken off first.
-/

namespace WorkPackage

/-- A sign as it is written. -/
inductive Sign where
  | absent
  | plus
  | minus
  deriving DecidableEq, Repr

namespace Sign

def text : Sign → List Char
  | absent => []
  | plus => ['+']
  | minus => ['-']

def negative : Sign → Bool
  | minus => true
  | _ => false

def apply (sign : Sign) (number : Nat) : Int :=
  if sign.negative then -number else number

end Sign

namespace Decimal

variable {number : Nat} {run : List Char}

section Digits

theorem range_of_isDigit {digit : Char} (isDigit : digit.isDigit = true) :
    48 ≤ digit.toNat ∧ digit.toNat ≤ 57 := by
  simpa [Char.isDigit, Char.le_def, UInt32.le_iff_toNat_le] using isDigit

theorem digitChar_isDigit (single : number < 10) : (Nat.digitChar number).isDigit = true := by
  interval_cases number <;> rfl

theorem digitValue_digitChar (single : number < 10) :
    digitValue (Nat.digitChar number) = number := by
  interval_cases number <;> rfl

theorem digits_ne_nil (number : Nat) : digits number ≠ [] := by
  rw [digits]
  split <;> simp

theorem digits_isDigit (number : Nat) : ∀ digit ∈ digits number, digit.isDigit = true := by
  induction number using digits.induct with
  | case1 number single =>
      rw [digits, if_pos single]
      simpa using digitChar_isDigit single
  | case2 number long induction =>
      rw [digits, if_neg long]
      intro digit member
      rcases List.mem_append.mp member with front | last
      · exact induction digit front
      · rw [List.mem_singleton.mp last]
        exact digitChar_isDigit (Nat.mod_lt number (by decide))

theorem value_concat (run : List Char) (digit : Char) :
    value (run ++ [digit]) = value run * 10 + digitValue digit := by
  rw [value, List.foldl_append]
  rfl

theorem value_append (run others : List Char) :
    value (run ++ others) = value run * 10 ^ others.length + value others := by
  induction others using List.reverseRecOn with
  | nil => simp [value]
  | append_singleton others digit induction =>
      rw [← List.append_assoc, value_concat, induction, value_concat,
        List.length_append, List.length_singleton, Nat.pow_succ]
      ring

theorem value_digits (number : Nat) : value (digits number) = number := by
  induction number using digits.induct with
  | case1 number single =>
      rw [digits, if_pos single, ← List.nil_append [_], value_concat,
        digitValue_digitChar single]
      exact Nat.zero_add number
  | case2 number long induction =>
      rw [digits, if_neg long, value_concat, induction,
        digitValue_digitChar (Nat.mod_lt number (by decide)), Nat.div_add_mod']

/-- The digits say of which order a number is. -/
theorem digits_order (positive : 0 < number) :
    ∃ fewer, (digits number).length = fewer + 1 ∧ 10 ^ fewer ≤ number ∧
      number < 10 ^ (fewer + 1) := by
  induction number using digits.induct with
  | case1 number single =>
      rw [digits, if_pos single]
      exact ⟨0, rfl, positive, single⟩
  | case2 number long induction =>
      obtain ⟨fewer, counted, least, beyond⟩ := induction (by omega)
      rw [digits, if_neg long, List.length_append, counted]
      refine ⟨fewer + 1, rfl, ?_, ?_⟩
      · rw [Nat.pow_succ]
        omega
      · rw [Nat.pow_succ]
        omega

end Digits

section Reading

variable (digits : ∀ digit ∈ run, digit.isDigit = true) (written : run ≠ [])

include digits written in
theorem natural?_run : natural? run = some (value run) :=
  if_pos ⟨written, List.all_eq_true.mpr digits⟩

include digits written in
/-- A run of digits has no sign. -/
theorem unsigned?_run : unsigned? run = some (value run) := by
  rw [unsigned?, natural?_run digits written]
  rintro rest rfl
  have isDigit := digits '+' List.mem_cons_self
  contradiction

include digits written in
theorem signed?_run (sign : Sign) :
    signed? (sign.text ++ run) = some (sign.apply (value run)) := by
  have natural := natural?_run digits written
  cases sign with
  | absent =>
      change signed? run = _
      rw [signed?, natural]
      · rfl
      · rintro rest rfl
        have isDigit := digits '+' List.mem_cons_self
        contradiction
      · rintro rest rfl
        have isDigit := digits '-' List.mem_cons_self
        contradiction
  | plus =>
      change (natural? run).map _ = _
      rw [natural]
      rfl
  | minus =>
      change (natural? run).map _ = _
      rw [natural]
      rfl

theorem signed?_ofInt (number : Int) : signed? (ofInt number) = some number := by
  cases number with
  | ofNat number =>
      have read := signed?_run (digits_isDigit number) (digits_ne_nil number) .absent
      rw [value_digits] at read
      exact read
  | negSucc number =>
      have read := signed?_run (digits_isDigit (number + 1)) (digits_ne_nil _) .minus
      rw [value_digits] at read
      exact read

/-- A text without a sign is no negative number. -/
theorem unsigned?_ofInt (number : Int) :
    unsigned? (ofInt number) = if 0 ≤ number then some number.toNat else none := by
  cases number with
  | ofNat number =>
      have read := unsigned?_run (digits_isDigit number) (digits_ne_nil number)
      rw [value_digits] at read
      exact read.trans (if_pos (Int.natCast_nonneg number)).symm
  | negSucc number =>
      rw [ofInt, unsigned?, natural?, if_neg (by simp), if_neg (by simp)]
      simp

end Reading

end Decimal

namespace Text

/-- Without blanks there is nothing to trim. -/
theorem trim_eq_self {text : List Char}
    (solid : ∀ character ∈ text, isBlank character = false) : trim text = text := by
  have kept : ∀ part : List Char, (∀ character ∈ part, isBlank character = false) →
      part.dropWhile isBlank = part := by
    intro part whole
    cases part with
    | nil => rfl
    | cons first others =>
        apply List.dropWhile_cons_of_neg
        rw [whole first List.mem_cons_self]
        exact Bool.false_ne_true
  rw [trim, kept text solid, kept text.reverse, List.reverse_reverse]
  intro character member
  exact solid character (List.mem_reverse.mp member)

theorem isBlank_digit {digit : Char} (isDigit : digit.isDigit = true) :
    isBlank digit = false := by
  have range := Decimal.range_of_isDigit isDigit
  simp only [isBlank, Ranges.covers, blankRanges, List.any_cons, List.any_nil]
  simp
  omega

end Text

end WorkPackage
