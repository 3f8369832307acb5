import WorkPackage.Listing
import WorkPackage.Proofs.Rendering

/-!
# Lines of a listing

A job is shown without any character that does not print: texts and bytes that have
such characters show them as escapes.  So the line of a slot is never broken, whatever
the slot holds, and a listing has as many lines behind its summary as there are slots.
-/

namespace WorkPackage

namespace Text

/-- A text that prints: each of its characters has a shape of its own. -/
def Printable (text : List Char) : Prop :=
  ∀ character ∈ text, isUnprintable character = false

/-- From the blank to the tilde every character of ASCII prints. -/
def IsVisible (character : Char) : Prop :=
  0x20 ≤ character.toNat ∧ character.toNat ≤ 0x7e

instance (character : Char) : Decidable (IsVisible character) :=
  inferInstanceAs (Decidable (_ ∧ _))

/-- A text of such characters. -/
def Visible (text : List Char) : Prop :=
  ∀ character ∈ text, IsVisible character

instance (text : List Char) : Decidable (Visible text) :=
  List.decidableBAll IsVisible text

theorem IsVisible.alone {character : Char} (visible : IsVisible character) :
    Visible [character] :=
  List.forall_mem_singleton.mpr visible

theorem IsVisible.not_covered {character : Char} (visible : IsVisible character)
    {ranges : Ranges} (apart : ∀ range ∈ ranges, range.2 < 0x20 ∨ 0x7e < range.1) :
    ranges.covers character = false := by
  obtain ⟨least, most⟩ := visible
  rw [Ranges.covers, List.any_eq_false]
  rintro ⟨first, last⟩ member inside
  simp only [Bool.and_eq_true, decide_eq_true_eq] at inside
  have bounds := apart _ member
  dsimp only at bounds
  omega

theorem IsVisible.printable {character : Char} (visible : IsVisible character) :
    isUnprintable character = false := by
  rw [isUnprintable, visible.not_covered (by decide +kernel),
    visible.not_covered (by decide), Bool.or_false]

namespace Printable

variable {text front back : List Char}

theorem visible (all : Visible text) : Printable text :=
  fun character member => (all character member).printable

theorem append (left : Printable front) (right : Printable back) :
    Printable (front ++ back) :=
  List.forall_mem_append.mpr ⟨left, right⟩

theorem behind (front : List Char) (all : Visible front) (rest : Printable back) :
    Printable (front ++ back) :=
  (visible all).append rest

theorem before (back : List Char) (all : Visible back) (start : Printable front) :
    Printable (front ++ back) :=
  start.append (visible all)

theorem flatMap {α : Type} {write : α → List Char}
    (prints : ∀ item, Printable (write item)) (items : List α) :
    Printable (items.flatMap write) := by
  intro character member
  obtain ⟨item, -, shown⟩ := List.mem_flatMap.mp member
  exact prints item character shown

theorem sublist (prints : Printable text) (part : List.Sublist front text) :
    Printable front :=
  fun character member => prints character (part.subset member)

/-- What prints stays on its line. -/
theorem unbroken (prints : Printable text) : '\n' ∉ text := by
  intro broken
  have feed : isUnprintable '\n' = true := rfl
  rw [prints '\n' broken] at feed
  contradiction

end Printable

section Quoted

theorem hexDigit_visible : ∀ number < 16, IsVisible (Nat.digitChar number) := by
  decide

theorem hexDigits_printable (number : Nat) : Printable (hexDigits number) := by
  induction number using hexDigits.induct with
  | case1 number single =>
      rw [hexDigits_single single]
      exact .visible (hexDigit_visible number single).alone
  | case2 number many induction =>
      rw [hexDigits_many many]
      have last := hexDigit_visible (number % 16) (Nat.mod_lt number (by decide))
      exact induction.append (.visible last.alone)

/-- A character that does not print is escaped. -/
theorem quotedCharacter_printable (character : Char) :
    Printable (quotedCharacter character) := by
  unfold quotedCharacter
  split
  case h_7 other _ _ _ _ _ _ =>
    split
    next =>
      have code := Printable.behind ['\\', 'u', '\x7b'] (by decide)
        (hexDigits_printable character.toNat)
      exact .before ['\x7d'] (by decide) code
    next solid =>
      rw [Bool.or_eq_true, not_or, Bool.not_eq_true, Bool.not_eq_true] at solid
      exact List.forall_mem_singleton.mpr solid.2
  all_goals exact .visible (by decide)

theorem quoted_printable (text : List Char) : Printable (quoted text) := by
  have content := Printable.flatMap quotedCharacter_printable text
  exact .before ['\x22'] (by decide) (.behind ['\x22'] (by decide) content)

theorem quotedByteContent_printable (byte : UInt8) : Printable (quotedByteContent byte) := by
  have bound := byte.toNat_lt
  unfold quotedByteContent
  split
  case h_7 other _ _ _ _ _ _ =>
    apply Printable.visible
    split
    next inside =>
      rw [Bool.and_eq_true, decide_eq_true_eq, decide_eq_true_eq] at inside
      have number : (Char.ofNat byte.toNat).toNat = byte.toNat := toNat_ofByte byte
      apply IsVisible.alone
      rw [IsVisible, number]
      exact inside
    next =>
      have high := hexDigit_visible (byte.toNat / 16) (by omega)
      have low := hexDigit_visible (byte.toNat % 16) (by omega)
      exact List.forall_mem_append.mpr ⟨(by decide : Visible ['\\', 'x']),
        List.forall_mem_cons.mpr ⟨high, low.alone⟩⟩
  all_goals exact .visible (by decide)

theorem quotedByte_printable (byte : UInt8) : Printable (quotedByte byte) := by
  have content := quotedByteContent_printable byte
  exact .before ['\x27'] (by decide) (.behind ['\x27'] (by decide) content)

end Quoted

end Text

open Text (Printable)

section Numbers

namespace Decimal

theorem isSigned_visible {character : Char} (signed : isSigned character = true) :
    Text.IsVisible character := by
  rw [isSigned, Bool.or_eq_true, beq_iff_eq] at signed
  rcases signed with digit | rfl
  · obtain ⟨least, most⟩ := range_of_isDigit digit
    exact ⟨by omega, by omega⟩
  · decide

theorem ofInt_printable (number : Int) : Printable (ofInt number) :=
  .visible fun character member => isSigned_visible (ofInt_isSigned number character member)

theorem digits_printable (number : Nat) : Printable (digits number) :=
  ofInt_printable number

end Decimal

namespace Shortest

theorem positional_printable (steps : Nat) (grid : Int) :
    Printable (positional steps grid) := by
  have digits := Decimal.digits_printable steps
  have zeros : ∀ count, Printable (List.replicate count '0') := by
    intro count
    apply Printable.visible
    intro character member
    rw [List.eq_of_mem_replicate member]
    decide
  unfold positional
  dsimp only
  split
  · exact digits.append (zeros _)
  · split
    · have part := fun count => digits.sublist (List.take_sublist count _)
      have rest := fun count => digits.sublist (List.drop_sublist count _)
      exact (part _).append (.behind ['.'] (by decide) (rest _))
    · exact (Printable.behind ['0', '.'] (by decide) (zeros _)).append digits

theorem render_printable (format : Binary.Format) (word : Nat) :
    Printable (render format word) := by
  have signed : ∀ (negative : Bool) {text : List Char}, Printable text →
      Printable (if negative then '-' :: text else text) := by
    intro negative text prints
    cases negative with
    | false => exact prints
    | true => exact .behind ['-'] (by decide) prints
  unfold render
  split
  · exact .visible (by decide)
  · exact signed _ (.visible (by decide))
  · exact signed _ (.visible (by decide))
  · exact signed _ (positional_printable _ _)

end Shortest

end Numbers

section Slots

theorem Argument.render_printable (argument : Argument) : Printable argument.render := by
  cases argument with
  | unset => exact .visible (by decide)
  | text value => exact Text.quoted_printable _
  | integer value | long value => exact Decimal.ofInt_printable _
  | float word | double word => exact Shortest.render_printable _ _
  | boolean value => cases value <;> exact .visible (by decide)
  | character value => exact Text.quotedByte_printable value
  | bytes value =>
      have size := Printable.behind ['<'] (by decide) (Decimal.digits_printable value.size)
      exact .before " bytes>".toList (by decide) size
  | unsigned value => exact Decimal.digits_printable _

namespace Job

theorem signature_printable (job : Job) : Printable job.signature := by
  rw [signature, Signature.ofArguments_eq]
  apply Printable.visible
  intro letter member
  obtain ⟨kind, -, rfl⟩ := List.mem_map.mp member
  cases kind <;> decide

theorem listed_printable (arguments : List Argument) : Printable (listed arguments) := by
  have further := fun argument : Argument =>
    Printable.behind ", ".toList (by decide) argument.render_printable
  exact .before [')'] (by decide) (.flatMap further arguments)

theorem rendered_printable (arguments : List Argument) : Printable (rendered arguments) := by
  cases arguments with
  | nil => exact .visible (by decide)
  | cons argument arguments =>
      rw [rendered_cons]
      exact argument.render_printable.append (listed_printable arguments)

/-- Whatever a job holds, it is shown by characters that print. -/
theorem render_printable (job : Job) : Printable job.render := by
  rw [render_eq]
  have arguments := Printable.behind "] (".toList (by decide) (rendered_printable job.arguments)
  have signed := Printable.behind " [".toList (by decide) (job.signature_printable.append arguments)
  exact .behind ['#'] (by decide) ((Decimal.ofInt_printable _).append signed)

/-- The word for how far a job has come. -/
inductive Labelled (job : Job) : String → Prop where
  | done (completed : job.completed = true) : Labelled job "done"
  | pending (due : job.completed = false) (some : job.arguments ≠ [])
      (set : ∀ argument ∈ job.arguments, argument ≠ .unset) : Labelled job "pending"
  | empty (due : job.completed = false)
      (lacks : job.arguments = [] ∨ .unset ∈ job.arguments) : Labelled job "empty"

/-- A slot as one line shows it: behind an indent stands the word for how far its job
has come, filled up to eight letters, and behind a blank the job. -/
structure ShownBy (job : Job) (line : List Char) : Prop where
  form : ∃ word, Labelled job word ∧
    line = ' ' :: ' ' :: (word.toList.rightpad 8 ' ' ++ ' ' :: job.render)
  printable : Printable line
  unbroken : '\n' ∉ line

theorem exists_label (job : Job) :
    ∃ word, Labelled job word ∧ job.state.label = word.toList.rightpad 8 ' ' := by
  unfold state
  split
  next completed => exact ⟨_, .done completed, rfl⟩
  next due =>
    rw [Bool.not_eq_true] at due
    split
    next populated =>
      obtain ⟨some, set⟩ := job.isPopulated_iff.mp populated
      exact ⟨_, .pending due some set, rfl⟩
    next created =>
      refine ⟨_, .empty due ?_, rfl⟩
      by_contra lacks
      rw [not_or] at lacks
      apply created
      refine job.isPopulated_iff.mpr ⟨lacks.1, ?_⟩
      rintro argument member rfl
      exact lacks.2 member

theorem slotLine_printable (job : Job) : Printable (Package.slotLine job) := by
  have label : ∀ state : JobState, Printable state.label := by
    intro state
    cases state <;> exact .visible (by decide)
  have shown := Printable.behind [' '] (by decide) job.render_printable
  exact (Printable.behind "  ".toList (by decide) (label job.state)).append shown

theorem shownBy_slotLine (job : Job) : job.ShownBy (Package.slotLine job) where
  form := by
    obtain ⟨word, labelled, label⟩ := job.exists_label
    refine ⟨word, labelled, ?_⟩
    rw [Package.slotLine, label]
    rfl
  printable := job.slotLine_printable
  unbroken := job.slotLine_printable.unbroken

end Job

end Slots

/-- A listing with jobs goes on behind the summary with one line for each slot, in the
order of the slots, and a line feed stands behind each line and nowhere else. -/
theorem listing_has_one_line_for_each_slot (package : Package) :
    ∃ lines : List (List Char),
      package.listing true = package.listing false ++ lines.flatMap (· ++ ['\n']) ∧
        lines.length = package.capacity ∧
        List.Forall₂ Job.ShownBy package.jobs lines := by
  refine ⟨package.jobs.map Package.slotLine, ?_, ?_, ?_⟩
  · simp [Package.listing]
  · simp [Package.jobs, Package.capacity]
  · rw [List.forall₂_map_right_iff, List.forall₂_same]
    exact fun job _ => job.shownBy_slotLine

/-- A job with line ends in each kind of text keeps to its line. -/
example : Package.slotLine { arguments := [.text "a\r\n\u2028b", .character 10] } =
    "  pending  #0 [tc] (\"a\\r\\n\\u\x7b2028\x7db\", '\\n')".toList := by
  decide +kernel

end WorkPackage
