import WorkPackage.Job
import WorkPackage.Proofs.Text.Quoted
import WorkPackage.Proofs.Number.Decimal
import Mathlib.Data.List.Forall2

/-!
# Jobs as text

The form in which a job is shown tells what the job is.  Its signature has the kind of
each argument, and an argument of a known kind ends where its own form says, whatever
quotes, commas or brackets it has inside.  Only opaque values are shown by less than
they hold: of their bytes there is but the number.
-/

namespace WorkPackage

open Text (Splits Stops)

section Integers

namespace Decimal

/-- The characters that integers are written with. -/
def isSigned (character : Char) : Bool :=
  character.isDigit || character == '-'

theorem ofInt_isSigned (number : Int) :
    ∀ character ∈ ofInt number, isSigned character = true := by
  have digits : ∀ number, ∀ digit ∈ digits number, isSigned digit = true := by
    intro number digit member
    simp [isSigned, digits_isDigit number digit member]
  cases number with
  | ofNat number => exact digits number
  | negSucc number =>
      rw [ofInt]
      exact List.forall_mem_cons.mpr ⟨rfl, digits (number + 1)⟩

theorem ofInt_injective : Function.Injective ofInt := by
  intro left right same
  have read := signed?_ofInt left
  rw [same, signed?_ofInt] at read
  exact (Option.some.inj read).symm

theorem ofInt_splits : Splits (Stops isSigned) ofInt :=
  Text.splits_of_run ofInt_isSigned ofInt_injective

theorem digits_splits : Splits (Stops isSigned) digits :=
  ofInt_splits.comp fun _ _ => Int.ofNat_inj.mp

end Decimal

end Integers

section Signatures

namespace Kind

/-- The letter of a signature for an argument of this kind. -/
def letter (kind : Kind) : Char :=
  kind.code?.getD '-'

theorem letter_injective : Function.Injective letter := by
  intro left right
  cases left <;> cases right <;> decide

theorem letter_ne_bracket (kind : Kind) : (kind.letter != ']') = true := by
  cases kind <;> decide

end Kind

theorem Signature.ofArguments_eq (arguments : List Argument) :
    ofArguments arguments = (arguments.map Argument.kind).map Kind.letter := by
  rw [ofArguments, List.map_map]
  rfl

theorem Signature.letters_splits :
    Splits (Stops (· != ']')) fun kinds : List Kind => kinds.map Kind.letter := by
  apply Text.splits_of_run
  · intro kinds letter member
    obtain ⟨kind, -, rfl⟩ := List.mem_map.mp member
    exact kind.letter_ne_bracket
  · exact List.map_injective_iff.mpr Kind.letter_injective

end Signatures

namespace Argument

/-- Two arguments that are shown alike: an argument and itself, or two opaque values
of one size. -/
inductive Alike : Argument → Argument → Prop where
  | same (argument : Argument) : Alike argument argument
  | bytes {left right : ByteArray} (size : left.size = right.size) :
      Alike (.bytes left) (.bytes right)

/-- An argument whose form does not depend on how fractions are written. -/
def IsExact (argument : Argument) : Prop :=
  argument.kind ≠ .float ∧ argument.kind ≠ .double

variable {left right : Argument} {behind beyond : List Char}

theorem Alike.kind (alike : left.Alike right) : left.kind = right.kind := by
  cases alike <;> rfl

theorem Alike.eq (alike : left.Alike right) (seen : left.kind ≠ .bytes) : left = right := by
  cases alike with
  | same => rfl
  | bytes => exact absurd rfl seen

theorem Alike.render (alike : left.Alike right) : left.render = right.render := by
  cases alike with
  | same => rfl
  | bytes size =>
      exact congrArg (fun size => '<' :: Decimal.digits size ++ " bytes>".toList) size

theorem flag_prefixFree : Text.PrefixFree fun flag => (boolean flag).render := by
  intro left right behind beyond _ _ same
  cases left <;> cases right
  · exact ⟨rfl, List.append_cancel_left same⟩
  · exact absurd (List.head_eq_of_cons_eq same) (by decide)
  · exact absurd (List.head_eq_of_cons_eq same) (by decide)
  · exact ⟨rfl, List.append_cancel_left same⟩

theorem sizeForm_prefixFree :
    Text.PrefixFree fun size => '<' :: Decimal.digits size ++ " bytes>".toList :=
  (Decimal.digits_splits.before (by decide : Decimal.isSigned ' ' = false)
    "bytes>".toList).after ['<']

/-- An argument of a known kind ends where its form says. -/
theorem alike_of_render (kind : left.kind = right.kind) (isExact : left.IsExact)
    (stops : Stops Decimal.isSigned behind) (stopsBeyond : Stops Decimal.isSigned beyond)
    (same : left.render ++ behind = right.render ++ beyond) :
    left.Alike right ∧ behind = beyond := by
  have held : ∀ {α : Type} {write : α → List Char} (make : α → Argument) {value other : α},
      Splits (Stops Decimal.isSigned) write →
      write value ++ behind = write other ++ beyond →
      (make value).Alike (make other) ∧ behind = beyond := by
    intro α write make value other splits same
    obtain ⟨rfl, rest⟩ := splits stops stopsBeyond same
    exact ⟨.same _, rest⟩
  cases left with
  | unset =>
      cases right with
      | unset => exact ⟨.same _, List.append_cancel_left same⟩
      | _ => nomatch kind
  | text value =>
      cases right with
      | text other =>
          have texts := Text.quoted_prefixFree.splits (Stops Decimal.isSigned)
          exact held .text (texts.comp fun _ _ => String.toList_inj.mp) same
      | _ => nomatch kind
  | integer value =>
      cases right with
      | integer other =>
          exact held .integer (Decimal.ofInt_splits.comp fun _ _ => Int32.toInt_inj.mp) same
      | _ => nomatch kind
  | float word => exact absurd rfl isExact.1
  | boolean value =>
      cases right with
      | boolean other => exact held .boolean (flag_prefixFree.splits _) same
      | _ => nomatch kind
  | long value =>
      cases right with
      | long other =>
          exact held .long (Decimal.ofInt_splits.comp fun _ _ => Int64.toInt_inj.mp) same
      | _ => nomatch kind
  | double word => exact absurd rfl isExact.2
  | character value =>
      cases right with
      | character other => exact held .character (Text.quotedByte_prefixFree.splits _) same
      | _ => nomatch kind
  | bytes value =>
      cases right with
      | bytes other =>
          obtain ⟨size, rest⟩ := sizeForm_prefixFree trivial trivial same
          exact ⟨.bytes size, rest⟩
      | _ => nomatch kind
  | unsigned value =>
      cases right with
      | unsigned other =>
          exact held .unsigned (Decimal.digits_splits.comp fun _ _ => UInt32.toNat_inj.mp) same
      | _ => nomatch kind

end Argument

namespace Job

variable {left right : List Argument}

/-- The list of arguments as it stands behind the opening parenthesis. -/
def rendered (arguments : List Argument) : List Char :=
  List.intercalate ", ".toList (arguments.map Argument.render) ++ [')']

/-- How the list goes on behind one argument: each of the others has a separator in
front. -/
def listed (arguments : List Argument) : List Char :=
  arguments.flatMap (fun argument => ", ".toList ++ argument.render) ++ [')']

theorem rendered_cons (argument : Argument) (arguments : List Argument) :
    rendered (argument :: arguments) = argument.render ++ listed arguments := by
  rw [rendered, List.map_cons, Text.intercalate_cons]
  simp [listed, List.flatMap_map]

theorem listed_stops (arguments : List Argument) :
    Stops Decimal.isSigned (listed arguments) := by
  cases arguments with
  | nil => exact .cons (by decide) _
  | cons argument arguments => exact .cons (by decide) _

/-- Arguments of the same kinds are found again one by one, from the left. -/
theorem alike_of_listed (kinds : left.map Argument.kind = right.map Argument.kind)
    (allExact : ∀ argument ∈ left, argument.IsExact) (same : listed left = listed right) :
    List.Forall₂ Argument.Alike left right := by
  induction left generalizing right with
  | nil =>
      rw [List.map_nil, eq_comm, List.map_eq_nil_iff] at kinds
      rw [kinds]
      exact .nil
  | cons argument arguments induction =>
      obtain ⟨other, others, rfl, kind, kinds⟩ := List.map_eq_cons_iff.mp kinds.symm
      obtain ⟨first, later⟩ := List.forall_mem_cons.mp allExact
      have split : argument.render ++ listed arguments = other.render ++ listed others := by
        simpa [listed] using same
      obtain ⟨alike, rest⟩ := Argument.alike_of_render kind.symm first (listed_stops _)
        (listed_stops _) split
      exact .cons alike (induction kinds.symm later rest)

theorem listed_of_rendered (counted : left.length = right.length)
    (same : rendered left = rendered right) : listed left = listed right := by
  cases left with
  | nil => rw [List.length_eq_zero_iff.mp counted.symm]
  | cons argument arguments =>
      cases right with
      | nil => contradiction
      | cons other others =>
          rw [rendered_cons, rendered_cons] at same
          simpa [listed] using same

theorem map_eq_of_alike {β : Type} {see : Argument → β}
    (respects : ∀ left right : Argument, left.Alike right → see left = see right)
    (alike : List.Forall₂ Argument.Alike left right) : left.map see = right.map see := by
  induction alike with
  | nil => rfl
  | cons first _ induction => rw [List.map_cons, List.map_cons, respects _ _ first, induction]

theorem render_eq (job : Job) :
    job.render = '#' :: (Decimal.ofInt job.number.toInt ++ ' ' :: '[' ::
      (job.signature ++ ']' :: ' ' :: '(' :: rendered job.arguments)) := by
  simp [render, rendered]

end Job

/-- Two jobs are shown alike just if they have the same number and, in each place,
arguments of one kind that hold the same, or opaque values of one size.  How fractions
are written is left open: the first job has none, and then neither has the second. -/
theorem job_is_known_from_what_is_shown (left right : Job)
    (allExact : ∀ argument ∈ left.arguments, argument.IsExact) :
    left.render = right.render ↔
      left.number = right.number ∧
        List.Forall₂ Argument.Alike left.arguments right.arguments := by
  rw [Job.render_eq, Job.render_eq]
  constructor
  · intro same
    obtain ⟨number, behind⟩ := Decimal.ofInt_splits (.cons (by decide) _) (.cons (by decide) _)
      (List.cons.inj same).2
    simp only [List.cons.injEq, true_and, Job.signature, Signature.ofArguments_eq] at behind
    obtain ⟨kinds, rest⟩ := Signature.letters_splits (.cons (by decide) _)
      (.cons (by decide) _) behind
    simp only [List.cons.injEq, true_and] at rest
    have listed := Job.listed_of_rendered (by simpa using congrArg List.length kinds) rest
    exact ⟨Int32.toInt_inj.mp number, Job.alike_of_listed kinds allExact listed⟩
  · rintro ⟨number, alike⟩
    have kinds := Job.map_eq_of_alike (fun _ _ => Argument.Alike.kind) alike
    have forms := Job.map_eq_of_alike (fun _ _ => Argument.Alike.render) alike
    simp only [number, Job.signature, Signature.ofArguments_eq, Job.rendered, kinds, forms]

/-- A job with two texts in front of an opaque value. -/
def exampleShownJob (first second : String) (content : ByteArray) : Job where
  number := -7
  arguments := [.text first, .text second, .bytes content]

/-- The bytes of an opaque value are not shown.  But a text that looks like two is
still one. -/
theorem example_jobs_are_told_apart :
    (exampleShownJob "a" "b" ⟨#[1, 2]⟩).render = (exampleShownJob "a" "b" ⟨#[3, 4]⟩).render ∧
    (exampleShownJob "a\x22, \x22b" "c" ⟨#[]⟩).render ≠
      (exampleShownJob "a" "b\x22, \x22c" ⟨#[]⟩).render := by
  have allExact : ∀ first second value,
      ∀ argument ∈ (exampleShownJob first second value).arguments, argument.IsExact := by
    simp [exampleShownJob, Argument.IsExact, Argument.kind]
  constructor
  · apply (job_is_known_from_what_is_shown _ _ (allExact _ _ _)).mpr
    exact ⟨rfl, .cons (.same _) (.cons (.same _) (.cons (.bytes rfl) .nil))⟩
  · intro same
    have known := (job_is_known_from_what_is_shown _ _ (allExact _ _ _)).mp same
    obtain ⟨-, _ | ⟨first, -⟩⟩ := known
    exact absurd (first.eq (by decide)) (by decide)

end WorkPackage
