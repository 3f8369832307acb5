import WorkPackage.Typing
import WorkPackage.Proofs.Population

/-!
# Typed rows

Whatever a type code makes of a text or of a TOML value has the kind that the
code asks for.  So a row that was typed binds to the codes that it was typed
with, and these codes are its signature.
-/

namespace WorkPackage.Typing

open Wire (bind_eq_ok_iff pure_eq_ok_iff)

variable {kind : Kind} {code : Char} {argument : Argument} {codes : List Char}
  {arguments : List Argument}

theorem fromText?_kind {text : String}
    (found : fromText? kind text = some argument) : argument.kind = kind := by
  cases kind with
  | unset => cases found
  | text | bytes =>
      cases found
      rfl
  | integer | float | boolean | long | double | character | unsigned =>
      obtain ⟨_, _, rfl⟩ := Option.map_eq_some_iff.mp found
      rfl

theorem fromText_eq_ok_iff {text : String} : fromText code text = .ok argument ↔
    ∃ kind, Kind.ofCode? code = some kind ∧ fromText? kind text = some argument := by
  rw [fromText]
  cases Kind.ofCode? code with
  | none => simp
  | some kind => cases found : fromText? kind text <;> simp [found]

/-- A cell becomes an argument of the kind that its code asks for. -/
theorem fromText_code {text : String} (typed : fromText code text = .ok argument) :
    argument.kind.code? = some code := by
  obtain ⟨kind, known, found⟩ := fromText_eq_ok_iff.mp typed
  rw [fromText?_kind found]
  exact Kind.ofCode?_eq_some_iff.mp known

section Toml

variable {value : Toml.Value}

theorem inRange_kind {α : Type} {expectation : Expectation} {build : α → Argument}
    {content : Option α} (built : ∀ content, (build content).kind = kind)
    (found : inRange code value expectation build content = .ok argument) :
    argument.kind = kind := by
  cases content with
  | none => cases found
  | some content =>
      cases found
      exact built content

theorem fromKindToml_kind (typed : fromKindToml code kind value = .ok argument) :
    argument.kind = kind := by
  cases kind with
  | unset => cases value <;> contradiction
  | text =>
      cases value with
      | string content =>
          cases typed
          rfl
      | _ => contradiction
  | integer =>
      cases value with
      | integer number => exact inRange_kind (fun _ => rfl) typed
      | _ => contradiction
  | float =>
      cases value with
      | float _ | integer _ =>
          cases typed
          rfl
      | _ => contradiction
  | boolean =>
      cases value with
      | boolean content =>
          cases typed
          rfl
      | _ => contradiction
  | long =>
      cases value with
      | integer number => exact inRange_kind (fun _ => rfl) typed
      | _ => contradiction
  | double =>
      cases value with
      | float _ | integer _ =>
          cases typed
          rfl
      | _ => contradiction
  | character =>
      cases value with
      | string _ | integer _ => exact inRange_kind (fun _ => rfl) typed
      | _ => contradiction
  | bytes =>
      cases value with
      | string content =>
          cases typed
          rfl
      | array items =>
          rw [fromKindToml] at typed
          cases listed : listedBytes code items with
          | error fault =>
              rw [listed] at typed
              contradiction
          | ok bytes =>
              rw [listed] at typed
              cases typed
              rfl
      | _ => contradiction
  | unsigned =>
      cases value with
      | integer number => exact inRange_kind (fun _ => rfl) typed
      | _ => contradiction

/-- A value of a manifest becomes an argument of the kind that its code asks
for. -/
theorem fromToml_code (typed : fromToml code value = .ok argument) :
    argument.kind.code? = some code := by
  rw [fromToml] at typed
  cases known : Kind.ofCode? code with
  | none =>
      rw [known] at typed
      contradiction
  | some kind =>
      rw [known] at typed
      rw [fromKindToml_kind typed]
      exact Kind.ofCode?_eq_some_iff.mp known

end Toml

section Row

variable {α : Type} {convert : Char → α → Except TypingFault Argument}
  {values : List α}
  (typing : ∀ code value argument, convert code value = .ok argument →
    argument.kind.code? = some code)
include typing

theorem zip_mapM_codes (even : codes.length = values.length)
    (typed : (codes.zip values).mapM (fun (code, value) => convert code value) =
      .ok arguments) :
    arguments.map (fun argument => argument.kind.code?) = codes.map some := by
  induction codes generalizing values arguments with
  | nil =>
      rw [List.zip_nil_left] at typed
      cases pure_eq_ok_iff.mp typed
      rfl
  | cons code codes induction =>
      cases values with
      | nil => contradiction
      | cons value values =>
          rw [List.zip_cons_cons, List.mapM_cons, bind_eq_ok_iff] at typed
          obtain ⟨argument, first, rest⟩ := typed
          obtain ⟨others, later, finish⟩ := bind_eq_ok_iff.mp rest
          cases pure_eq_ok_iff.mp finish
          rw [List.map_cons, List.map_cons, typing code value argument first,
            induction (Nat.succ.inj even) later]

theorem row_binds (typed : row convert codes values = .ok arguments) :
    Addition.Binds { codes, values := arguments } := by
  rw [row] at typed
  by_cases even : codes.length = values.length
  · rw [if_neg (not_not_intro even)] at typed
    exact zip_mapM_codes typing even typed
  · rw [if_pos even] at typed
    contradiction

end Row

theorem textRow_binds {fields : List String}
    (typed : textRow codes fields = .ok arguments) :
    Addition.Binds { codes, values := arguments } :=
  row_binds (fun _ _ _ => fromText_code) typed

theorem tomlRow_binds {values : List Toml.Value}
    (typed : tomlRow codes values = .ok arguments) :
    Addition.Binds { codes, values := arguments } :=
  row_binds (fun _ _ _ => fromToml_code) typed

end WorkPackage.Typing
