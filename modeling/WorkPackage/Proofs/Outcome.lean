import WorkPackage.Proofs.Wire.Reading
import Mathlib.Data.List.Forall2

/-!
# Laws of outcomes

An outcome is a value or a fault.  Items that are converted one after the other
yield all their results, or the fault of the first item that has one.
-/

namespace WorkPackage

open Wire (bind_eq_ok_iff pure_eq_ok_iff)

variable {ε ε' α β : Type}

theorem bind_eq_error_iff {outcome : Except ε α} {next : α → Except ε β} {fault : ε} :
    (outcome >>= next) = .error fault ↔
      outcome = .error fault ∨
        ∃ middle, outcome = .ok middle ∧ next middle = .error fault := by
  cases outcome with
  | ok middle => simp [bind, Except.bind]
  | error other => simp [bind, Except.bind]

theorem mapError_eq_ok_iff {outcome : Except ε α} {wrap : ε → ε'} {answer : α} :
    outcome.mapError wrap = .ok answer ↔ outcome = .ok answer := by
  cases outcome with
  | error fault => constructor <;> intro same <;> cases same
  | ok value => constructor <;> intro same <;> cases same <;> rfl

/-- Each item is converted to the result at its place. -/
theorem mapM_eq_ok_iff {convert : α → Except ε β} {items : List α} {results : List β} :
    items.mapM convert = .ok results ↔
      List.Forall₂ (fun item result => convert item = .ok result) items results := by
  induction items generalizing results with
  | nil =>
      rw [List.mapM_nil, pure_eq_ok_iff, List.forall₂_nil_left_iff, eq_comm]
  | cons item items induction =>
      rw [List.mapM_cons, bind_eq_ok_iff, List.forall₂_cons_left_iff]
      constructor
      · rintro ⟨result, first, rest⟩
        obtain ⟨others, later, finish⟩ := bind_eq_ok_iff.mp rest
        exact ⟨result, others, first, induction.mp later, (pure_eq_ok_iff.mp finish).symm⟩
      · rintro ⟨result, others, first, later, rfl⟩
        exact ⟨result, first, bind_eq_ok_iff.mpr ⟨others, induction.mpr later, rfl⟩⟩

theorem exists_of_forall₂ {relation : α → β → Prop} {items : List α} {results : List β}
    (paired : List.Forall₂ relation items results) :
    ∀ result ∈ results, ∃ item ∈ items, relation item result := by
  induction paired with
  | nil => exact fun _ => nofun
  | @cons item _ items _ first _ induction =>
      intro result member
      rcases List.mem_cons.mp member with rfl | behind
      · exact ⟨item, List.mem_cons_self, first⟩
      · obtain ⟨source, inside, same⟩ := induction result behind
        exact ⟨source, List.mem_cons_of_mem item inside, same⟩

/-- Converting fails with the fault of the first item that cannot be converted. -/
theorem mapM_eq_error_iff {convert : α → Except ε β} {items : List α} {fault : ε} :
    items.mapM convert = .error fault ↔
      ∃ before item after, items = before ++ item :: after ∧
        (∀ earlier ∈ before, ∃ result, convert earlier = .ok result) ∧
        convert item = .error fault := by
  induction items with
  | nil => simp [pure, Except.pure]
  | cons first items induction =>
      rw [List.mapM_cons, bind_eq_error_iff]
      constructor
      · rintro (fails | ⟨result, converted, rest⟩)
        · exact ⟨[], first, items, rfl, fun _ => nofun, fails⟩
        · rcases bind_eq_error_iff.mp rest with later | ⟨_, _, impossible⟩
          · obtain ⟨before, item, after, rfl, fine, fails⟩ := induction.mp later
            refine ⟨first :: before, item, after, rfl, ?_, fails⟩
            exact List.forall_mem_cons.mpr ⟨⟨result, converted⟩, fine⟩
          · contradiction
      · rintro ⟨before, item, after, parted, fine, fails⟩
        cases before with
        | nil =>
            cases parted
            exact .inl fails
        | cons other before =>
            cases parted
            obtain ⟨⟨result, converted⟩, others⟩ := List.forall_mem_cons.mp fine
            apply Or.inr
            refine ⟨result, converted, bind_eq_error_iff.mpr (.inl ?_)⟩
            exact induction.mpr ⟨before, item, after, rfl, others, fails⟩

end WorkPackage
