import WorkPackage.Population
import WorkPackage.Proofs.Wire.Reading

/-!
# Laws of filling

A job is added if a slot is free and the codes stand for the kinds of the
values; the slot then holds these values.  A batch that fits is added row by
row, up to the first row that is refused.
-/

namespace WorkPackage

open Wire (bind_eq_ok_iff pure_eq_ok_iff)

/-- What a job is to be added with. -/
structure Addition where
  codes : List Char
  values : List Argument
  deriving DecidableEq

/-- Is there a code for each value, and are these the codes? -/
def Addition.Binds (addition : Addition) : Prop :=
  addition.values.map (fun value => value.kind.code?) = addition.codes.map some

instance (addition : Addition) : Decidable addition.Binds :=
  inferInstanceAs (Decidable (_ = _))

namespace Signature

theorem kinds_eq_ok_iff {codes : List Char} {kinds : List Kind} :
    Signature.kinds codes = .ok kinds ↔
      kinds.map Kind.code? = codes.map some := by
  induction codes generalizing kinds with
  | nil => cases kinds <;> simp [Signature.kinds, pure, Except.pure]
  | cons code codes induction =>
      have later := @induction
      rw [Signature.kinds] at later ⊢
      rw [List.mapM_cons, bind_eq_ok_iff]
      constructor
      · rintro ⟨kind, found, rest⟩
        obtain ⟨others, listed, finish⟩ := bind_eq_ok_iff.mp rest
        cases pure_eq_ok_iff.mp finish
        cases known : Kind.ofCode? code with
        | none =>
            rw [known] at found
            contradiction
        | some other =>
            rw [known] at found
            cases found
            rw [List.map_cons, List.map_cons, later.mp listed,
              Kind.ofCode?_eq_some_iff.mp known]
      · intro same
        cases kinds with
        | nil => contradiction
        | cons kind kinds =>
            obtain ⟨first, others⟩ := List.cons.inj same
            refine ⟨kind, ?_, bind_eq_ok_iff.mpr ⟨kinds, later.mpr others, rfl⟩⟩
            rw [Kind.ofCode?_eq_some_iff.mpr first]

theorem firstMismatch?_eq_none_iff {kinds : List Kind} {values : List Argument}
    (even : kinds.length = values.length) :
    firstMismatch? kinds values = none ↔ values.map Argument.kind = kinds := by
  induction kinds generalizing values with
  | nil =>
      cases values with
      | nil => simp [firstMismatch?]
      | cons value values => contradiction
  | cons kind kinds induction =>
      cases values with
      | nil => contradiction
      | cons value values =>
          rw [firstMismatch?, List.map_cons, List.cons.injEq]
          by_cases same : value.kind = kind
          · rw [if_pos same, induction (Nat.succ.inj even)]
            exact (and_iff_right same).symm
          · rw [if_neg same]
            simp [same]

/-- Values are bound as they are, if they are what the codes ask for. -/
theorem bind_eq_ok_iff_binds {codes : List Char} {values bound : List Argument} :
    bind codes values = .ok bound ↔
      Addition.Binds { codes, values } ∧ bound = values := by
  rw [bind, bind_eq_ok_iff]
  constructor
  · rintro ⟨kinds, known, rest⟩
    by_cases even : kinds.length = values.length
    · rw [if_neg (not_not_intro even)] at rest
      cases mismatch : firstMismatch? kinds values with
      | some fault =>
          rw [mismatch] at rest
          contradiction
      | none =>
          rw [mismatch] at rest
          cases rest
          have same := (firstMismatch?_eq_none_iff even).mp mismatch
          refine ⟨?_, rfl⟩
          rw [Addition.Binds, ← kinds_eq_ok_iff.mp known, ← same, List.map_map]
          rfl
    · rw [if_pos even] at rest
      contradiction
  · rintro ⟨binds, rfl⟩
    have known : Signature.kinds codes = .ok (bound.map Argument.kind) := by
      apply kinds_eq_ok_iff.mpr
      rw [List.map_map]
      exact binds
    have even : (bound.map Argument.kind).length = bound.length := List.length_map ..
    refine ⟨_, known, ?_⟩
    rw [if_neg (not_not_intro even), (firstMismatch?_eq_none_iff even).mpr rfl]

end Signature

namespace Addition

variable {addition : Addition}

theorem Binds.signature (binds : addition.Binds) :
    Signature.ofArguments addition.values = addition.codes := by
  have named : Signature.ofArguments addition.values =
      (addition.values.map fun value => value.kind.code?).map (·.getD '-') := by
    rw [List.map_map]
    rfl
  rw [named, binds, List.map_map]
  exact List.map_id _

/-- A value that is bound has a code, as an empty slot has not. -/
theorem Binds.isSet (binds : addition.Binds) :
    ∀ value ∈ addition.values, value.isSet = true := by
  intro value member
  have coded : value.kind.code? ∈ addition.codes.map some := by
    rw [← binds]
    exact List.mem_map_of_mem member
  cases empty : value.isSet with
  | true => rfl
  | false =>
      rw [Argument.isSet_eq_false_iff.mp empty] at coded
      obtain ⟨code, _, impossible⟩ := List.mem_map.mp coded
      contradiction

end Addition

/-- A job that has no slots yet takes any values that bind. -/
theorem Job.setArguments_eq_ok_iff {job bound : Job} {codes : List Char}
    {values : List Argument} (empty : job.arguments = []) :
    job.setArguments codes values = .ok bound ↔
      Addition.Binds { codes, values } ∧ bound = { job with arguments := values } := by
  rw [setArguments, if_neg fun arity => arity.1 empty]
  constructor
  · intro success
    cases binding : Signature.bind codes values with
    | error fault =>
        rw [binding] at success
        contradiction
    | ok arguments =>
        rw [binding] at success
        cases success
        obtain ⟨binds, rfl⟩ := Signature.bind_eq_ok_iff_binds.mp binding
        exact ⟨binds, rfl⟩
  · rintro ⟨binds, rfl⟩
    rw [Signature.bind_eq_ok_iff_binds.mpr ⟨binds, rfl⟩]
    rfl

namespace Package

variable {package next : Package} {codes : List Char} {values : List Argument}

theorem addJob_eq_ok_iff :
    package.addJob codes values = .ok next ↔
      ∃ slot free job, package.free = slot :: free ∧
        slot.setArguments codes values = .ok job ∧
        next = { package with filled := package.filled ++ [job], free } := by
  rw [addJob]
  cases package.free with
  | nil => simp
  | cons slot free =>
      dsimp only
      constructor
      · intro success
        cases bound : slot.setArguments codes values with
        | error fault =>
            rw [bound] at success
            contradiction
        | ok job =>
            rw [bound] at success
            cases success
            exact ⟨slot, free, job, rfl, bound, rfl⟩
      · rintro ⟨_, _, job, same, bound, rfl⟩
        cases same
        rw [bound]
        rfl

/-- Adds row after row; nothing comes of it unless all of them are added. -/
def addEach (package : Package) (codes : List Char)
    (rows : List (List Argument)) : Except Fault Package :=
  rows.foldlM (fun grown row => grown.addJob codes row) package

theorem addEach_cons_eq_ok_iff {row : List Argument} {rows : List (List Argument)} :
    package.addEach codes (row :: rows) = .ok next ↔
      ∃ grown, package.addJob codes row = .ok grown ∧
        grown.addEach codes rows = .ok next := by
  rw [addEach, List.foldlM_cons, bind_eq_ok_iff]
  rfl

/-- What has become of a batch. -/
inductive Fills (package : Package) (codes : List Char)
    (rows : List (List Argument)) (batch : Population) : Prop where
  | refused (beyond : package.free.length < rows.length)
      (outcome : batch.outcome = .error (.capacityExceeded package.capacity))
      (same : batch.package = package)
  | added (fits : rows.length ≤ package.free.length)
      (outcome : batch.outcome = .ok rows.length)
      (each : package.addEach codes rows = .ok batch.package)
  | stopped {earlier later : List (List Argument)} {row : List Argument}
      {fault : Fault} (fits : rows.length ≤ package.free.length)
      (outcome : batch.outcome = .error fault)
      (parted : rows = earlier ++ row :: later)
      (each : package.addEach codes earlier = .ok batch.package)
      (fails : batch.package.addJob codes row = .error fault)

/-- Either each row is added, or those before the first that is refused. -/
theorem addJobs_cases (package : Package) (codes : List Char)
    (rows : List (List Argument)) :
    (∃ last numbers, package.addJobs codes rows = (last, numbers, none) ∧
      package.addEach codes rows = .ok last) ∨
    ∃ earlier row later last numbers fault, rows = earlier ++ row :: later ∧
      package.addJobs codes rows = (last, numbers, some fault) ∧
      package.addEach codes earlier = .ok last ∧
      last.addJob codes row = .error fault := by
  induction rows generalizing package with
  | nil => exact .inl ⟨package, [], rfl, rfl⟩
  | cons row rows induction =>
      rw [addJobs]
      cases adds : package.addJob codes row with
      | error fault =>
          exact .inr ⟨[], row, rows, package, [], fault, rfl, rfl, rfl, adds⟩
      | ok grown =>
          obtain ⟨last, numbers, added, each⟩ |
            ⟨earlier, failing, later, last, numbers, fault, rfl, added, each, fails⟩ :=
            induction grown
          · refine .inl ⟨last, _, by simp only [added]; rfl, ?_⟩
            exact addEach_cons_eq_ok_iff.mpr ⟨grown, adds, each⟩
          · refine .inr ⟨row :: earlier, failing, later, last, _, fault, rfl,
              by simp only [added]; rfl, ?_, fails⟩
            exact addEach_cons_eq_ok_iff.mpr ⟨grown, adds, each⟩

theorem populate_fills (package : Package) (codes : List Char)
    (rows : List (List Argument)) :
    package.Fills codes rows (package.populate codes rows) := by
  rw [populate]
  by_cases beyond : package.free.length < rows.length
  · rw [if_pos beyond]
    exact .refused beyond rfl rfl
  · rw [if_neg beyond]
    have fits := Nat.le_of_not_lt beyond
    obtain ⟨last, numbers, added, each⟩ |
      ⟨earlier, row, later, last, numbers, fault, parted, added, each, fails⟩ :=
      package.addJobs_cases codes rows
    · rw [added]
      exact .added fits rfl each
    · rw [added]
      exact .stopped fits rfl parted each fails

end Package

end WorkPackage
