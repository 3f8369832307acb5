import WorkPackage.Proofs.Completion
import WorkPackage.Proofs.Wire.Frame
import WorkPackage.Marking

/-!
# Laws of marking

Whether a job is completed by its number or by a result for it, what is done is
to mark a slot: the first one with the number, and for a result the first filled
one.  Marking a slot changes the flag of its job and nothing else.
-/

namespace WorkPackage

theorem Job.map_pending_modify (jobs : List Job) (slot : Nat) :
    (jobs.modify slot Job.complete).map Job.pending = jobs.map Job.pending := by
  apply List.ext_getElem?
  intro index
  rw [List.getElem?_map, List.getElem?_map, List.getElem?_modify,
    Option.map_eq_map, Option.map_map]
  congr 1
  funext job
  by_cases same : slot = index
  · rw [Function.comp_apply, if_pos same]
    rfl
  · rw [Function.comp_apply, if_neg same]

namespace Package

variable {package next : Package} {number : Int32} {slot : Nat} {flipped : Bool}

section Slot

variable (marked : package.markSlot? slot = some (flipped, next))
include marked

theorem markSlot?_pending : next.pending = package.pending := by
  obtain ⟨job, _, same⟩ := Option.map_eq_some_iff.mp marked
  cases same
  by_cases inside : slot < package.added
  · simp only [pending, if_pos inside, Job.map_pending_modify]
  · simp only [pending, if_neg inside, Job.map_pending_modify]

theorem markSlot?_added : next.added = package.added := by
  obtain ⟨job, _, same⟩ := Option.map_eq_some_iff.mp marked
  cases same
  exact List.length_modify Job.complete package.filled slot

theorem markSlot?_getElem? (index : Nat) :
    next.jobs[index]? = (package.jobs[index]?).map fun job =>
      if slot = index then job.complete else job := by
  obtain ⟨job, _, same⟩ := Option.map_eq_some_iff.mp marked
  cases same
  rw [jobs, jobs, List.getElem?_append, List.getElem?_append, List.length_modify]
  by_cases filled : index < package.filled.length
  · rw [if_pos filled, if_pos filled, List.getElem?_modify]
    rfl
  · rw [if_neg filled, if_neg filled]
    by_cases inside : slot < package.added
    · have apart : slot ≠ index := by
        unfold added at inside
        omega
      rw [if_pos inside]
      simp only [if_neg apart, Option.map_id']
    · have shifted : slot - package.added = index - package.filled.length ↔
          slot = index := by
        unfold added at inside ⊢
        omega
      rw [if_neg inside, List.getElem?_modify]
      simp only [shifted]
      rfl

theorem markSlot?_flag (index : Nat) :
    (next.jobs[index]?).map Job.completed =
      (package.jobs[index]?).map fun job => job.completed || decide (slot = index) := by
  rw [markSlot?_getElem? marked, Option.map_map]
  congr 1
  funext job
  by_cases same : slot = index
  · simp [same, Job.complete]
  · simp [same]

end Slot

theorem completeFirst_eq_none {jobs : List Job}
    (missing : completeFirst number jobs = none) :
    ∀ job ∈ jobs, job.number ≠ number := by
  rw [completeFirst_eq_findIdx?] at missing
  cases found : jobs.findIdx? fun job => job.number = number with
  | none => simpa using found
  | some slot =>
      obtain ⟨inside, -⟩ := List.findIdx?_eq_some_iff_getElem.mp found
      rw [found, Option.bind_some, List.getElem?_eq_getElem inside] at missing
      contradiction

theorem completeFilled?_eq (package : Package) (number : Int32) :
    package.completeFilled? number =
      (package.filledSlot? number).bind package.markSlot? := by
  rw [completeFilled?, completeFirst_eq_findIdx?, filledSlot?]
  cases found : package.filled.findIdx? fun job => job.number = number with
  | none => rfl
  | some slot =>
      have inside : slot < package.added :=
        (List.findIdx?_eq_some_iff_getElem.mp found).1
      rw [Option.bind_some, Option.bind_some, markSlot?, jobs,
        List.getElem?_append_left inside, if_pos inside, Option.map_map]
      rfl

theorem markSlot?_of_lt (inside : slot < package.jobs.length) :
    ∃ flipped next, package.markSlot? slot = some (flipped, next) := by
  simp [markSlot?, List.getElem?_eq_getElem inside]

/-- A slot behind the filled ones. -/
theorem markSlot?_free (package : Package) (slot : Nat) :
    package.markSlot? (slot + package.filled.length) =
      (package.free[slot]?).map fun job =>
        (!job.completed,
          { package with free := package.free.modify slot Job.complete }) := by
  have outside : package.filled.length ≤ slot + package.filled.length :=
    Nat.le_add_left _ _
  have behind : ¬slot + package.filled.length < package.added :=
    Nat.not_lt.mpr outside
  rw [markSlot?, jobs, List.getElem?_append_right outside,
    List.modify_eq_self outside, if_neg behind, added, Nat.add_sub_cancel]

theorem markCompleted_eq (package : Package) (number : Int32) :
    package.markCompleted number =
      ((package.jobs.findIdx? fun job => job.number = number).bind
        package.markSlot?).elim (.error (.unknownJob number)) .ok := by
  rw [markCompleted, completeFilled?_eq, filledSlot?, jobs, List.findIdx?_append]
  cases filled : package.filled.findIdx? fun job => job.number = number with
  | some slot =>
      have inside : slot < package.jobs.length := by
        have before := (List.findIdx?_eq_some_iff_getElem.mp filled).1
        rw [jobs, List.length_append]
        exact Nat.lt_add_right _ before
      obtain ⟨flipped, next, marked⟩ := markSlot?_of_lt inside
      simp [marked]
  | none =>
      rw [completeFirst_eq_findIdx?]
      cases free : package.free.findIdx? fun job => job.number = number with
      | none => simp
      | some slot =>
          have inside : slot < package.free.length :=
            (List.findIdx?_eq_some_iff_getElem.mp free).1
          simp [markSlot?_free, List.getElem?_eq_getElem inside]

theorem completeFilled?_marks
    (completed : package.completeFilled? number = some (flipped, next)) :
    ∃ slot job, package.filled[slot]? = some job ∧ job.number = number ∧
      package.markSlot? slot = some (flipped, next) := by
  rw [completeFilled?_eq] at completed
  obtain ⟨slot, named, marks⟩ := Option.bind_eq_some_iff.mp completed
  obtain ⟨inside, names, -⟩ := List.findIdx?_eq_some_iff_getElem.mp named
  exact ⟨slot, package.filled[slot], List.getElem?_eq_getElem inside,
    of_decide_eq_true names, marks⟩

/-- Marking a number marks the slot of a job that has it. -/
theorem markCompleted_marks
    (marked : package.markCompleted number = .ok (flipped, next)) :
    ∃ slot job, package.jobs[slot]? = some job ∧ job.number = number ∧
      package.markSlot? slot = some (flipped, next) := by
  rw [markCompleted_eq] at marked
  cases found : package.jobs.findIdx? fun job => job.number = number with
  | none =>
      rw [found] at marked
      contradiction
  | some slot =>
      obtain ⟨inside, names, -⟩ := List.findIdx?_eq_some_iff_getElem.mp found
      obtain ⟨_, _, marks⟩ := markSlot?_of_lt inside
      rw [found, Option.bind_some, marks] at marked
      cases marked
      exact ⟨slot, package.jobs[slot], List.getElem?_eq_getElem inside,
        of_decide_eq_true names, marks⟩

theorem markCompleted_refused {fault : Fault}
    (refused : package.markCompleted number = .error fault) :
    ∀ job ∈ package.jobs, job.number ≠ number := by
  rw [markCompleted_eq] at refused
  cases found : package.jobs.findIdx? fun job => job.number = number with
  | none => simpa using found
  | some slot =>
      obtain ⟨inside, -⟩ := List.findIdx?_eq_some_iff_getElem.mp found
      obtain ⟨_, _, marks⟩ := markSlot?_of_lt inside
      rw [found, Option.bind_some, marks] at refused
      contradiction

end Package

/-- A result either changes nothing or marks a filled slot. -/
theorem Tracker.handle_marks {tracker : Tracker} {result : JobResult}
    {handled : Handled} (handles : tracker.handle result = .ok handled) :
    handled.tracker.package = tracker.package ∨
      ∃ slot < tracker.package.added,
        tracker.package.markSlot? slot = some (true, handled.tracker.package) := by
  rw [handle] at handles
  cases completed : tracker.package.completeFilled? result.number with
  | none =>
      rw [completed] at handles
      contradiction
  | some answer =>
      obtain ⟨flipped, after⟩ := answer
      rw [completed] at handles
      cases flipped with
      | false =>
          cases handles
          exact .inl rfl
      | true =>
          cases handles
          obtain ⟨slot, job, found, -, marks⟩ := Package.completeFilled?_marks completed
          exact .inr ⟨slot, (List.getElem?_eq_some_iff.mp found).1, marks⟩

end WorkPackage
