import WorkPackage.Proofs.History.Contents
import WorkPackage.Proofs.Execution.Outcome

/-!
# Marks on free slots

A job that is added takes over the flag of its slot, and nothing but a reset or
a frame clears a flag.  A slot can be marked while it is free, by its number or
by its index, though not by a result.  So a job is pending once it is added if,
and only if, nobody has marked its slot before.
-/

namespace WorkPackage

namespace Operation

/-- Does a package keep its flags? -/
def KeepsFlags : Operation → Prop
  | .reset _ _ _ | .reload => False
  | _ => True

instance : DecidablePred KeepsFlags
  | .reset _ _ _ | .reload => .isFalse id
  | .add _ _ | .populate _ _ | .mark _ | .markSlot _ | .handle _ _ | .copy =>
      .isTrue trivial

/-- Does an operation mark a slot, even if it is free? -/
def marks (slot : Nat) : Operation → Bool
  | .mark number => number = Int32.ofNat slot
  | .markSlot index => index = slot
  | _ => false

end Operation

/-- What has become of an addition: whether the job in its slot is due, so that
it counts as pending, will be run and takes a result. -/
structure Package.Gains (before next : Package) (slot : Nat) (due : Bool) : Prop where
  counted : next.pendingCount = before.pendingCount + due.toNat
  pending : slot ∈ next.pendingSlots ↔ due = true
  run : ∀ worker schedule execution, Executes next worker schedule execution →
    (∀ job ∈ next.pendingJobs, ∃ data, worker job = .ok data) →
    (slot ∈ slotsOf .start schedule ↔ due = true) ∧
    ∃ results, execution.outcome = .ok results ∧
      (Int32.ofNat slot ∈ results.map JobResult.number ↔ due = true)
  takes : ∀ kept data, ∃ handled,
    Tracker.handle { package := next, results := kept }
      { number := Int32.ofNat slot, data } = .ok handled ∧ handled.completed = due

variable {package next : Package} {contents : Contents} {operation : Operation}
  {history : List Operation} {codes : List Char} {values : List Argument}
  {rows : List (List Argument)} {slot : Nat} {job : Job}

namespace Package

section Added

variable (adds : package.addJob codes values = .ok next)
include adds

theorem addJob_added : next.added = package.added + 1 := by
  obtain ⟨_, _, job, _, _, rfl⟩ := addJob_eq_ok_iff.mp adds
  exact List.length_append

/-- The slots that are still free are as they were. -/
theorem addJob_getElem? (free : next.added ≤ slot) :
    next.jobs[slot]? = package.jobs[slot]? := by
  have grown := addJob_added adds
  obtain ⟨first, later, job, parted, _, rfl⟩ := addJob_eq_ok_iff.mp adds
  have behind : package.filled.length ≤ slot := by
    rw [grown] at free
    exact Nat.le_of_succ_le free
  have index : slot - package.filled.length =
      slot - (package.filled ++ [job]).length + 1 := by
    rw [grown, added] at free
    rw [List.length_append, List.length_singleton]
    omega
  rw [jobs, jobs, List.getElem?_append_right behind, parted, index,
    List.getElem?_cons_succ]
  exact List.getElem?_append_right free

end Added

theorem addEach_getElem? (each : package.addEach codes rows = .ok next)
    (free : next.added ≤ slot) :
    package.added ≤ next.added ∧ next.jobs[slot]? = package.jobs[slot]? := by
  induction rows generalizing package with
  | nil =>
      cases each
      exact ⟨Nat.le_refl _, rfl⟩
  | cons row rows induction =>
      obtain ⟨grown, adds, later⟩ := addEach_cons_eq_ok_iff.mp each
      obtain ⟨more, same⟩ := induction later
      have one := addJob_added adds
      refine ⟨by omega, ?_⟩
      rw [same, addJob_getElem? adds (Nat.le_trans more free)]

theorem populate_getElem? {batch : Population} (fills : package.Fills codes rows batch)
    (free : batch.package.added ≤ slot) :
    batch.package.jobs[slot]? = package.jobs[slot]? := by
  cases fills with
  | refused _ _ same => rw [same]
  | added _ _ each => exact (addEach_getElem? each free).2
  | stopped _ _ _ each _ => exact (addEach_getElem? each free).2

theorem perform_add_getElem?
    (free : (package.perform (.add codes values)).package.added ≤ slot) :
    (package.perform (.add codes values)).package.jobs[slot]? = package.jobs[slot]? := by
  rw [perform] at free ⊢
  cases adds : package.addJob codes values with
  | error fault => rfl
  | ok next =>
      rw [adds] at free
      exact addJob_getElem? adds free

/-- A result is for a filled slot. -/
theorem perform_handle_getElem? {kept : List JobResult} {result : JobResult}
    (free : (package.perform (.handle kept result)).package.added ≤ slot) :
    (package.perform (.handle kept result)).package.jobs[slot]? =
      package.jobs[slot]? := by
  rw [perform] at free ⊢
  cases handles : Tracker.handle { package, results := kept } result with
  | error fault => rfl
  | ok handled =>
      rw [handles] at free
      obtain same | ⟨index, inside, marks⟩ := Tracker.handle_marks handles
      · exact congrArg (fun package => package.jobs[slot]?) same
      · rw [← markSlot?_added marks] at inside
        have apart : index ≠ slot := Nat.ne_of_lt (Nat.lt_of_lt_of_le inside free)
        have same := markSlot?_getElem? marks slot
        simp only [if_neg apart, Option.map_id'] at same
        exact same

theorem perform_markSlot_flag (package : Package) (index slot : Nat) :
    ((package.perform (.markSlot index)).package.jobs[slot]?).map Job.completed =
      (package.jobs[slot]?).map fun job => job.completed || decide (index = slot) := by
  rw [perform]
  cases marked : package.markSlot? index with
  | some answer => exact markSlot?_flag marked slot
  | none =>
      have missing : package.jobs[index]? = none := Option.map_eq_none_iff.mp marked
      change (package.jobs[slot]?).map Job.completed = _
      by_cases same : index = slot
      · subst same
        rw [missing]
        rfl
      · simp only [decide_eq_false same, Bool.or_false]

end Package

namespace Contents

theorem length_le_take (contents : Contents) (batch : List Addition) :
    contents.additions.length ≤ (contents.take batch).additions.length := by
  by_cases fits : contents.additions.length + batch.length ≤ contents.capacity
  · rw [take, if_pos fits, append, List.length_append]
    exact Nat.le_add_right _ _
  · have same := take_of_beyond (Nat.lt_of_not_le fits)
    exact Nat.le_of_eq (congrArg (fun taken => taken.additions.length) same.symm)

theorem length_le_afterAll (contents : Contents)
    (keeping : ∀ operation ∈ history, operation.KeepsFlags) :
    contents.additions.length ≤ (contents.afterAll history).additions.length := by
  induction history generalizing contents with
  | nil => exact Nat.le_refl _
  | cons operation later induction =>
      have rest := induction (contents.after operation) fun other member =>
        keeping other (List.mem_cons_of_mem operation member)
      refine Nat.le_trans ?_ rest
      have keeps := keeping operation List.mem_cons_self
      cases operation with
      | reset profile executable capacity => exact keeps.elim
      | add codes values => exact contents.length_le_take _
      | populate codes rows => exact contents.length_le_take _
      | _ => exact Nat.le_refl _

namespace Describes

variable (describes : contents.Describes package)
include describes

theorem number_eq_iff {index : Nat} {other : Job}
    (found : package.jobs[slot]? = some job)
    (otherFound : package.jobs[index]? = some other) :
    job.number = other.number ↔ slot = index := by
  constructor
  · intro same
    have shows := describes.shows
    have slots : (slot : Int) = index := by
      rw [← shows.numbered slot job found, same, shows.numbered index other otherFound]
    exact Int.ofNat_inj.mp slots
  · rintro rfl
    cases found.symm.trans otherFound
    rfl

theorem distinct : package.Distinct := by
  apply List.pairwise_iff_getElem.mpr
  intro first second firstInside secondInside before same
  rw [List.length_map] at firstInside secondInside
  rw [List.getElem_map, List.getElem_map] at same
  have inJobs : ∀ slot (inside : slot < package.filled.length),
      package.jobs[slot]? = some package.filled[slot] := by
    intro slot inside
    rw [Package.jobs, List.getElem?_append_left inside, List.getElem?_eq_getElem inside]
  have slots := (describes.number_eq_iff (inJobs first firstInside)
    (inJobs second secondInside)).mp same
  omega

theorem perform_mark_flag (number : Int32) (slot : Nat) :
    ((package.perform (.mark number)).package.jobs[slot]?).map Job.completed =
      (package.jobs[slot]?).map fun job =>
        job.completed || decide (number = Int32.ofNat slot) := by
  rw [Package.perform]
  cases marked : package.markCompleted number with
  | ok answer =>
      obtain ⟨index, other, otherFound, names, marks⟩ :=
        Package.markCompleted_marks marked
      refine (Package.markSlot?_flag marks slot).trans ?_
      cases found : package.jobs[slot]? with
      | none => rfl
      | some job =>
          have same : index = slot ↔ number = Int32.ofNat slot := by
            rw [← describes.number_eq_iff otherFound found, names,
              describes.numbered found]
          rw [decide_eq_decide.mpr same]
  | error fault =>
      have missing := Package.markCompleted_refused marked
      change (package.jobs[slot]?).map Job.completed = _
      cases found : package.jobs[slot]? with
      | none => rfl
      | some job =>
          have apart : number ≠ Int32.ofNat slot := by
            intro same
            apply missing job (List.mem_of_getElem? found)
            rw [describes.numbered found, same]
          rw [Option.map_some, Option.map_some, decide_eq_false apart, Bool.or_false]

/-- The flag of a slot that stays free changes only by a mark on this slot. -/
theorem perform_flag (keeps : operation.KeepsFlags)
    (free : (package.perform operation).package.added ≤ slot) :
    ((package.perform operation).package.jobs[slot]?).map Job.completed =
      (package.jobs[slot]?).map fun job =>
        job.completed || operation.marks slot := by
  have unmarked : ∀ {next : Package}, next.jobs[slot]? = package.jobs[slot]? →
      (next.jobs[slot]?).map Job.completed =
        (package.jobs[slot]?).map fun job => job.completed || false := by
    intro next same
    simp only [same, Bool.or_false]
  cases operation with
  | reset profile executable capacity => exact keeps.elim
  | reload => exact keeps.elim
  | copy => exact unmarked (congrArg (fun package => package.jobs[slot]?) package.copy_eq)
  | add codes values => exact unmarked (Package.perform_add_getElem? free)
  | populate codes rows =>
      exact unmarked (Package.populate_getElem? (package.populate_fills codes rows) free)
  | handle kept result => exact unmarked (Package.perform_handle_getElem? free)
  | markSlot index => exact package.perform_markSlot_flag index slot
  | mark number => exact describes.perform_mark_flag number slot

theorem performAll_flag (keeping : ∀ operation ∈ history, operation.KeepsFlags)
    (free : (package.performAll history).added ≤ slot) :
    ((package.performAll history).jobs[slot]?).map Job.completed =
      (package.jobs[slot]?).map fun job =>
        job.completed || history.any (Operation.marks slot) := by
  induction history generalizing contents package with
  | nil => simp [Package.performAll]
  | cons operation later induction =>
      have described := describes.perform operation
      have laterKeeping : ∀ other ∈ later, other.KeepsFlags :=
        fun other member => keeping other (List.mem_cons_of_mem operation member)
      have freeNow : (package.perform operation).package.added ≤ slot := by
        have ended := (described.performAll later).added
        have fewer := length_le_afterAll (contents.after operation) laterKeeping
        rw [described.added]
        rw [Package.performAll, ended] at free
        exact Nat.le_trans fewer free
      have flag := describes.perform_flag (keeping operation List.mem_cons_self) freeNow
      have rest := induction described laterKeeping free
      calc
        ((package.performAll (operation :: later)).jobs[slot]?).map Job.completed
          = (((package.perform operation).package.jobs[slot]?).map Job.completed).map
              (· || later.any (Operation.marks slot)) := by
            rw [Option.map_map]
            exact rest
        _ = (package.jobs[slot]?).map fun job =>
              job.completed || (operation :: later).any (Operation.marks slot) := by
            simp only [flag, Option.map_map, Function.comp_def, List.any_cons,
              Bool.or_assoc]

end Describes

end Contents

section Gaining

variable {worker : Worker} {schedule : List Action} {execution : Execution}

/-- Where no worker fails, a run starts the jobs that are pending, and has their
results. -/
theorem Executes.due_iff (distinct : next.Distinct)
    (found : next.filled[slot]? = some job)
    (executes : Executes next worker schedule execution)
    (succeeds : ∀ job ∈ next.pendingJobs, ∃ data, worker job = .ok data) :
    (slot ∈ slotsOf .start schedule ↔ slot ∈ next.pendingSlots) ∧
    ∃ results, execution.outcome = .ok results ∧
      (job.number ∈ results.map JobResult.number ↔ slot ∈ next.pendingSlots) := by
  obtain ⟨results, answered, collected⟩ := executes.collected distinct succeeds
  refine ⟨collected.once.mem_iff, results, collected.outcome, ?_⟩
  rw [(answered.numbers distinct succeeds).mem_iff, List.mem_map]
  constructor
  · rintro ⟨other, member, same⟩
    obtain ⟨index, pending⟩ := Package.mem_pendingJobs.mp member
    rw [← distinct.slot_unique pending.1 found same]
    exact Package.mem_pendingSlots.mpr ⟨other, pending⟩
  · intro member
    obtain ⟨other, pending⟩ := Package.mem_pendingSlots.mp member
    cases pending.1.symm.trans found
    exact ⟨job, Package.mem_pendingJobs.mpr ⟨slot, pending⟩, rfl⟩

theorem Tracker.handle_of_distinct (distinct : next.Distinct)
    (found : next.filled[slot]? = some job) (kept : List JobResult)
    {result : JobResult} (names : job.number = result.number) :
    ∃ handled, handle { package := next, results := kept } result = .ok handled ∧
      handled.completed = !job.completed := by
  have completed : next.completeFilled? result.number =
      some (!job.completed, { next with filled := next.filled.modify slot Job.complete }) := by
    rw [Package.completeFilled?, ← names,
      Package.completeFirst_of_distinct distinct found]
    rfl
  rw [handle, completed]
  cases job.completed with
  | false => exact ⟨_, rfl, rfl⟩
  | true => exact ⟨_, rfl, rfl⟩

/-- The job that is added has the flag that its slot had. -/
theorem Contents.Describes.gains (describes : contents.Describes package)
    (adds : package.addJob codes values = .ok next) :
    ∃ slot, package.jobs[package.added]? = some slot ∧
      package.Gains next package.added (!slot.completed) := by
  have described := describes.add adds
  obtain ⟨slot, later, job, parted, bound, rfl⟩ := Package.addJob_eq_ok_iff.mp adds
  obtain ⟨-, rfl⟩ := (describes.setArguments_eq_ok_iff parted).mp bound
  have first : package.jobs[package.added]? = some slot := by
    have behind : package.jobs[package.added]? =
        package.free[package.added - package.filled.length]? :=
      List.getElem?_append_right (Nat.le_refl _)
    rw [behind, parted, Package.added, Nat.sub_self]
    rfl
  have found : (package.filled ++ [{ slot with arguments := values }])[package.added]? =
      some { slot with arguments := values } := List.getElem?_concat_length
  have number := describes.numbered first
  have distinct := described.distinct
  have due : package.added ∈ Package.pendingSlots { package with
      filled := package.filled ++ [{ slot with arguments := values }], free := later } ↔
        (!slot.completed) = true := by
    rw [Package.mem_pendingSlots, Bool.not_eq_true']
    constructor
    · rintro ⟨other, isFound, clear⟩
      cases isFound.symm.trans found
      exact clear
    · intro clear
      exact ⟨_, found, clear⟩
  refine ⟨slot, first, ?_⟩
  exact
    { counted := by
        rw [Package.pendingCount, Package.pendingCount, Package.pendingJobs,
          List.filter_append, List.length_append, Package.pendingJobs]
        cases slot.completed <;> rfl
      pending := due
      run := by
        intro worker schedule execution executes succeeds
        have runs := executes.due_iff distinct found succeeds
        rwa [due, number] at runs
      takes := by
        intro kept data
        exact Tracker.handle_of_distinct distinct found kept number }

end Gaining

theorem Package.fresh_of_new {profile : Profile} {executable : String}
    {capacity : Nat} (created : Package.new profile executable capacity = .ok package) :
    ∀ job ∈ package.jobs, job.completed = false := by
  obtain ⟨-, rfl⟩ := Contents.new_eq_ok_iff.mp created
  intro job member
  obtain ⟨index, _, rfl⟩ := List.mem_map.mp member
  rfl

/-- A job that is added to a package that was made and has kept its flags since
is due exactly if nobody has marked its slot. -/
theorem addition_is_due_unless_its_slot_was_marked {profile : Profile}
    {executable : String} {capacity : Nat} {package next : Package}
    (created : Package.new profile executable capacity = .ok package)
    {history : List Operation}
    (keeping : ∀ operation ∈ history, operation.KeepsFlags)
    {codes : List Char} {values : List Argument}
    (adds : (package.performAll history).addJob codes values = .ok next) :
    let before := package.performAll history
    before.Gains next before.added (!history.any (Operation.marks before.added)) := by
  intro before
  have described := Contents.describes_new created
  obtain ⟨slot, found, gains⟩ := (described.performAll history).gains adds
  have flag := described.performAll_flag keeping (Nat.le_refl before.added)
  rw [found, Option.map_some] at flag
  obtain ⟨fresh, inside, same⟩ := Option.map_eq_some_iff.mp flag.symm
  have clear := Package.fresh_of_new created fresh (List.mem_of_getElem? inside)
  rw [clear, Bool.false_or] at same
  rw [same]
  exact gains

/-- A slot that is marked while it is free keeps its mark, so that the job that
is added to it is not pending. -/
theorem addition_to_marked_slot_is_not_pending :
    ∃ package next : Package, Package.new {} "" 1 = .ok package ∧
      (∀ operation ∈ [Operation.mark 0], operation.KeepsFlags) ∧
      (package.performAll [.mark 0]).addJob ['i'] [.integer 1] = .ok next ∧
      next.pendingCount = (package.performAll [.mark 0]).pendingCount ∧
      next.pendingSlots = [] :=
  ⟨_, _, rfl, by decide, rfl, rfl, rfl⟩

/-- Neither a mark on another slot nor a result for the free slot is one on it. -/
def exampleMarks : List Operation :=
  [.mark 1, .handle [] { number := 0 }]

theorem addition_beside_marked_slot_is_due :
    ∃ package next : Package, Package.new {} "" 2 = .ok package ∧
      (package.performAll exampleMarks).addJob ['i'] [.integer 1] = .ok next ∧
      (package.performAll exampleMarks).Gains next 0 true := by
  have created : Package.new {} "" 2 = .ok (Contents.fresh {} "" 2).package := rfl
  obtain ⟨next, adds⟩ : ∃ next, ((Contents.fresh {} "" 2).package.performAll
      exampleMarks).addJob ['i'] [.integer 1] = .ok next := ⟨_, rfl⟩
  have keeping : ∀ operation ∈ exampleMarks, operation.KeepsFlags := by decide
  exact ⟨_, next, created, adds,
    addition_is_due_unless_its_slot_was_marked created keeping adds⟩

end WorkPackage
