import WorkPackage.Execution.Schedule

/-!
# Laws of completion

Where job numbers are pairwise distinct, a result that names a pending job
completes the slot of that job and no other one.  The slots that have been
completed then say what has become of a package, and the results kept beside it
are those that came, in ascending order.
-/

namespace WorkPackage

attribute [ext] JobResult

namespace Package

/-- A filled slot and its job, which is not completed. -/
def PendingAt (package : Package) (slot : Nat) (job : Job) : Prop :=
  package.filled[slot]? = some job ∧ job.completed = false

/-- The package with the jobs of some filled slots completed. -/
def completing (package : Package) (slots : List Nat) : Package :=
  { package with
    filled := package.filled.mapIdx fun slot job =>
      if slot ∈ slots then job.complete else job }

/-- Has each filled slot a job number of its own? -/
def Distinct (package : Package) : Prop :=
  (package.filled.map Job.number).Nodup

instance (package : Package) : Decidable package.Distinct :=
  inferInstanceAs (Decidable (package.filled.map Job.number).Nodup)

variable {package : Package}

theorem mem_pendingSlots {slot : Nat} :
    slot ∈ package.pendingSlots ↔ ∃ job, package.PendingAt slot job := by
  simp only [pendingSlots, pendingEntries, List.mem_map, List.mem_filter, Prod.exists,
    List.mem_zipIdx_iff_getElem?, Bool.not_eq_eq_eq_not, Bool.not_true,
    exists_eq_right, PendingAt]

theorem pendingSlots_nodup (package : Package) : package.pendingSlots.Nodup := by
  have slots : (package.filled.zipIdx.map Prod.snd).Nodup := by
    rw [List.zipIdx_map_snd]
    exact List.nodup_range'
  exact slots.sublist (List.filter_sublist.map Prod.snd)

theorem pendingJobs_eq_map (package : Package) :
    package.pendingJobs = package.pendingEntries.map Prod.fst := by
  have jobs : package.filled.zipIdx.map Prod.fst = package.filled :=
    List.zipIdx_map_fst 0 _
  calc
    package.pendingJobs
      = (package.filled.zipIdx.map Prod.fst).filter fun job => !job.completed := by
        rw [jobs, pendingJobs]
    _ = package.pendingEntries.map Prod.fst := List.filter_map

theorem pendingSlots_length (package : Package) :
    package.pendingSlots.length = package.pendingCount := by
  rw [pendingCount, pendingJobs_eq_map, pendingSlots, List.length_map,
    List.length_map]

theorem mem_pendingJobs {job : Job} :
    job ∈ package.pendingJobs ↔ ∃ slot, package.PendingAt slot job := by
  rw [pendingJobs, List.mem_filter, List.mem_iff_getElem?]
  simp only [Bool.not_eq_eq_eq_not, Bool.not_true, PendingAt, exists_and_right]

theorem PendingAt.unique {slot : Nat} {job other : Job}
    (pending : package.PendingAt slot job)
    (otherPending : package.PendingAt slot other) : job = other :=
  Option.some.inj (pending.1.symm.trans otherPending.1)

theorem Distinct.slot_unique (distinct : package.Distinct) {slot other : Nat}
    {job otherJob : Job} (found : package.filled[slot]? = some job)
    (otherFound : package.filled[other]? = some otherJob)
    (same : job.number = otherJob.number) : slot = other := by
  have inside : slot < (package.filled.map Job.number).length := by
    rw [List.length_map]
    exact (List.getElem?_eq_some_iff.mp found).1
  apply (List.getElem?_inj inside distinct).mp
  rw [List.getElem?_map, List.getElem?_map, found, otherFound, Option.map_some,
    Option.map_some, same]

theorem completing_nil (package : Package) : package.completing [] = package := by
  simp only [completing, List.not_mem_nil, if_false, List.mapIdx_eq_zipIdx_map,
    List.zipIdx_map_fst]

theorem completing_getElem? (package : Package) (slots : List Nat) (slot : Nat) :
    (package.completing slots).filled[slot]? =
      package.filled[slot]?.map fun job =>
        if slot ∈ slots then job.complete else job :=
  List.getElem?_mapIdx

theorem Distinct.completing (distinct : package.Distinct) (slots : List Nat) :
    (package.completing slots).Distinct := by
  have numbers : (package.completing slots).filled.map Job.number =
      package.filled.map Job.number := by
    apply List.ext_getElem?
    intro slot
    rw [List.getElem?_map, List.getElem?_map, completing_getElem?,
      Option.map_map]
    congr 1
    funext job
    simp only [Function.comp_apply, apply_ite Job.number, Job.complete, ite_self]
  rw [Distinct, numbers]
  exact distinct

theorem pendingAt_completing {slots : List Nat} {slot : Nat} {job : Job} :
    (package.completing slots).PendingAt slot job ↔
      package.PendingAt slot job ∧ slot ∉ slots := by
  rw [PendingAt, completing_getElem?]
  by_cases done : slot ∈ slots
  · simp only [done, if_true, not_true, and_false, iff_false, not_and,
      Option.map_eq_some_iff]
    rintro ⟨earlier, -, rfl⟩
    exact Bool.noConfusion
  · simp only [done, if_false, Option.map_id', not_false_iff, and_true,
      PendingAt]

theorem mem_pendingSlots_completing {slots : List Nat} {slot : Nat} :
    slot ∈ (package.completing slots).pendingSlots ↔
      slot ∈ package.pendingSlots ∧ slot ∉ slots := by
  simp only [mem_pendingSlots, pendingAt_completing, exists_and_right]

/-- The slots that are not completed stay pending. -/
theorem pendingSlots_completing {slots others : List Nat}
    (dealt : (slots ++ others).Perm package.pendingSlots) :
    (package.completing slots).pendingSlots.Perm others := by
  obtain ⟨-, othersNodup, apart⟩ := List.nodup_append.mp
    (dealt.nodup_iff.mpr package.pendingSlots_nodup)
  apply (List.perm_ext_iff_of_nodup (pendingSlots_nodup _) othersNodup).mpr
  intro slot
  rw [mem_pendingSlots_completing, ← dealt.mem_iff, List.mem_append]
  constructor
  · rintro ⟨done | other, undone⟩
    · exact absurd done undone
    · exact other
  · intro other
    exact ⟨.inr other, fun done => apart slot done slot other rfl⟩

/-- Completing the slot of one more job. -/
theorem completing_modify (package : Package) (slots : List Nat) (slot : Nat) :
    (package.completing slots).filled.modify slot Job.complete =
      (package.completing (slots ++ [slot])).filled := by
  apply List.ext_getElem?
  intro index
  rw [List.getElem?_modify, completing_getElem?, completing_getElem?,
    Option.map_eq_map, Option.map_map]
  congr 1
  funext job
  by_cases same : slot = index
  · by_cases done : index ∈ slots <;>
      simp [same, done, Job.complete]
  · simp [same, Ne.symm same]

theorem completing_of_pending {slots : List Nat}
    (all : ∀ slot ∈ package.pendingSlots, slot ∈ slots) :
    package.completing slots =
      { package with filled := package.filled.map Job.complete } := by
  rw [completing]
  congr 1
  apply List.ext_getElem?
  intro slot
  rw [List.getElem?_mapIdx, List.getElem?_map]
  cases found : package.filled[slot]? with
  | none => rfl
  | some job =>
      by_cases done : slot ∈ slots
      · simp only [done, if_true, Option.map_some]
      · have completed : job.completed = true := by
          cases flag : job.completed with
          | true => rfl
          | false =>
              exact absurd (all slot (mem_pendingSlots.mpr ⟨job, found, flag⟩))
                done
        simp only [done, if_false, Option.map_some, Job.complete, ← completed]

theorem completeFirst_of_distinct {jobs : List Job} {slot : Nat} {job : Job}
    (distinct : (jobs.map Job.number).Nodup) (found : jobs[slot]? = some job) :
    completeFirst job.number jobs =
      some (!job.completed, jobs.modify slot Job.complete) := by
  induction jobs generalizing slot with
  | nil => contradiction
  | cons head jobs induction =>
      obtain ⟨headApart, jobsDistinct⟩ := List.nodup_cons.mp distinct
      cases slot with
      | zero =>
          cases found
          rw [completeFirst, if_pos rfl]
          rfl
      | succ slot =>
          have behind : jobs[slot]? = some job := found
          have apart : head.number ≠ job.number := by
            intro same
            apply headApart
            rw [same]
            exact List.mem_map_of_mem (List.mem_of_getElem? behind)
          rw [completeFirst, if_neg apart, induction jobsDistinct behind]
          rfl

theorem completeFirst_eq_findIdx? (number : Int32) (jobs : List Job) :
    completeFirst number jobs =
      (jobs.findIdx? fun job => job.number = number).bind fun slot =>
        (jobs[slot]?).map fun job =>
          (!job.completed, jobs.modify slot Job.complete) := by
  induction jobs with
  | nil => rfl
  | cons head jobs induction =>
      rw [completeFirst, List.findIdx?_cons]
      by_cases same : head.number = number
      · simp [same]
      · simp only [same, if_false, decide_false, Bool.false_eq_true, induction]
        cases jobs.findIdx? fun job => job.number = number with
        | none => rfl
        | some slot => simp [Function.comp_def]

/-- It is the first job with the number that is completed. -/
theorem completeFirst_eq_some {number : Int32} {jobs after : List Job} {flipped : Bool}
    (completed : completeFirst number jobs = some (flipped, after)) :
    ∃ slot job, jobs[slot]? = some job ∧ job.number = number ∧
      (∀ earlier < slot, ∀ other, jobs[earlier]? = some other →
        other.number ≠ number) ∧
      flipped = !job.completed ∧ after = jobs.modify slot Job.complete := by
  rw [completeFirst_eq_findIdx?] at completed
  obtain ⟨slot, first, completes⟩ := Option.bind_eq_some_iff.mp completed
  obtain ⟨job, found, answer⟩ := Option.map_eq_some_iff.mp completes
  obtain ⟨inside, names, before⟩ := List.findIdx?_eq_some_iff_getElem.mp first
  obtain ⟨flips, modified⟩ := Prod.mk.inj answer
  obtain ⟨_, rfl⟩ := List.getElem?_eq_some_iff.mp found
  refine ⟨slot, jobs[slot], found, of_decide_eq_true names, ?_, flips.symm, modified.symm⟩
  intro earlier less other otherFound same
  obtain ⟨_, rfl⟩ := List.getElem?_eq_some_iff.mp otherFound
  exact before earlier less (decide_eq_true same)

theorem completeFirst_length {number : Int32} {jobs after : List Job}
    {flipped : Bool} (completed : completeFirst number jobs = some (flipped, after)) :
    after.length = jobs.length := by
  obtain ⟨slot, _, _, _, _, _, rfl⟩ := completeFirst_eq_some completed
  exact List.length_modify Job.complete jobs slot

end Package

namespace Tracker

theorem isFinished_iff {tracker : Tracker} :
    tracker.isFinished = true ↔ tracker.package.pendingSlots = [] := by
  rw [isFinished, decide_eq_true_iff, ← Package.pendingSlots_length,
    List.length_eq_zero_iff]

theorem keep_perm {result : JobResult} {kept : List JobResult}
    (fresh : ∀ other ∈ kept, other.number ≠ result.number) :
    (keep result kept).Perm (result :: kept) := by
  induction kept with
  | nil => exact List.Perm.refl _
  | cons other others induction =>
      obtain ⟨otherFresh, othersFresh⟩ := List.forall_mem_cons.mp fresh
      rw [keep]
      by_cases less : result.number < other.number
      · rw [if_pos less]
      · rw [if_neg less, if_neg (Ne.symm otherFresh)]
        exact ((induction othersFresh).cons other).trans
          (List.Perm.swap result other others)

theorem mem_keep {result member : JobResult} {kept : List JobResult}
    (inside : member ∈ keep result kept) : member = result ∨ member ∈ kept := by
  induction kept with
  | nil => exact .inl (List.mem_singleton.mp inside)
  | cons other others induction =>
      rw [keep] at inside
      by_cases less : result.number < other.number
      · rw [if_pos less] at inside
        exact List.mem_cons.mp inside
      · rw [if_neg less] at inside
        by_cases same : result.number = other.number
        · rw [if_pos same] at inside
          exact (List.mem_cons.mp inside).imp_right (List.mem_cons_of_mem other)
        · rw [if_neg same] at inside
          obtain rfl | later := List.mem_cons.mp inside
          · exact .inr List.mem_cons_self
          · exact (induction later).imp_right (List.mem_cons_of_mem other)

theorem keep_ascending {result : JobResult} {kept : List JobResult}
    (ascending : kept.Pairwise (·.number < ·.number)) :
    (keep result kept).Pairwise (·.number < ·.number) := by
  induction kept with
  | nil => exact List.pairwise_singleton _ _
  | cons other others induction =>
      obtain ⟨otherLeast, othersAscend⟩ := List.pairwise_cons.mp ascending
      rw [keep]
      by_cases less : result.number < other.number
      · rw [if_pos less]
        refine List.pairwise_cons.mpr ⟨?_, ascending⟩
        intro member inside
        obtain rfl | later := List.mem_cons.mp inside
        · exact less
        · exact Int32.lt_trans less (otherLeast member later)
      · rw [if_neg less]
        by_cases same : result.number = other.number
        · rw [if_pos same]
          refine List.pairwise_cons.mpr ⟨?_, othersAscend⟩
          intro member inside
          rw [same]
          exact otherLeast member inside
        · rw [if_neg same]
          refine List.pairwise_cons.mpr ⟨?_, induction othersAscend⟩
          intro member inside
          obtain rfl | earlier := mem_keep inside
          · exact Int32.lt_of_le_of_ne (Int32.not_lt.mp less) (Ne.symm same)
          · exact otherLeast member earlier

theorem numbers_nodup {results : List JobResult}
    (ascending : results.Pairwise (·.number < ·.number)) :
    (results.map JobResult.number).Nodup := by
  apply List.pairwise_map.mpr
  apply ascending.imp
  intro first second less same
  rw [same] at less
  exact Int32.lt_irrefl less

theorem nodup_of_ascending {results : List JobResult}
    (ascending : results.Pairwise (·.number < ·.number)) : results.Nodup := by
  apply (List.pairwise_map.mp (numbers_nodup ascending)).imp
  intro first second apart same
  exact apart (congrArg JobResult.number same)

/-- Results in strictly ascending order are determined by what they are. -/
theorem ascending_unique {left right : List JobResult}
    (leftAscends : left.Pairwise (·.number < ·.number))
    (rightAscends : right.Pairwise (·.number < ·.number))
    (same : ∀ result, result ∈ left ↔ result ∈ right) : left = right := by
  have permuted : left.Perm right :=
    (List.perm_ext_iff_of_nodup (nodup_of_ascending leftAscends)
      (nodup_of_ascending rightAscends)).mpr same
  refine List.Perm.eq_of_pairwise ?_ leftAscends rightAscends permuted
  intro first second _ _ less more
  exact absurd (Int32.lt_trans less more) Int32.lt_irrefl

theorem handle_added {tracker : Tracker} {result : JobResult} {handled : Handled}
    (handles : tracker.handle result = .ok handled) :
    handled.tracker.package.added = tracker.package.added := by
  rw [handle, Package.completeFilled?] at handles
  cases completed : Package.completeFirst result.number tracker.package.filled with
  | none =>
      rw [completed] at handles
      contradiction
  | some answer =>
      obtain ⟨flipped, filled⟩ := answer
      rw [completed] at handles
      cases flipped with
      | false =>
          cases handles
          rfl
      | true =>
          cases handles
          exact Package.completeFirst_length completed

theorem drain_of_ok {tracker : Tracker} {result : JobResult} {handled : Handled}
    (handles : tracker.handle result = .ok handled) (queue : List JobResult) :
    tracker.drain (result :: queue) =
      { handled.tracker.drain queue with
        events := handled.event :: (handled.tracker.drain queue).events
        outcome := (handled.tracker.drain queue).outcome.map
          (· + handled.completed.toNat) } := by
  rw [drain, handles]

theorem waitForAll_of_finished {tracker : Tracker}
    (finished : tracker.isFinished = true) (queue : List JobResult) :
    tracker.waitForAll queue =
      { tracker, queue, events := [], outcome := .ok () } := by
  cases queue <;> simp only [waitForAll, finished, if_true]

/-- The first result of a pending job completes its slot and is kept. -/
theorem handle_of_pending {package : Package} (distinct : package.Distinct)
    {slots : List Nat} {slot : Nat} {job : Job}
    (pending : package.PendingAt slot job) (fresh : slot ∉ slots)
    (kept : List JobResult) {result : JobResult}
    (names : result.number = job.number) :
    handle { package := package.completing slots, results := kept } result =
      .ok
        { tracker :=
            { package := package.completing (slots ++ [slot])
              results := keep result kept }
          event := .jobCompleted result.number
          completed := true } := by
  obtain ⟨found, clear⟩ := Package.pendingAt_completing.mpr ⟨pending, fresh⟩
  have completed : (package.completing slots).completeFilled? result.number =
      some (true, package.completing (slots ++ [slot])) := by
    rw [Package.completeFilled?, names,
      Package.completeFirst_of_distinct (distinct.completing slots) found, clear,
      Package.completing_modify]
    rfl
  rw [handle, completed]

end Tracker

end WorkPackage
