import WorkPackage.Proofs.Binding

/-!
# Batches of rows

Once it is settled that a batch fits, to fill a package with it is to add its rows
one after the other.  A row that is added keeps the number of its slot, and this is
the number that is reported; a row that is refused ends the batch with its own
fault.  So slots, counts and events keep in step, wherever the batch ends.
-/

namespace WorkPackage

variable {package next reached : Package} {codes : List Char} {values : List Argument}
  {rows earlier later : List (List Argument)}

namespace Job

variable {slot : Job}

/-- It is never for want of room that a slot refuses values. -/
theorem Refuses.ne_capacityExceeded {fault : Fault} (refuses : slot.Refuses codes values fault)
    (capacity : Nat) : fault ≠ .capacityExceeded capacity := by
  cases refuses with
  | slots some uneven => exact nofun
  | binding fits refuses => cases refuses <;> exact nofun

end Job

namespace Package

/-- A row is added to the first free slot. -/
theorem addJob_fills (adds : package.addJob codes values = .ok next) :
    ∃ slot free, package.free = slot :: free ∧
      next = { package with
        filled := package.filled ++ [{ slot with arguments := values }], free } := by
  obtain ⟨slot, free, job, first, bound, rfl⟩ := addJob_eq_ok_iff.mp adds
  rw [Job.arguments_of_setArguments bound]
  exact ⟨slot, free, first, rfl⟩

theorem addJob_of_room (room : package.free ≠ []) (capacity : Nat) :
    package.addJob codes values ≠ .error (.capacityExceeded capacity) := by
  intro refused
  obtain ⟨slot, free, first⟩ := List.exists_cons_of_ne_nil room
  cases bound : slot.setArguments codes values with
  | ok job =>
      simp only [addJob, first, bound] at refused
      contradiction
  | error fault =>
      simp only [addJob, first, bound] at refused
      cases refused
      have outcome : (slot.fill codes values).2 = .error (.capacityExceeded capacity) := by
        rw [Job.fill, bound]
      have refuses := ((slot.filling codes values).refused _).mp outcome
      exact refuses.ne_capacityExceeded capacity rfl

/-- The job numbers of the first so many slots behind the filled ones. -/
def nextNumbers (package : Package) (count : Nat) : List Int32 :=
  ((package.jobs.drop package.added).take count).map Job.number

theorem nextNumbers_eq (package : Package) (count : Nat) :
    package.nextNumbers count = (package.free.take count).map Job.number := by
  rw [nextNumbers, jobs, added, List.drop_left]

/-- Rows that were added stand in the first slots that were free, in their order. -/
structure Places (package : Package) (rows : List (List Argument)) (reached : Package) :
    Prop where
  fits : rows.length ≤ package.free.length
  filled : reached.filled = package.filled ++
    List.zipWith (fun slot row => { slot with arguments := row }) package.free rows
  free : reached.free = package.free.drop rows.length

theorem addEach_places (each : package.addEach codes rows = .ok reached) :
    package.Places rows reached := by
  induction rows generalizing package with
  | nil =>
      cases each
      exact ⟨Nat.zero_le _, by simp, rfl⟩
  | cons row rows induction =>
      obtain ⟨grown, adds, rest⟩ := addEach_cons_eq_ok_iff.mp each
      obtain ⟨slot, free, first, rfl⟩ := addJob_fills adds
      obtain ⟨fits, filled, left⟩ := induction rest
      refine ⟨?_, ?_, ?_⟩
      · rw [first]
        exact Nat.succ_le_succ fits
      · rw [filled, first, List.zipWith_cons_cons, List.append_assoc, List.singleton_append]
      · rw [left, first, List.length_cons, List.drop_succ_cons]

/-- After the first rows of a batch come the others, and the numbers reported for
them come after those of the slots that the first ones filled. -/
theorem addJobs_append (each : package.addEach codes earlier = .ok reached)
    (later : List (List Argument)) :
    package.addJobs codes (earlier ++ later) =
      ((reached.addJobs codes later).1,
        package.nextNumbers earlier.length ++ (reached.addJobs codes later).2.1,
        (reached.addJobs codes later).2.2) := by
  induction earlier generalizing package with
  | nil =>
      cases each
      rfl
  | cons row earlier induction =>
      obtain ⟨grown, adds, rest⟩ := addEach_cons_eq_ok_iff.mp each
      have others := induction rest
      obtain ⟨slot, free, first, rfl⟩ := addJob_fills adds
      rw [List.cons_append, addJobs, adds]
      simp only [others, nextNumbers_eq, first, List.getLast?_concat, Option.map_some,
        Option.getD_some, List.length_cons, List.take_succ_cons, List.map_cons,
        List.cons_append]

theorem addJobs_of_each (each : package.addEach codes rows = .ok reached) :
    package.addJobs codes rows = (reached, package.nextNumbers rows.length, none) := by
  have added := addJobs_append each []
  rwa [List.append_nil, addJobs, List.append_nil] at added

theorem addJobs_of_refused {row : List Argument} {fault : Fault}
    (each : package.addEach codes earlier = .ok reached)
    (refused : reached.addJob codes row = .error fault) (later : List (List Argument)) :
    package.addJobs codes (earlier ++ row :: later) =
      (reached, package.nextNumbers earlier.length, some fault) := by
  have added := addJobs_append each (row :: later)
  rw [addJobs, refused] at added
  rwa [List.append_nil] at added

theorem Places.slot {index : Nat} {row : List Argument} (places : package.Places rows reached)
    (found : rows[index]? = some row) :
    ∃ slot, package.jobs[package.added + index]? = some slot ∧
      reached.jobs[package.added + index]? = some { slot with arguments := row } := by
  have inside : index < rows.length := (List.getElem?_eq_some_iff.mp found).1
  have within : index < package.free.length := Nat.lt_of_lt_of_le inside places.fits
  have behind : package.filled.length ≤ package.added + index := Nat.le_add_right ..
  have here : package.added + index - package.filled.length = index :=
    Nat.add_sub_cancel_left ..
  refine ⟨package.free[index], ?_, ?_⟩
  · rw [jobs, List.getElem?_append_right behind, here, List.getElem?_eq_getElem within]
  · rw [jobs, places.filled, List.append_assoc, List.getElem?_append_right behind, here,
      List.getElem?_append_left, List.getElem?_zipWith, List.getElem?_eq_getElem within, found]
    rw [List.length_zipWith]
    omega

end Package

/-- A batch with more rows than there are free slots changes nothing and reports
nothing.  Any other one is added row after row, so that it is never room that is
missing: either each row finds its place, or the batch ends as after the rows before
the first that is refused, with the fault of that row. -/
theorem populate_adds_row_after_row (package : Package) (codes : List Char)
    (rows : List (List Argument)) :
    let batch := package.populate codes rows
    let room := package.capacity - package.added
    let reported := fun count =>
      .packageStart rows.length :: (package.nextNumbers count).map Event.jobAdded
    (room < rows.length →
      batch =
        { package, events := [],
          outcome := .error (.capacityExceeded package.capacity) }) ∧
    (rows.length ≤ room →
      (∀ earlier row later, rows = earlier ++ row :: later →
        ∀ reached, package.addEach codes earlier = .ok reached →
          ∀ capacity, reached.addJob codes row ≠ .error (.capacityExceeded capacity)) ∧
      ((∃ last, package.addEach codes rows = .ok last ∧
          batch =
            { package := last, events := reported rows.length ++ [.packageFinish],
              outcome := .ok rows.length } ∧
          ∀ index row, rows[index]? = some row →
            ∃ slot, package.jobs[package.added + index]? = some slot ∧
              last.jobs[package.added + index]? = some { slot with arguments := row }) ∨
        ∃ earlier row later reached fault, rows = earlier ++ row :: later ∧
          package.addEach codes earlier = .ok reached ∧
          reached.addJob codes row = .error fault ∧
          batch =
            { package := reached, events := reported earlier.length,
              outcome := .error fault })) := by
  intro batch room reported
  have free : room = package.free.length := Nat.add_sub_cancel_left ..
  rw [free]
  refine ⟨fun beyond => if_pos beyond, fun fits => ⟨?_, ?_⟩⟩
  · rintro earlier row later rfl reached each capacity
    have places := Package.addEach_places each
    have left : reached.free ≠ [] := by
      rw [List.length_append, List.length_cons] at fits
      rw [places.free, ne_eq, List.drop_eq_nil_iff]
      omega
    exact Package.addJob_of_room left capacity
  · have settled : batch = _ := if_neg (Nat.not_lt.mpr fits)
    obtain ⟨last, _, -, each⟩ |
      ⟨earlier, row, later, reached, _, fault, rfl, -, each, refused⟩ :=
      package.addJobs_cases codes rows
    · rw [Package.addJobs_of_each each] at settled
      exact .inl ⟨last, each, settled, fun _ _ => (Package.addEach_places each).slot⟩
    · rw [Package.addJobs_of_refused each refused] at settled
      exact .inr ⟨earlier, row, later, reached, fault, rfl, each, refused, settled⟩

/-- The second free slot has room for a single value, so that a batch of pairs ends
there. -/
example :
    let package : Package :=
      { filled := [{ number := 5 }]
        free := [{ number := 9 }, { number := -2, arguments := [.unset] }, { number := 9 }] }
    let pair := [.unsigned 1, .boolean true]
    let batch := package.populate ['u', 'b'] [pair, pair, pair]
    batch.events = [.packageStart 3, .jobAdded 9] ∧
      batch.outcome = .error (.formatArity 1 2) ∧
      batch.package.filled = [{ number := 5 }, { number := 9, arguments := pair }] :=
  ⟨rfl, rfl, rfl⟩

end WorkPackage
