import WorkPackage.History
import WorkPackage.Proofs.Population
import WorkPackage.Proofs.Marking
import WorkPackage.Proofs.Wire.Truncation

/-!
# What a history leaves in a package

The contents of a package are what it was made for and what was added to it, in
this order.  A history determines them without looking at the package: only a
reset and what is added count, while marks, results, copies and frames do not.
Apart from its flags, a package is what its contents say, after every history.
-/

namespace WorkPackage

open Wire (bind_eq_ok_iff)

theorem Job.copy_eq (job : Job) : job.copy = job :=
  rfl

namespace Package

theorem copy_eq (package : Package) : package.copy = package := by
  have same : Job.copy = id := funext Job.copy_eq
  rw [copy, same, List.map_id, List.map_id]

/-- What is read from the frame of a package is the package with its flags
cleared, even if the word for the size is too narrow. -/
theorem readFrame_of_frame {package next : Package} {bytes : List UInt8}
    (framed : package.frame = .ok bytes) (read : readFrame.front bytes = .ok next) :
    next = package.pending := by
  obtain ⟨opening, opened, body, written, rfl⟩ := frame_eq_ok_iff.mp framed
  have headerRead := Wire.Frame.readPackageHeader_plain.steady.of_value
    (Wire.Frame.readPackageHeader_of_encode opened) body
  cases outcome : readFrame (opening ++ body) with
  | fault cause rest =>
      rw [Wire.Reader.front, outcome] at read
      contradiction
  | value answer rest =>
      rw [Wire.Reader.front, outcome] at read
      cases read
      obtain ⟨left, found, -, -⟩ := (Wire.Frame.framed_exact headerRead).mp outcome
      -- A body that is read from the window is read from all that follows it too.
      have whole := (decode_plain _ _).steady.of_value found
        (body.drop (package.header.bodySize % 2 ^ 64))
      rw [Wire.Frame.window, List.nil_append, List.take_append_drop] at whole
      have same := whole.symm.trans (decode_of_encode written)
      exact (Wire.Reading.value.inj same).1

section Flags

variable (package : Package)

theorem perform_mark_pending (number : Int32) :
    (package.perform (.mark number)).package.pending = package.pending := by
  rw [perform]
  cases marked : package.markCompleted number with
  | error fault => rfl
  | ok answer =>
      obtain ⟨slot, job, -, -, marks⟩ := markCompleted_marks marked
      exact markSlot?_pending marks

theorem perform_markSlot_pending (index : Nat) :
    (package.perform (.markSlot index)).package.pending = package.pending := by
  rw [perform]
  cases marked : package.markSlot? index with
  | none => rfl
  | some answer => exact markSlot?_pending marked

theorem perform_handle_pending (kept : List JobResult) (result : JobResult) :
    (package.perform (.handle kept result)).package.pending = package.pending := by
  rw [perform]
  cases handles : Tracker.handle { package, results := kept } result with
  | error fault => rfl
  | ok handled =>
      obtain same | ⟨slot, -, marks⟩ := Tracker.handle_marks handles
      · exact congrArg pending same
      · exact markSlot?_pending marks

theorem perform_copy_pending :
    (package.perform .copy).package.pending = package.pending :=
  congrArg pending package.copy_eq

theorem perform_reload_pending :
    (package.perform .reload).package.pending = package.pending := by
  rw [perform]
  cases reloaded : package.frame >>= readFrame.front with
  | error fault => rfl
  | ok next =>
      obtain ⟨bytes, framed, read⟩ := bind_eq_ok_iff.mp reloaded
      have same : next.pending = package.pending := by
        rw [readFrame_of_frame framed read, package.pending_pending]
      exact same

end Flags

end Package

/-- What a package was made for, and what has been added to it since. -/
structure Contents where
  profile : Profile
  capacity : Nat
  additions : List Addition := []
  deriving DecidableEq

namespace Contents

def fresh (profile : Profile) (executable : String) (capacity : Nat) : Contents where
  profile := { profile with executable }
  capacity

def append (contents : Contents) (batch : List Addition) : Contents :=
  { contents with additions := contents.additions ++ batch }

/-- A batch is taken if there is room for all of it, but only up to the first
addition that does not bind. -/
def take (contents : Contents) (batch : List Addition) : Contents :=
  if contents.additions.length + batch.length ≤ contents.capacity then
    contents.append (batch.takeWhile fun addition => addition.Binds)
  else
    contents

def after (contents : Contents) : Operation → Contents
  | .reset profile executable capacity =>
      if capacity ≤ maxFieldLength then fresh profile executable capacity
      else contents
  | .add codes values => contents.take [{ codes, values }]
  | .populate codes rows => contents.take (rows.map (Addition.mk codes))
  | .mark _ | .markSlot _ | .handle _ _ | .copy | .reload => contents

def afterAll (contents : Contents) : List Operation → Contents
  | [] => contents
  | operation :: later => (contents.after operation).afterAll later

/-- The package with these contents in which no job is completed. -/
def package (contents : Contents) : Package where
  profile := contents.profile
  filled := contents.additions.mapIdx fun slot addition =>
    { number := Int32.ofNat slot, arguments := addition.values }
  free :=
    (List.range' contents.additions.length
      (contents.capacity - contents.additions.length)).map Package.emptySlot

/-- Apart from its flags a package has these contents, which are within its
capacity and bind. -/
structure Describes (contents : Contents) (package : Package) : Prop where
  slots : package.pending = contents.package
  room : contents.additions.length ≤ contents.capacity
  within : contents.capacity ≤ maxFieldLength
  bound : ∀ addition ∈ contents.additions, addition.Binds

variable {contents : Contents} {package next : Package} {codes : List Char}
  {values : List Argument} {rows : List (List Argument)} {operation : Operation}
  {slot : Nat} {job : Job}

theorem append_nil (contents : Contents) : contents.append [] = contents := by
  rw [append, List.append_nil]

theorem take_of_binds {batch : List Addition}
    (fits : contents.additions.length + batch.length ≤ contents.capacity)
    (binds : ∀ addition ∈ batch, addition.Binds) :
    contents.take batch = contents.append batch := by
  have all : (batch ++ []).takeWhile (fun addition => decide addition.Binds) =
      batch ++ [].takeWhile fun addition => decide addition.Binds :=
    List.takeWhile_append_of_pos fun addition member =>
      decide_eq_true (binds addition member)
  rw [List.append_nil, List.takeWhile_nil, List.append_nil] at all
  rw [take, if_pos fits, all]

theorem take_of_refused {earlier later : List Addition} {refused : Addition}
    (fits : contents.additions.length + (earlier ++ refused :: later).length ≤
      contents.capacity)
    (binds : ∀ addition ∈ earlier, addition.Binds) (stops : ¬refused.Binds) :
    contents.take (earlier ++ refused :: later) = contents.append earlier := by
  have front : (earlier ++ refused :: later).takeWhile
        (fun addition => decide addition.Binds) =
      earlier ++ (refused :: later).takeWhile fun addition => decide addition.Binds :=
    List.takeWhile_append_of_pos fun addition member =>
      decide_eq_true (binds addition member)
  have nothing : (refused :: later).takeWhile (fun addition => decide addition.Binds) = [] :=
    List.takeWhile_cons_of_neg fun binding => stops (of_decide_eq_true binding)
  rw [take, if_pos fits, front, nothing, List.append_nil]

theorem take_of_beyond {batch : List Addition}
    (beyond : contents.capacity < contents.additions.length + batch.length) :
    contents.take batch = contents :=
  if_neg (Nat.not_le.mpr beyond)

theorem new_eq_ok_iff {profile : Profile} {executable : String} {capacity : Nat} :
    Package.new profile executable capacity = .ok package ↔
      capacity ≤ maxFieldLength ∧
        package = (fresh profile executable capacity).package := by
  rw [Package.new]
  by_cases beyond : maxFieldLength < capacity
  · rw [if_pos beyond]
    constructor
    · intro success
      contradiction
    · intro success
      exact absurd success.1 (Nat.not_le.mpr beyond)
  · have same : (fresh profile executable capacity).package =
        { profile := { profile with executable }
          free := (List.range capacity).map Package.emptySlot } := by
      rw [List.range_eq_range']
      rfl
    rw [if_neg beyond, same, Except.ok.injEq, eq_comm]
    exact (and_iff_right (Nat.le_of_not_lt beyond)).symm

theorem describes_new {profile : Profile} {executable : String} {capacity : Nat}
    (created : Package.new profile executable capacity = .ok package) :
    (fresh profile executable capacity).Describes package := by
  obtain ⟨within, rfl⟩ := new_eq_ok_iff.mp created
  refine ⟨?_, Nat.zero_le _, within, fun _ => nofun⟩
  rw [Package.pending, package, List.map_map]
  rfl

namespace Describes

variable (describes : contents.Describes package)
include describes

theorem profile : package.profile = contents.profile :=
  congrArg Package.profile describes.slots

theorem filled_pending : package.filled.map Job.pending = contents.package.filled :=
  congrArg Package.filled describes.slots

theorem free_pending : package.free.map Job.pending = contents.package.free :=
  congrArg Package.free describes.slots

theorem added : package.added = contents.additions.length := by
  have filled := congrArg Package.added describes.slots
  simpa [Package.added, Package.pending, Contents.package] using filled

theorem free_length :
    package.free.length = contents.capacity - contents.additions.length := by
  have free := congrArg (fun package => package.free.length) describes.slots
  simpa [Package.pending, Contents.package] using free

theorem capacity : package.capacity = contents.capacity := by
  have room := describes.room
  rw [Package.capacity, describes.free_length, ← Package.added, describes.added]
  omega

/-- Only what is not a flag matters. -/
theorem of_pending (same : next.pending = package.pending) :
    contents.Describes next :=
  { describes with slots := same.trans describes.slots }

theorem filled_slot (found : package.filled[slot]? = some job) :
    ∃ addition, contents.additions[slot]? = some addition ∧
      job.number = Int32.ofNat slot ∧ job.arguments = addition.values := by
  have same := congrArg (fun jobs => jobs[slot]?) describes.filled_pending
  simp only [List.getElem?_map, found, Contents.package, List.getElem?_mapIdx] at same
  obtain ⟨addition, added, pending⟩ := Option.map_eq_some_iff.mp same.symm
  exact ⟨addition, added, congrArg Job.number pending.symm,
    congrArg Job.arguments pending.symm⟩

theorem free_slot {index : Nat} (found : package.free[index]? = some job) :
    job.number = Int32.ofNat (package.added + index) ∧ job.arguments = [] := by
  have inside : index < contents.capacity - contents.additions.length := by
    rw [← describes.free_length]
    exact (List.getElem?_eq_some_iff.mp found).1
  have same := congrArg (fun jobs => jobs[index]?) describes.free_pending
  simp only [List.getElem?_map, found, Contents.package,
    List.getElem?_range' inside, Option.map_some] at same
  have pending := Option.some.inj same
  rw [Nat.one_mul, ← describes.added] at pending
  exact ⟨congrArg Job.number pending, congrArg Job.arguments pending⟩

theorem numbered (found : package.jobs[slot]? = some job) :
    job.number = Int32.ofNat slot := by
  rw [Package.jobs, List.getElem?_append] at found
  by_cases inside : slot < package.filled.length
  · rw [if_pos inside] at found
    obtain ⟨addition, -, number, -⟩ := describes.filled_slot found
    exact number
  · rw [if_neg inside] at found
    have behind : package.added + (slot - package.filled.length) = slot := by
      rw [Package.added]
      omega
    rw [← behind]
    exact (describes.free_slot found).1

theorem setArguments_eq_ok_iff {free : List Job} {slot job : Job}
    (parted : package.free = slot :: free) :
    slot.setArguments codes values = .ok job ↔
      Addition.Binds { codes, values } ∧ job = { slot with arguments := values } := by
  have first : package.free[0]? = some slot := by
    rw [parted]
    rfl
  exact Job.setArguments_eq_ok_iff (describes.free_slot first).2

/-- An addition is taken if there is room for it and it binds. -/
theorem adds_iff :
    (∃ next, package.addJob codes values = .ok next) ↔
      contents.additions.length < contents.capacity ∧
        Addition.Binds { codes, values } := by
  have free := describes.free_length
  constructor
  · rintro ⟨next, adds⟩
    obtain ⟨slot, later, job, parted, bound, -⟩ := Package.addJob_eq_ok_iff.mp adds
    rw [parted, List.length_cons] at free
    exact ⟨by omega, ((describes.setArguments_eq_ok_iff parted).mp bound).1⟩
  · rintro ⟨room, binds⟩
    cases parted : package.free with
    | nil =>
        rw [parted, List.length_nil] at free
        omega
    | cons slot later =>
        have bound := (describes.setArguments_eq_ok_iff parted).mpr ⟨binds, rfl⟩
        exact ⟨_, Package.addJob_eq_ok_iff.mpr ⟨slot, later, _, parted, bound, rfl⟩⟩

theorem not_binds_of_refused {fault : Fault}
    (room : contents.additions.length < contents.capacity)
    (refuses : package.addJob codes values = .error fault) :
    ¬Addition.Binds { codes, values } := by
  intro binds
  obtain ⟨next, adds⟩ := describes.adds_iff.mpr ⟨room, binds⟩
  cases adds.symm.trans refuses

theorem add (adds : package.addJob codes values = .ok next) :
    (contents.append [{ codes, values }]).Describes next := by
  obtain ⟨room, binds⟩ := describes.adds_iff.mp ⟨next, adds⟩
  obtain ⟨slot, later, job, parted, bound, rfl⟩ := Package.addJob_eq_ok_iff.mp adds
  obtain ⟨-, rfl⟩ := (describes.setArguments_eq_ok_iff parted).mp bound
  have free := describes.free_pending
  -- The slot that is taken is the first of those that are left.
  have left : contents.capacity - contents.additions.length =
      contents.capacity - (contents.additions.length + 1) + 1 := by omega
  rw [parted, Contents.package, left, List.range'_succ, List.map_cons,
    List.map_cons] at free
  obtain ⟨slotEmpty, laterFree⟩ := List.cons.inj free
  have job : Job.pending { slot with arguments := values } =
      { number := Int32.ofNat contents.additions.length, arguments := values } := by
    have number : slot.number = Int32.ofNat contents.additions.length :=
      congrArg Job.number slotEmpty
    rw [Job.pending, number]
  exact
    { slots := by
        rw [Package.pending, describes.profile, List.map_append,
          describes.filled_pending, List.map_singleton, job, laterFree]
        simp only [Contents.package, append, List.mapIdx_concat, List.length_append,
          List.length_singleton]
      room := by
        rw [append, List.length_append]
        exact room
      within := describes.within
      bound := by
        intro addition member
        obtain earlier | last := List.mem_append.mp member
        · exact describes.bound addition earlier
        · rw [List.mem_singleton.mp last]
          exact binds }

theorem addEach (each : package.addEach codes rows = .ok next) :
    (∀ row ∈ rows, Addition.Binds { codes, values := row }) ∧
      (contents.append (rows.map (Addition.mk codes))).Describes next := by
  induction rows generalizing contents package with
  | nil =>
      cases each
      refine ⟨fun _ => nofun, ?_⟩
      rw [List.map_nil, append_nil]
      exact describes
  | cons row rows induction =>
      obtain ⟨grown, adds, later⟩ := Package.addEach_cons_eq_ok_iff.mp each
      obtain ⟨-, binds⟩ := describes.adds_iff.mp ⟨grown, adds⟩
      obtain ⟨laterBind, described⟩ := induction (describes.add adds) later
      refine ⟨List.forall_mem_cons.mpr ⟨binds, laterBind⟩, ?_⟩
      rw [append, append, List.append_assoc] at described
      exact described

theorem populate {batch : Population} (fills : package.Fills codes rows batch) :
    (contents.take (rows.map (Addition.mk codes))).Describes batch.package := by
  have free := describes.free_length
  have room := describes.room
  cases fills with
  | refused beyond _ same =>
      have tooMany : contents.capacity < contents.additions.length +
          (rows.map (Addition.mk codes)).length := by
        rw [List.length_map]
        omega
      rw [take_of_beyond tooMany, same]
      exact describes
  | added fits _ each =>
      obtain ⟨binds, described⟩ := describes.addEach each
      rw [take_of_binds _ (List.forall_mem_map.mpr binds)]
      · exact described
      · rw [List.length_map]
        omega
  | @stopped earlier later row fault fits _ parted each fails =>
      obtain ⟨binds, described⟩ := describes.addEach each
      have few : earlier.length + 1 ≤ rows.length := by
        rw [parted, List.length_append, List.length_cons]
        omega
      have left : (contents.append (earlier.map (Addition.mk codes))).additions.length <
          contents.capacity := by
        rw [append, List.length_append, List.length_map]
        omega
      have stops := described.not_binds_of_refused left fails
      have fitting : contents.additions.length +
          (rows.map (Addition.mk codes)).length ≤ contents.capacity := by
        rw [List.length_map]
        omega
      rw [parted, List.map_append, List.map_cons] at fitting ⊢
      rw [take_of_refused fitting (List.forall_mem_map.mpr binds) stops]
      exact described

theorem refuse {fault : Fault} (refuses : package.addJob codes values = .error fault) :
    contents.take [{ codes, values }] = contents := by
  by_cases room : contents.additions.length < contents.capacity
  · have stops := describes.not_binds_of_refused room refuses
    have taken : contents.take ([] ++ [Addition.mk codes values]) = contents.append [] :=
      take_of_refused room (fun _ => nofun) stops
    rw [append_nil] at taken
    exact taken
  · apply take_of_beyond
    rw [List.length_singleton]
    omega

theorem perform_add :
    (contents.after (.add codes values)).Describes
      (package.perform (.add codes values)).package := by
  rw [after, Package.perform]
  cases adds : package.addJob codes values with
  | ok next =>
      obtain ⟨room, binds⟩ := describes.adds_iff.mp ⟨next, adds⟩
      have taken : contents.take [{ codes, values }] =
          contents.append [{ codes, values }] := by
        apply take_of_binds
        · exact room
        · intro addition member
          rw [List.mem_singleton.mp member]
          exact binds
      rw [taken]
      exact describes.add adds
  | error fault =>
      rw [describes.refuse adds]
      exact describes

theorem perform_reset (profile : Profile) (executable : String) (capacity : Nat) :
    (contents.after (.reset profile executable capacity)).Describes
      (package.perform (.reset profile executable capacity)).package := by
  rw [after, Package.perform]
  cases created : Package.new profile executable capacity with
  | ok fresh =>
      have described := describes_new created
      have within : capacity ≤ maxFieldLength := described.within
      rw [if_pos within]
      exact described
  | error fault =>
      have beyond : ¬capacity ≤ maxFieldLength := by
        intro within
        cases created.symm.trans (new_eq_ok_iff.mpr ⟨within, rfl⟩)
      rw [if_neg beyond]
      exact describes

/-- What an operation does to the contents, it does to the package. -/
theorem perform (operation : Operation) :
    (contents.after operation).Describes (package.perform operation).package := by
  cases operation with
  | reset profile executable capacity =>
      exact describes.perform_reset profile executable capacity
  | add codes values => exact describes.perform_add
  | populate codes rows => exact describes.populate (package.populate_fills codes rows)
  | mark number => exact describes.of_pending (package.perform_mark_pending number)
  | markSlot index => exact describes.of_pending (package.perform_markSlot_pending index)
  | handle kept result =>
      exact describes.of_pending (package.perform_handle_pending kept result)
  | copy => exact describes.of_pending package.perform_copy_pending
  | reload => exact describes.of_pending package.perform_reload_pending

theorem performAll (history : List Operation) :
    (contents.afterAll history).Describes (package.performAll history) := by
  induction history generalizing contents package with
  | nil => exact describes
  | cons operation later induction => exact induction (describes.perform operation)

end Describes

end Contents

/-- What can be seen of a package with these contents. -/
structure Package.Shows (package : Package) (contents : Contents) : Prop where
  profile : package.profile = contents.profile
  capacity : package.capacity = contents.capacity
  within : package.capacity ≤ maxFieldLength
  added : package.added = contents.additions.length
  room : contents.additions.length ≤ contents.capacity
  numbered : ∀ (slot : Nat) job, package.jobs[slot]? = some job →
    job.number.toInt = slot
  filled : ∀ (slot : Nat) job, package.jobs[slot]? = some job → slot < package.added →
    ∃ addition, contents.additions[slot]? = some addition ∧
      job.arguments = addition.values ∧ job.signature = addition.codes ∧
      ∀ argument ∈ job.arguments, argument.isSet = true
  free : ∀ (slot : Nat) job, package.jobs[slot]? = some job → package.added ≤ slot →
    job.arguments = []
  /-- What is added, and so counts as an addition. -/
  adds : ∀ codes values, (∃ next, package.addJob codes values = .ok next) ↔
    package.added < package.capacity ∧ Addition.Binds { codes, values }

/-- What a refused operation leaves of a package: all of it as it was, but for a
batch that fits, which has added the rows before the one that was refused. -/
def Operation.Leaves (operation : Operation) (before : Package) (fault : Fault)
    (after : Package) : Prop :=
  match operation with
  | .populate codes rows =>
      before.capacity < before.added + rows.length ∧ after = before ∨
      before.added + rows.length ≤ before.capacity ∧
        ∃ earlier row later, rows = earlier ++ row :: later ∧
          before.addEach codes earlier = .ok after ∧
          after.addJob codes row = .error fault
  | _ => after = before

section Refused

variable {package : Package} {operation : Operation} {fault : Fault}

theorem Contents.Describes.shows {contents : Contents}
    (describes : contents.Describes package) : package.Shows contents where
  profile := describes.profile
  capacity := describes.capacity
  within := describes.capacity.symm ▸ describes.within
  added := describes.added
  room := describes.room
  numbered := by
    intro slot job found
    have inside : slot < package.capacity := by
      have bounded := (List.getElem?_eq_some_iff.mp found).1
      rwa [Package.jobs, List.length_append] at bounded
    have within := describes.within
    rw [describes.capacity] at inside
    rw [maxFieldLength] at within
    rw [describes.numbered found, Int32.toInt_ofNat_of_lt (by omega)]
  filled := by
    intro slot job found inside
    rw [Package.jobs, List.getElem?_append_left inside] at found
    obtain ⟨addition, taken, -, holds⟩ := describes.filled_slot found
    have binds := describes.bound addition (List.mem_of_getElem? taken)
    refine ⟨addition, taken, holds, ?_, ?_⟩
    · rw [Job.signature, holds]
      exact binds.signature
    · rw [holds]
      exact binds.isSet
  free := by
    intro slot job found outside
    rw [Package.jobs, List.getElem?_append_right outside] at found
    exact (describes.free_slot found).2
  adds := by
    intro codes values
    rw [describes.added, describes.capacity]
    exact describes.adds_iff

theorem Performed.orKept_error {outcome : Except Fault Package}
    (refused : (Performed.orKept package outcome).outcome = .error fault) :
    (Performed.orKept package outcome).package = package := by
  cases outcome with
  | ok next => contradiction
  | error other => rfl

theorem Operation.leaves (refused : (package.perform operation).outcome = .error fault) :
    operation.Leaves package fault (package.perform operation).package := by
  cases operation with
  | populate codes rows =>
      have slots : package.capacity = package.added + package.free.length := rfl
      have failed : (package.populate codes rows).outcome = .error fault := by
        rw [Package.perform] at refused
        cases outcome : (package.populate codes rows).outcome with
        | ok count =>
            rw [outcome] at refused
            contradiction
        | error other =>
            rw [outcome] at refused
            cases refused
            rfl
      cases package.populate_fills codes rows with
      | refused beyond _ same => exact .inl ⟨by omega, same⟩
      | added _ outcome _ => cases outcome.symm.trans failed
      | stopped fits outcome parted each fails =>
          cases outcome.symm.trans failed
          exact .inr ⟨by omega, _, _, _, parted, each, fails⟩
  | reset profile executable capacity => exact Performed.orKept_error refused
  | add codes values => exact Performed.orKept_error refused
  | mark number => exact Performed.orKept_error refused
  | markSlot index => exact Performed.orKept_error refused
  | handle kept result => exact Performed.orKept_error refused
  | copy => exact Performed.orKept_error refused
  | reload => exact Performed.orKept_error refused

end Refused

theorem Package.new_of_reset {profile : Profile} {executable : String}
    {capacity : Nat} {old package : Package}
    (reset : old.perform (.reset profile executable capacity) =
      { package, outcome := .ok () }) :
    Package.new profile executable capacity = .ok package := by
  rw [perform] at reset
  cases created : Package.new profile executable capacity with
  | ok fresh =>
      rw [created] at reset
      cases reset
      rfl
  | error fault =>
      rw [created] at reset
      cases reset

/-- A package that is new or was reset shows what has been added since, whatever
else was done.  What is refused changes nothing, but for the rows of a batch
before the one that is refused. -/
theorem history_shows_what_was_added {profile : Profile} {executable : String}
    {capacity : Nat} {package : Package}
    (created : Package.new profile executable capacity = .ok package ∨
      ∃ old : Package, old.perform (.reset profile executable capacity) =
        { package, outcome := .ok () })
    (history : List Operation) :
    let before := package.performAll history
    before.Shows ((Contents.fresh profile executable capacity).afterAll history) ∧
    ∀ operation fault, (before.perform operation).outcome = .error fault →
      operation.Leaves before fault (before.perform operation).package := by
  intro before
  have fresh : Package.new profile executable capacity = .ok package := by
    obtain new | ⟨old, reset⟩ := created
    · exact new
    · exact Package.new_of_reset reset
  constructor
  · exact ((Contents.describes_new fresh).performAll history).shows
  · intro operation fault refused
    exact Operation.leaves refused

/-- Everything at once: additions that are taken and one that is not, a batch
that stops, marks, a result, a copy, a frame, and a reset that is refused. -/
def exampleHistory : List Operation :=
  [.add ['i'] [.integer 7], .mark 2, .add ['x'] [],
    .populate ['i'] [[.integer 8], [.boolean true], [.integer 9]],
    .handle [] { number := 0 }, .copy, .reload, .markSlot 5,
    .reset {} "" (maxFieldLength + 1)]

theorem exampleHistory_shows_what_was_added :
    ∃ package, Package.new {} "sum" 4 = .ok package ∧
      (package.performAll exampleHistory).Shows
        { profile := { executable := "sum" }
          capacity := 4
          additions := [⟨['i'], [.integer 7]⟩, ⟨['i'], [.integer 8]⟩] } := by
  have created : Package.new {} "sum" 4 = .ok (Contents.fresh {} "sum" 4).package := rfl
  obtain ⟨shows, -⟩ := history_shows_what_was_added (.inl created) exampleHistory
  exact ⟨_, created, shows⟩

end WorkPackage
