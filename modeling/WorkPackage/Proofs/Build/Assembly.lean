import WorkPackage.Proofs.Build.Planning
import WorkPackage.Proofs.Typing
import WorkPackage.Proofs.History.Contents

/-!
# Assembling a package

The jobs of a plan and the rows of its table are typed before there is a package,
and they bind to the codes that they were typed with.  A new package has slots
without arguments, so that it takes all of them, in this order, as far as it has
room.  What is left to refuse is the number of its slots.
-/

namespace WorkPackage

open Wire (bind_eq_ok_iff pure_eq_ok_iff)

variable {plan : Plan} {table : Option TypedTable} {manifest : Manifest}
  {overrides : Overrides}

def PlannedJob.addition (job : PlannedJob) : Addition where
  codes := job.typeCodes.toList
  values := job.values

def TypedTable.additions (table : TypedTable) : List Addition :=
  table.rows.map (Addition.mk table.typeCodes.toList)

namespace Plan

/-- What a package is filled with: the jobs of the plan, then those of the
table. -/
def additions (plan : Plan) (table : Option TypedTable) : List Addition :=
  plan.jobs.map PlannedJob.addition ++ (table.map TypedTable.additions).getD []

/-- The number of slots that the package is to have. -/
def slots (plan : Plan) (table : Option TypedTable) : Nat :=
  plan.capacity.getD (plan.jobCount table)

/-- What the package is to hold. -/
def contents (plan : Plan) (table : Option TypedTable) : Contents :=
  (Contents.fresh plan.profile plan.executable (plan.slots table)).append
    (plan.additions table)

theorem additions_length (plan : Plan) (table : Option TypedTable) :
    (plan.additions table).length = plan.jobCount table := by
  cases table with
  | none => simp [additions, jobCount]
  | some table => simp [additions, jobCount, TypedTable.additions]

section Typed

variable {files : FileSource} {jobTable : Option String}

/-- The jobs of a plan are typed. -/
theorem Closes.binds (closes : plan.Closes manifest overrides) :
    ∀ job ∈ plan.jobs, job.addition.Binds := by
  intro job member
  obtain ⟨_, -, types⟩ := exists_of_forall₂ closes.jobs job member
  exact Typing.tomlRow_binds types.values

/-- The rows of a table are typed. -/
theorem Lists.binds (lists : plan.Lists files jobTable table) :
    ∀ addition ∈ (table.map TypedTable.additions).getD [], addition.Binds := by
  cases lists with
  | absent => exact fun _ => nofun
  | listed coded found typed =>
      intro addition member
      obtain ⟨row, inside, rfl⟩ := List.mem_map.mp member
      obtain ⟨_, -, _, -, types⟩ := exists_of_forall₂ typed row inside
      exact Typing.textRow_binds types

theorem Closes.additions_bind (closes : plan.Closes manifest overrides)
    (lists : plan.Lists files jobTable table) :
    ∀ addition ∈ plan.additions table, addition.Binds := by
  intro addition member
  rcases List.mem_append.mp member with planned | listed
  · obtain ⟨job, inside, rfl⟩ := List.mem_map.mp planned
    exact closes.binds job inside
  · exact lists.binds addition listed

/-- All that a package is filled with binds. -/
theorem additions_bind (merged : merge manifest overrides = .ok plan)
    (typed : jobTable.mapM (plan.readTable files) = .ok table) :
    ∀ addition ∈ plan.additions table, addition.Binds := by
  obtain ⟨settings, -, closes⟩ := merge_eq_ok_iff.mp merged
  exact closes.additions_bind (lists_iff.mp typed)

end Typed

end Plan

namespace Contents.Describes

variable {contents : Contents} {package : Package}
  (describes : contents.Describes package)
include describes

theorem addPlanned {jobs : List PlannedJob}
    (fits : contents.additions.length + jobs.length ≤ contents.capacity)
    (bind : ∀ job ∈ jobs, job.addition.Binds) :
    ∃ grown, Plan.addPlanned package jobs = .ok grown ∧
      (contents.append (jobs.map PlannedJob.addition)).Describes grown := by
  induction jobs generalizing contents package with
  | nil =>
      refine ⟨package, rfl, ?_⟩
      rw [List.map_nil, append_nil]
      exact describes
  | cons job jobs induction =>
      obtain ⟨binds, laterBind⟩ := List.forall_mem_cons.mp bind
      rw [List.length_cons] at fits
      obtain ⟨next, adds⟩ := describes.adds_iff.mpr ⟨by omega, binds⟩
      have left : contents.additions.length + 1 + jobs.length ≤ contents.capacity := by
        omega
      obtain ⟨grown, later, laterDescribed⟩ := induction (describes.add adds)
        (by
          rw [append, List.length_append, List.length_singleton]
          exact left)
        laterBind
      refine ⟨grown, ?_, ?_⟩
      · rw [Plan.addPlanned, List.foldlM_cons, bind_eq_ok_iff]
        exact ⟨next, adds, later⟩
      · rw [append, append, List.append_assoc] at laterDescribed
        exact laterDescribed

/-- Rows that bind are all taken as far as there is room. -/
theorem populate_of_binds {codes : List Char} {rows : List (List Argument)}
    (fits : contents.additions.length + rows.length ≤ contents.capacity)
    (bind : ∀ addition ∈ rows.map (Addition.mk codes), addition.Binds) :
    (package.populate codes rows).outcome = .ok rows.length ∧
      (contents.append (rows.map (Addition.mk codes))).Describes
        (package.populate codes rows).package := by
  have free := describes.free_length
  have fills := package.populate_fills codes rows
  have described := describes.populate fills
  rw [take_of_binds (by rwa [List.length_map]) bind] at described
  refine ⟨?_, described⟩
  cases fills with
  | refused beyond _ _ => omega
  | added _ outcome _ => exact outcome
  | @stopped earlier later row fault _ _ parted each fails =>
      -- The row that stops the batch would bind, and there is room for it.
      obtain ⟨-, reached⟩ := describes.addEach each
      rw [parted] at bind fits
      rw [List.length_append, List.length_cons] at fits
      have room : (contents.append (earlier.map (Addition.mk codes))).additions.length <
          contents.capacity := by
        rw [append, List.length_append, List.length_map]
        omega
      have binds := bind _ (List.mem_map_of_mem (List.mem_append_right earlier
        List.mem_cons_self))
      exact absurd binds (reached.not_binds_of_refused room fails)

theorem addTable
    (fits : contents.additions.length +
      ((table.map TypedTable.additions).getD []).length ≤ contents.capacity)
    (bind : ∀ addition ∈ (table.map TypedTable.additions).getD [], addition.Binds) :
    ∃ filled, Plan.addTable package table = .ok filled ∧
      (contents.append ((table.map TypedTable.additions).getD [])).Describes filled := by
  cases table with
  | none =>
      refine ⟨package, rfl, ?_⟩
      rw [Option.map_none, Option.getD_none, append_nil]
      exact describes
  | some table =>
      rw [Option.map_some, Option.getD_some, TypedTable.additions] at fits bind ⊢
      rw [List.length_map] at fits
      obtain ⟨outcome, described⟩ := describes.populate_of_binds fits bind
      refine ⟨_, ?_, described⟩
      rw [Plan.addTable, outcome]
      rfl

end Contents.Describes

namespace Plan

section Outcome

variable (bind : ∀ addition ∈ plan.additions table, addition.Binds)

theorem assemble_of_too_many (beyond : plan.slots table < plan.jobCount table) :
    plan.assemble table =
      .error (.configuration (.tooManyJobs (plan.jobCount table) (plan.slots table))) :=
  if_pos beyond

theorem assemble_of_new_refused {fault : Fault}
    (fits : plan.jobCount table ≤ plan.slots table)
    (refused : Package.new plan.profile plan.executable (plan.slots table) =
      .error fault) :
    plan.assemble table = .error (.package fault) := by
  have within : ¬plan.slots table < plan.jobCount table := Nat.not_lt.mpr fits
  rw [slots] at refused within
  rw [assemble, if_neg within, refused]
  rfl

include bind in
/-- A new package with enough slots takes all that it is to be filled with. -/
theorem fills_of_fits {fresh : Package}
    (fits : plan.jobCount table ≤ plan.slots table)
    (created : Package.new plan.profile plan.executable (plan.slots table) =
      .ok fresh) :
    ∃ grown filled, addPlanned fresh plan.jobs = .ok grown ∧
      addTable grown table = .ok filled ∧ plan.assemble table = .ok filled ∧
      (plan.contents table).Describes filled := by
  have described := Contents.describes_new created
  have count := plan.additions_length table
  rw [additions, List.length_append, List.length_map] at count
  obtain ⟨bindPlanned, bindListed⟩ := List.forall_mem_append.mp bind
  obtain ⟨grown, planned, grownDescribed⟩ := described.addPlanned
    (by
      have room : 0 + plan.jobs.length ≤ plan.slots table := by omega
      exact room)
    (fun job member => bindPlanned _ (List.mem_map_of_mem member))
  obtain ⟨filled, listed, filledDescribed⟩ := grownDescribed.addTable
    (by
      rw [Contents.append, List.length_append, List.length_map]
      have room : 0 + plan.jobs.length +
          ((table.map TypedTable.additions).getD []).length ≤ plan.slots table := by
        omega
      exact room)
    bindListed
  refine ⟨grown, filled, planned, listed, ?_, ?_⟩
  · have within : ¬plan.slots table < plan.jobCount table := Nat.not_lt.mpr fits
    rw [slots] at created within
    rw [assemble, if_neg within, mapError_eq_ok_iff, bind_eq_ok_iff]
    exact ⟨fresh, created, bind_eq_ok_iff.mpr ⟨grown, planned, listed⟩⟩
  · rw [Contents.append, Contents.append, List.append_assoc] at filledDescribed
    exact filledDescribed

end Outcome

/-- What can come of a plan whose jobs and rows were typed. -/
structure Assembles (plan : Plan) (table : Option TypedTable) : Prop where
  /-- As long as the jobs fit, a package is refused for too many slots only. -/
  refused : ∀ fault, plan.assemble table = .error (.package fault) ↔
    fault = .refused (.tooManySlots (plan.slots table)) ∧
      plan.jobCount table ≤ plan.slots table ∧ maxFieldLength < plan.slots table
  /-- A new package in which the jobs fit takes each of them. -/
  filled : ∀ fresh,
    Package.new plan.profile plan.executable (plan.slots table) = .ok fresh →
    plan.jobCount table ≤ plan.slots table →
    ∃ grown package, addPlanned fresh plan.jobs = .ok grown ∧
      addTable grown table = .ok package ∧ plan.assemble table = .ok package

theorem assembles (bind : ∀ addition ∈ plan.additions table, addition.Binds) :
    plan.Assembles table where
  refused := by
    intro fault
    by_cases fits : plan.jobCount table ≤ plan.slots table
    · by_cases beyond : maxFieldLength < plan.slots table
      · have refused : Package.new plan.profile plan.executable (plan.slots table) =
            .error (.refused (.tooManySlots (plan.slots table))) := if_pos beyond
        rw [assemble_of_new_refused fits refused]
        simp only [Except.error.injEq, Failure.package.injEq, fits, beyond, and_true,
          eq_comm]
      · have created : Package.new plan.profile plan.executable (plan.slots table) =
            .ok (Contents.fresh plan.profile plan.executable
              (plan.slots table)).package :=
          Contents.new_eq_ok_iff.mpr ⟨Nat.le_of_not_lt beyond, rfl⟩
        obtain ⟨_, _, -, -, assembled, -⟩ := fills_of_fits bind fits created
        simp only [assembled, reduceCtorEq, beyond, and_false]
    · rw [assemble_of_too_many (Nat.lt_of_not_le fits)]
      simp only [Except.error.injEq, reduceCtorEq, fits, false_and, and_false]
  filled := by
    intro fresh created fits
    obtain ⟨grown, package, planned, listed, assembled, -⟩ :=
      fills_of_fits bind fits created
    exact ⟨grown, package, planned, listed, assembled⟩

end Plan

/-- A row that was typed binds as it is, and the codes that it was typed with are
its signature.  So once a manifest is merged and its table is read, no job and no
row is refused any more: what fits into the slots makes a package, unless these
are too many. -/
theorem typed_rows_bind_so_that_no_build_fails_late :
    (∀ codes fields values, Typing.textRow codes fields = .ok values →
      Signature.bind codes values = .ok values ∧
        Signature.ofArguments values = codes) ∧
    (∀ codes items values, Typing.tomlRow codes items = .ok values →
      Signature.bind codes values = .ok values ∧
        Signature.ofArguments values = codes) ∧
    ∀ manifest overrides plan, Plan.merge manifest overrides = .ok plan →
      ∀ (files : FileSource) (jobTable : Option String) table,
        jobTable.mapM (plan.readTable files) = .ok table → plan.Assembles table := by
  have bound : ∀ {codes : List Char} {values : List Argument},
      Addition.Binds { codes, values } →
      Signature.bind codes values = .ok values ∧
        Signature.ofArguments values = codes :=
    fun binds => ⟨Signature.bind_eq_ok_iff_binds.mpr ⟨binds, rfl⟩, binds.signature⟩
  refine ⟨?_, ?_, ?_⟩
  · intro codes fields values typed
    exact bound (Typing.textRow_binds typed)
  · intro codes items values typed
    exact bound (Typing.tomlRow_binds typed)
  · intro manifest overrides plan merged files jobTable table read
    exact Plan.assembles (Plan.additions_bind merged read)

/-- A job with the codes of all, and one without any. -/
def exampleManifest : Manifest where
  executable := some "sum"
  typeCodes := some "cv"
  jobs :=
    [{ values := [.integer 65, .array [.integer 0, .integer 255]] },
      { typeCodes := some "", values := [] }]

def exampleFiles : FileSource := fun path =>
  if path = "jobs.csv" then .ok "letter,text\nA,\"x,y\"\n".toUTF8.data.toList
  else .error .notFound

def examplePlan (capacity : Option Nat) : Plan where
  profile := { name := "default", commands := [Plan.defaultCommand] }
  executable := "sum"
  capacity
  typeCodes := some "cv"
  jobs :=
    [{ typeCodes := "cv", values := [.character 65, .bytes ⟨#[0, 255]⟩] },
      { typeCodes := "", values := [] }]
  table := {}

def exampleTable : TypedTable where
  typeCodes := "cv"
  rows := [[.character 65, .bytes "x,y".toUTF8]]

/-- Without a capacity the three jobs make a package; with one that is too large
they do not, and for this reason alone. -/
theorem example_plan_assembles_unless_too_large :
    Signature.bind ['c', 'v'] [.character 65, .bytes "x,y".toUTF8] =
      .ok [.character 65, .bytes "x,y".toUTF8] ∧
    (∃ package, (examplePlan none).assemble (some exampleTable) = .ok package) ∧
    (examplePlan (some 67108865)).assemble (some exampleTable) =
      .error (.package (.refused (.tooManySlots 67108865))) := by
  obtain ⟨text, -, build⟩ := typed_rows_bind_so_that_no_build_fails_late
  have typed : Typing.textRow ['c', 'v'] ["A", "x,y"] =
      .ok [.character 65, .bytes "x,y".toUTF8] := by rfl
  have merged : ∀ capacity, Plan.merge exampleManifest { capacity } =
      .ok (examplePlan capacity) := by
    intro capacity
    cases capacity <;> rfl
  have read : ∀ capacity, (some "jobs.csv").mapM
      ((examplePlan capacity).readTable exampleFiles) = .ok (some exampleTable) := by
    intro capacity
    rfl
  have assembles := fun capacity => build exampleManifest { capacity }
    (examplePlan capacity) (merged capacity) exampleFiles (some "jobs.csv")
    (some exampleTable) (read capacity)
  refine ⟨(text _ _ _ typed).1, ?_, ?_⟩
  · obtain ⟨_, package, -, -, assembled⟩ :=
      (assembles none).filled _ rfl (Nat.le_refl 3)
    exact ⟨package, assembled⟩
  · exact ((assembles (some 67108865)).refused _).mpr ⟨rfl, by decide, by decide⟩

end WorkPackage
