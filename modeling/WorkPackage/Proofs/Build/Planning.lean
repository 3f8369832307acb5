import WorkPackage.Build
import WorkPackage.Proofs.Binding

/-!
# Plans and what they come from

A plan closes the gaps of a manifest: `Closes` says for each of its parts where it
comes from, and `Types` what a job of the manifest or a record of a table becomes.
Merging succeeds for just the plans that close a manifest, so that it fails if a
setting cannot be read, no executable is named, a code is unknown, a job cannot be
typed or the delimiter is not a byte.
-/

namespace WorkPackage

open Wire (bind_eq_ok_iff pure_eq_ok_iff)

variable {plan : Plan} {manifest : Manifest} {overrides : Overrides}
  {typeCodes : Option String}

/-- A job of a manifest has codes of its own or those for all, and is typed. -/
structure JobEntry.Types (typeCodes : Option String) (entry : JobEntry)
    (job : PlannedJob) : Prop where
  codes : entry.typeCodes.or typeCodes = some job.typeCodes
  values : Typing.tomlRow job.typeCodes.toList entry.values = .ok job.values

/-- A record of a table is a text in each field, and is typed. -/
def Table.Record.Types (codes : List Char) (record : Table.Record)
    (row : List Argument) : Prop :=
  ∃ fields, Table.fieldTexts? record = some fields ∧ Typing.textRow codes fields = .ok row

namespace Plan

/-- Where the parts of a plan come from.  The command line comes first, then the
manifest, and the name of the executable may stand in the profile as well. -/
structure Closes (plan : Plan) (manifest : Manifest) (overrides : Overrides) : Prop where
  profile : plan.profile = completeProfile (manifest.profile.getD {})
  executable :
    (overrides.executable.or manifest.executable).or
      (if plan.profile.executable = "" then none else some plan.profile.executable) =
    some plan.executable
  capacity : plan.capacity = overrides.capacity.or manifest.capacity
  typeCodes : plan.typeCodes = overrides.typeCodes.or manifest.typeCodes
  known : ∀ codes, plan.typeCodes = some codes →
    ∀ code ∈ codes.toList, Signature.Known code
  jobs : List.Forall₂ (JobEntry.Types plan.typeCodes) manifest.jobs plan.jobs
  delimiter : asciiDelimiter ((manifest.table.getD {}).delimiter.getD ',') =
    .ok plan.table.delimiter
  headers : plan.table.hasHeaders = (manifest.table.getD {}).hasHeaders.getD true

theorem planJobs_eq_ok_iff {index : Nat} {entries : List JobEntry}
    {jobs : List PlannedJob} :
    planJobs typeCodes index entries = .ok jobs ↔
      List.Forall₂ (JobEntry.Types typeCodes) entries jobs := by
  induction entries generalizing index jobs with
  | nil => rw [planJobs, Except.ok.injEq, List.forall₂_nil_left_iff, eq_comm]
  | cons entry entries induction =>
      rw [planJobs, List.forall₂_cons_left_iff]
      constructor
      · intro planned
        cases codes : entry.typeCodes.or typeCodes with
        | none =>
            rw [codes] at planned
            contradiction
        | some own =>
            cases typed : Typing.tomlRow own.toList entry.values with
            | error fault =>
                simp only [codes, typed] at planned
                contradiction
            | ok values =>
                cases later : planJobs typeCodes (index + 1) entries with
                | error fault =>
                    simp only [codes, typed, later] at planned
                    contradiction
                | ok others =>
                    simp only [codes, typed, later] at planned
                    cases planned
                    exact ⟨_, others, ⟨codes, typed⟩, induction.mp later, rfl⟩
      · rintro ⟨⟨own, values⟩, others, ⟨codes, typed⟩, later, rfl⟩
        simp only at codes typed
        simp only [codes, typed, induction.mpr later]
        rfl

/-- The plan whose other parts come from the manifest and the command line. -/
def closing (manifest : Manifest) (overrides : Overrides) (executable : String)
    (jobs : List PlannedJob) (delimiter : UInt8) : Plan where
  profile := completeProfile (manifest.profile.getD {})
  executable
  capacity := overrides.capacity.or manifest.capacity
  typeCodes := overrides.typeCodes.or manifest.typeCodes
  jobs
  table := { delimiter, hasHeaders := (manifest.table.getD {}).hasHeaders.getD true }

theorem Closes.eq_closing (closes : plan.Closes manifest overrides) :
    plan = closing manifest overrides plan.executable plan.jobs plan.table.delimiter := by
  obtain ⟨_, _, _, _, _, ⟨_, _⟩⟩ := plan
  obtain ⟨profile, -, capacity, codes, -, -, -, headers⟩ := closes
  cases profile
  cases capacity
  cases codes
  cases headers
  rfl

/-- The executable that is named, by whatever comes first. -/
def named? (manifest : Manifest) (overrides : Overrides) : Option String :=
  (overrides.executable.or manifest.executable).or
    (if (completeProfile (manifest.profile.getD {})).executable = "" then none
      else some (completeProfile (manifest.profile.getD {})).executable)

theorem closes_iff :
    plan.Closes manifest overrides ↔
      ∃ executable, named? manifest overrides = some executable ∧
        (∀ codes, overrides.typeCodes.or manifest.typeCodes = some codes →
          ∀ code ∈ codes.toList, Signature.Known code) ∧
        ∃ jobs, List.Forall₂ (JobEntry.Types (overrides.typeCodes.or manifest.typeCodes))
            manifest.jobs jobs ∧
          ∃ delimiter, asciiDelimiter ((manifest.table.getD {}).delimiter.getD ',') =
              .ok delimiter ∧
            closing manifest overrides executable jobs delimiter = plan := by
  constructor
  · intro closes
    have same := closes.eq_closing.symm
    obtain ⟨profile, executable, -, codes, known, jobs, ascii, -⟩ := closes
    rw [profile] at executable
    rw [codes] at known jobs
    exact ⟨_, executable, known, _, jobs, _, ascii, same⟩
  · rintro ⟨executable, named, known, jobs, typed, delimiter, ascii, rfl⟩
    exact ⟨rfl, named, rfl, rfl, known, typed, ascii, rfl⟩

theorem complete_eq_ok_iff :
    complete manifest overrides = .ok plan ↔ plan.Closes manifest overrides := by
  rw [complete, closes_iff, named?]
  cases named : (overrides.executable.or manifest.executable).or
      (if (completeProfile (manifest.profile.getD {})).executable = "" then none
        else some (completeProfile (manifest.profile.getD {})).executable) with
  | none =>
      constructor
      · intro completed
        obtain ⟨_, impossible, -⟩ := bind_eq_ok_iff.mp completed
        contradiction
      · rintro ⟨_, impossible, -⟩
        contradiction
  | some executable =>
      cases codes : overrides.typeCodes.or manifest.typeCodes with
      | none =>
          simp only [bind_eq_ok_iff, pure_eq_ok_iff, planJobs_eq_ok_iff, closing, codes,
            Option.some.injEq, reduceCtorEq, false_implies, forall_const, true_and]
      | some common =>
          simp only [bind_eq_ok_iff, pure_eq_ok_iff, planJobs_eq_ok_iff, closing, codes,
            mapError_eq_ok_iff, Option.some.injEq, forall_eq', ← Signature.exists_kinds_iff,
            exists_and_right]

theorem merge_eq_ok_iff :
    merge manifest overrides = .ok plan ↔
      ∃ settings, overrides.settings.mapM Setting.read = .ok settings ∧
        plan.Closes (settings.foldl Setting.apply manifest) overrides := by
  simp only [merge, bind_eq_ok_iff, complete_eq_ok_iff]

end Plan

section Table

variable {files : FileSource} {path : String} {table : TypedTable} {bytes : List UInt8}
  {codes : List Char} {rows : List (List Argument)}

/-- The records of a file that are rows: all of them, or all behind the headers. -/
def TableFormat.records (format : TableFormat) (bytes : List UInt8) : List Table.Record :=
  if format.hasHeaders then (Table.records format.delimiter bytes).drop 1
  else Table.records format.delimiter bytes

theorem Table.readRecord_eq_ok_iff {record : Table.Record} {row : List Argument} :
    readRecord codes record = .ok row ↔ record.Types codes row := by
  rw [readRecord, Record.Types]
  cases texts : fieldTexts? record with
  | none => simp
  | some fields => simp [mapError_eq_ok_iff]

theorem Table.read_eq_ok_iff {format : TableFormat} :
    Table.read codes format bytes = .ok rows ↔
      List.Forall₂ (Record.Types codes) (format.records bytes) rows := by
  have types : (fun record row => readRecord codes record = .ok row) =
      Record.Types codes := by
    funext record row
    exact propext readRecord_eq_ok_iff
  rw [← types]
  exact mapM_eq_ok_iff

/-- The table that a plan is filled up with: none if there is no file for it, and
else the rows of the file, typed with the codes for all. -/
inductive Plan.Lists (plan : Plan) (files : FileSource) :
    Option String → Option TypedTable → Prop where
  | absent : Lists plan files none none
  | listed {path typeCodes : String} {bytes : List UInt8} {rows : List (List Argument)}
      (coded : plan.typeCodes = some typeCodes) (found : files path = .ok bytes)
      (typed : List.Forall₂ (Table.Record.Types typeCodes.toList)
        (plan.table.records bytes) rows) :
      Lists plan files (some path) (some { typeCodes, rows })

theorem Plan.readTable_eq_ok_iff :
    plan.readTable files path = .ok table ↔ plan.Lists files (some path) (some table) := by
  rw [readTable]
  constructor
  · intro read
    cases coded : plan.typeCodes with
    | none =>
        rw [coded] at read
        contradiction
    | some typeCodes =>
        cases found : files path with
        | error fault =>
            simp only [coded, found] at read
            contradiction
        | ok bytes =>
            cases typed : Table.read typeCodes.toList plan.table bytes with
            | error fault =>
                simp only [coded, found, typed] at read
                contradiction
            | ok rows =>
                simp only [coded, found, typed] at read
                cases read
                exact .listed coded found (Table.read_eq_ok_iff.mp typed)
  · rintro (_ | ⟨coded, found, typed⟩)
    simp only [coded, found, Table.read_eq_ok_iff.mpr typed]

theorem Plan.lists_iff {jobTable : Option String} {table : Option TypedTable} :
    jobTable.mapM (plan.readTable files) = .ok table ↔ plan.Lists files jobTable table := by
  cases jobTable with
  | none =>
      constructor
      · intro same
        cases pure_eq_ok_iff.mp same
        exact .absent
      · rintro (_ | _)
        rfl
  | some path =>
      constructor
      · intro read
        obtain ⟨rows, listed, finish⟩ := bind_eq_ok_iff.mp read
        cases pure_eq_ok_iff.mp finish
        exact readTable_eq_ok_iff.mp listed
      · intro lists
        cases lists with
        | listed coded found typed =>
            have listed := readTable_eq_ok_iff.mpr (.listed coded found typed)
            exact bind_eq_ok_iff.mpr ⟨_, listed, rfl⟩

end Table

end WorkPackage
