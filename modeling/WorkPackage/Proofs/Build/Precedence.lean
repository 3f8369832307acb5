import WorkPackage.Proofs.Build.Settings
import WorkPackage.Proofs.Build.Planning

/-!
# Precedence of sources

Each part of a plan has several sources: the command line, the settings, the
manifest and a default.  The first one that has the part decides, whatever the
others say.  No plan comes of it if a setting cannot be read, no executable is named,
a code is unknown, a job cannot be typed or the delimiter is no byte; the first of
these is the fault, and within one of them the first setting, letter or job.
-/

namespace WorkPackage

open Setting (last?)

attribute [ext] Profile TableSection

variable {manifest : Manifest} {overrides : Overrides} {plan : Plan}
  {fault : ConfigFault} {settings : List String} {assigned : List Setting}

section Resolved

/-- Two manifests that say the same of each part. -/
structure Manifest.Alike (left right : Manifest) : Prop where
  executable : left.executable = right.executable
  capacity : left.capacity = right.capacity
  typeCodes : left.typeCodes = right.typeCodes
  profile : left.profile.getD {} = right.profile.getD {}
  table : left.table.getD {} = right.table.getD {}
  jobs : left.jobs = right.jobs

theorem Manifest.Alike.complete {left right : Manifest} (alike : left.Alike right)
    (overrides : Overrides) :
    Plan.complete left overrides = Plan.complete right overrides := by
  obtain ⟨executable, capacity, typeCodes, profile, table, jobs⟩ := alike
  rw [Plan.complete, Plan.complete, executable, capacity, typeCodes, profile, table, jobs]

/-- The manifest with what settings say in place of what it said before. -/
def Manifest.resolved (manifest : Manifest) (settings : List String) : Manifest :=
  let profile := manifest.profile.getD {}
  let table := manifest.table.getD {}
  { executable := (last? "executable" settings).or manifest.executable
    capacity := ((last? "capacity" settings).bind Setting.size?).or manifest.capacity
    typeCodes := (last? "type-codes" settings).or manifest.typeCodes
    profile := some
      { name := (last? "profile.name" settings).getD profile.name
        executable := (last? "profile.executable-name" settings).getD profile.executable
        guiAddress := (last? "profile.gui-address" settings).getD profile.guiAddress
        controllerAddress :=
          (last? "profile.controller-address" settings).getD profile.controllerAddress
        commands := profile.commands }
    table := some
      { delimiter :=
          ((last? "csv.delimiter" settings).bind Setting.letter?).or table.delimiter
        hasHeaders :=
          ((last? "csv.has-headers" settings).bind Setting.flag?).or table.hasHeaders }
    jobs := manifest.jobs }

theorem Manifest.foldl_alike
    (reads : List.Forall₂ (fun written setting => Setting.read written = .ok setting)
      settings assigned) (manifest : Manifest) :
    (assigned.foldl Setting.apply manifest).Alike (manifest.resolved settings) where
  executable := by
    simpa [resolved] using Setting.executable_governs.foldl_optional reads manifest
  capacity := Setting.capacity_governs.foldl_optional reads manifest
  typeCodes := by
    simpa [resolved] using Setting.typeCodes_governs.foldl_optional reads manifest
  profile := by
    apply Profile.ext
    · simpa [resolved] using Setting.profileName_governs.foldl reads manifest
    · simpa [resolved] using Setting.profileExecutable_governs.foldl reads manifest
    · simpa [resolved] using Setting.guiAddress_governs.foldl reads manifest
    · simpa [resolved] using Setting.controllerAddress_governs.foldl reads manifest
    · exact @Setting.foldl_keeps _ (fun manifest => (manifest.profile.getD {}).commands)
        (fun setting _ => by cases setting <;> rfl) assigned manifest
  table := by
    apply TableSection.ext
    · exact Setting.delimiter_governs.foldl_optional reads manifest
    · exact Setting.hasHeaders_governs.foldl_optional reads manifest
  jobs := @Setting.foldl_keeps _ Manifest.jobs
    (fun setting _ => by cases setting <;> rfl) assigned manifest

/-- If the settings can be read, then what they say is all that counts. -/
theorem Plan.merge_of_wellFormed
    (wellFormed : ∀ written ∈ overrides.settings, Setting.WellFormed written)
    (manifest : Manifest) :
    merge manifest overrides = complete (manifest.resolved overrides.settings) overrides := by
  cases read : overrides.settings.mapM Setting.read with
  | error fault =>
      obtain ⟨before, written, after, parted, -, malformed⟩ :=
        Setting.mapM_read_eq_error_iff.mp read
      have member : written ∈ overrides.settings := by simp [parted]
      exact absurd malformed (wellFormed written member fault)
  | ok assigned =>
      have alike := manifest.foldl_alike (mapM_eq_ok_iff.mp read)
      rw [← alike.complete, merge, read]
      rfl

theorem Plan.merge_of_unread (unread : overrides.settings.mapM Setting.read = .error fault)
    (manifest : Manifest) : merge manifest overrides = .error fault := by
  rw [merge, unread]
  rfl

end Resolved

namespace JobEntry

/-- Why a job of a manifest, which has an index there, cannot be typed. -/
inductive Fails (typeCodes : Option String) (index : Nat) (entry : JobEntry) :
    ConfigFault → Prop where
  | uncoded (none : entry.typeCodes.or typeCodes = none) :
      Fails typeCodes index entry (.jobWithoutTypeCodes index)
  | untyped {codes : String} {fault : TypingFault}
      (coded : entry.typeCodes.or typeCodes = some codes)
      (refused : Typing.tomlRow codes.toList entry.values = .error fault) :
      Fails typeCodes index entry (.invalidJob index fault)

variable {typeCodes : Option String} {index : Nat} {entry : JobEntry} {entries : List JobEntry}

theorem types_or_fails (typeCodes : Option String) (index : Nat) (entry : JobEntry) :
    (∃ job, entry.Types typeCodes job) ∨ ∃ fault, entry.Fails typeCodes index fault := by
  cases coded : entry.typeCodes.or typeCodes with
  | none => exact .inr ⟨_, .uncoded coded⟩
  | some codes =>
      cases typed : Typing.tomlRow codes.toList entry.values with
      | ok values => exact .inl ⟨{ typeCodes := codes, values }, coded, typed⟩
      | error fault => exact .inr ⟨_, .untyped coded typed⟩

theorem Types.planJobs {job : PlannedJob} (types : entry.Types typeCodes job) :
    Plan.planJobs typeCodes index (entry :: entries) =
      (Plan.planJobs typeCodes (index + 1) entries).map (job :: ·) := by
  obtain ⟨codes, values⟩ := types
  simp only [Plan.planJobs, codes, values]

theorem Fails.planJobs (fails : entry.Fails typeCodes index fault) :
    Plan.planJobs typeCodes index (entry :: entries) = .error fault := by
  cases fails with
  | uncoded none => simp only [Plan.planJobs, none]
  | untyped coded refused => simp only [Plan.planJobs, coded, refused]

end JobEntry

namespace Plan

/-- The first job that cannot be typed decides the fault. -/
theorem planJobs_eq_error_iff {typeCodes : Option String} {index : Nat}
    {entries : List JobEntry} :
    planJobs typeCodes index entries = .error fault ↔
      ∃ before entry after, entries = before ++ entry :: after ∧
        (∀ earlier ∈ before, ∃ job, earlier.Types typeCodes job) ∧
        entry.Fails typeCodes (index + before.length) fault := by
  constructor
  · intro failed
    induction entries generalizing index with
    | nil => simp [planJobs] at failed
    | cons first entries induction =>
        obtain ⟨job, types⟩ | ⟨other, fails⟩ := first.types_or_fails typeCodes index
        · rw [types.planJobs] at failed
          cases later : planJobs typeCodes (index + 1) entries with
          | ok jobs => simp [later, Except.map] at failed
          | error other =>
              simp only [later, Except.map, Except.error.injEq] at failed
              subst failed
              obtain ⟨before, entry, after, rfl, fine, fails⟩ := induction later
              refine ⟨first :: before, entry, after, rfl, ?_, ?_⟩
              · exact List.forall_mem_cons.mpr ⟨⟨job, types⟩, fine⟩
              · rwa [List.length_cons, Nat.add_comm before.length, ← Nat.add_assoc]
        · cases fails.planJobs.symm.trans failed
          exact ⟨[], first, entries, rfl, List.forall_mem_nil _, fails⟩
  · rintro ⟨before, entry, after, rfl, fine, fails⟩
    induction before generalizing index with
    | nil => exact fails.planJobs
    | cons first before induction =>
        obtain ⟨⟨job, types⟩, others⟩ := List.forall_mem_cons.mp fine
        rw [List.length_cons, Nat.add_comm before.length, ← Nat.add_assoc] at fails
        rw [List.cons_append, types.planJobs, induction others fails]
        rfl

/-- Whether the codes for all jobs are known, if there are any. -/
def checkCodes (typeCodes : Option String) : Except ConfigFault Unit :=
  typeCodes.elim (.ok ()) fun codes =>
    ((Signature.kinds codes.toList).mapError ConfigFault.invalidTypeCodes).map fun _ => ()

theorem checkCodes_eq_ok_iff {typeCodes : Option String} :
    checkCodes typeCodes = .ok () ↔
      ∀ codes, typeCodes = some codes → ∀ code ∈ codes.toList, Signature.Known code := by
  cases typeCodes with
  | none => simp [checkCodes]
  | some codes =>
      simp only [Option.some.injEq, forall_eq', ← Signature.exists_kinds_iff, checkCodes,
        Option.elim_some]
      cases Signature.kinds codes.toList <;> simp [Except.map, Except.mapError]

/-- The first unknown letter decides the fault. -/
theorem checkCodes_eq_error_iff {typeCodes : Option String} :
    checkCodes typeCodes = .error fault ↔
      ∃ codes before code after, typeCodes = some codes ∧
        codes.toList = before ++ code :: after ∧
        (∀ earlier ∈ before, Signature.Known earlier) ∧ ¬Signature.Known code ∧
        fault = .invalidTypeCodes (.unknownTypeCode code) := by
  constructor
  · intro failed
    cases typeCodes with
    | none => simp [checkCodes] at failed
    | some codes =>
        rw [checkCodes, Option.elim_some] at failed
        cases read : Signature.kinds codes.toList with
        | ok kinds => simp [read, Except.map, Except.mapError] at failed
        | error unread =>
            obtain ⟨before, code, after, parted, fine, strange, rfl⟩ :=
              Signature.kinds_eq_error_iff.mp read
            simp only [read, Except.map, Except.mapError, Except.error.injEq] at failed
            exact ⟨codes, before, code, after, rfl, parted, fine, strange, failed.symm⟩
  · rintro ⟨codes, before, code, after, rfl, parted, fine, strange, rfl⟩
    have unread := Signature.kinds_eq_error_iff.mpr
      ⟨before, code, after, parted, fine, strange, rfl⟩
    rw [checkCodes, Option.elim_some, unread]
    rfl

/-- The gaps of a manifest are closed in stages, each of which may fail. -/
theorem complete_eq (manifest : Manifest) (overrides : Overrides) :
    complete manifest overrides =
      (named? manifest overrides).elim (.error .noExecutable) fun executable => do
        checkCodes (overrides.typeCodes.or manifest.typeCodes)
        let jobs ← planJobs (overrides.typeCodes.or manifest.typeCodes) 0 manifest.jobs
        let delimiter ← asciiDelimiter ((manifest.table.getD {}).delimiter.getD ',')
        return closing manifest overrides executable jobs delimiter := by
  rw [complete, named?]
  cases (overrides.executable.or manifest.executable).or
      (if (completeProfile (manifest.profile.getD {})).executable = "" then none
        else some (completeProfile (manifest.profile.getD {})).executable) with
  | none => rfl
  | some executable =>
      simp only [closing, checkCodes]
      cases overrides.typeCodes.or manifest.typeCodes with
      | none => rfl
      | some codes =>
          simp only [pure_bind, Option.elim_some]
          cases Signature.kinds codes.toList <;> rfl

end Plan

section Sources

namespace Overrides

variable (overrides manifest)

/-- A text of the profile, which is empty if neither the settings nor the manifest
have it. -/
def profileText (key : String) (part : Profile → String) : String :=
  ((last? key overrides.settings).or (manifest.profile.map part)).getD ""

/-- The executable that the first source names: the command line, the settings, the
manifest or the profile. -/
def executable? : Option String :=
  let ofProfile := overrides.profileText manifest "profile.executable-name" Profile.executable
  overrides.executable.or <| (last? "executable" overrides.settings).or <|
    manifest.executable.or <| if ofProfile = "" then none else some ofProfile

/-- The codes for all jobs in the first source that has some. -/
def typeCodes? : Option String :=
  overrides.typeCodes.or <| (last? "type-codes" overrides.settings).or manifest.typeCodes

def capacity? : Option Nat :=
  overrides.capacity.or <|
    ((last? "capacity" overrides.settings).bind Setting.size?).or manifest.capacity

def delimiter : Char :=
  (((last? "csv.delimiter" overrides.settings).bind Setting.letter?).or
    (manifest.table.bind TableSection.delimiter)).getD ','

def hasHeaders : Bool :=
  (((last? "csv.has-headers" overrides.settings).bind Setting.flag?).or
    (manifest.table.bind TableSection.hasHeaders)).getD true

end Overrides

/-- What a plan says if each of its parts is taken from the first source that has it. -/
structure Plan.Resolves (plan : Plan) (manifest : Manifest) (overrides : Overrides) :
    Prop where
  name : plan.profile.name =
    let name := overrides.profileText manifest "profile.name" Profile.name
    if name = "" then defaultProfileName else name
  profileExecutable : plan.profile.executable =
    overrides.profileText manifest "profile.executable-name" Profile.executable
  guiAddress : plan.profile.guiAddress =
    overrides.profileText manifest "profile.gui-address" Profile.guiAddress
  controllerAddress : plan.profile.controllerAddress =
    overrides.profileText manifest "profile.controller-address" Profile.controllerAddress
  commands : plan.profile.commands =
    let commands := (manifest.profile.map Profile.commands).getD []
    if commands = [] then [defaultCommand] else commands
  executable : some plan.executable = overrides.executable? manifest
  capacity : plan.capacity = overrides.capacity? manifest
  typeCodes : plan.typeCodes = overrides.typeCodes? manifest
  known : ∀ codes, overrides.typeCodes? manifest = some codes →
    ∀ code ∈ codes.toList, Signature.Known code
  jobs : List.Forall₂ (JobEntry.Types (overrides.typeCodes? manifest)) manifest.jobs plan.jobs
  ascii : (overrides.delimiter manifest).toNat < 128
  delimiter : plan.table.delimiter = UInt8.ofNat (overrides.delimiter manifest).toNat
  headers : plan.table.hasHeaders = overrides.hasHeaders manifest

/-- Why no plan comes of a manifest.  Each reason is one only if none of those before
it applies. -/
inductive Plan.Fails (manifest : Manifest) (overrides : Overrides) : ConfigFault → Prop where
  | setting {before after : List String} {written : String} {fault : ConfigFault}
      (parted : overrides.settings = before ++ written :: after)
      (fine : ∀ earlier ∈ before, Setting.WellFormed earlier)
      (malformed : Setting.Malformed written fault) : Fails manifest overrides fault
  | executable (read : ∀ written ∈ overrides.settings, Setting.WellFormed written)
      (unnamed : overrides.executable? manifest = none) :
      Fails manifest overrides .noExecutable
  | typeCodes {codes : String} {before after : List Char} {code : Char}
      (read : ∀ written ∈ overrides.settings, Setting.WellFormed written)
      (named : overrides.executable? manifest ≠ none)
      (coded : overrides.typeCodes? manifest = some codes)
      (parted : codes.toList = before ++ code :: after)
      (fine : ∀ earlier ∈ before, Signature.Known earlier)
      (strange : ¬Signature.Known code) :
      Fails manifest overrides (.invalidTypeCodes (.unknownTypeCode code))
  | job {before after : List JobEntry} {entry : JobEntry} {fault : ConfigFault}
      (read : ∀ written ∈ overrides.settings, Setting.WellFormed written)
      (named : overrides.executable? manifest ≠ none)
      (known : ∀ codes, overrides.typeCodes? manifest = some codes →
        ∀ code ∈ codes.toList, Signature.Known code)
      (parted : manifest.jobs = before ++ entry :: after)
      (fine : ∀ earlier ∈ before, ∃ job, earlier.Types (overrides.typeCodes? manifest) job)
      (fails : entry.Fails (overrides.typeCodes? manifest) before.length fault) :
      Fails manifest overrides fault
  | delimiter {jobs : List PlannedJob}
      (read : ∀ written ∈ overrides.settings, Setting.WellFormed written)
      (named : overrides.executable? manifest ≠ none)
      (known : ∀ codes, overrides.typeCodes? manifest = some codes →
        ∀ code ∈ codes.toList, Signature.Known code)
      (typed : List.Forall₂ (JobEntry.Types (overrides.typeCodes? manifest))
        manifest.jobs jobs)
      (strange : 128 ≤ (overrides.delimiter manifest).toNat) :
      Fails manifest overrides (.delimiterNotAscii (overrides.delimiter manifest))

end Sources

namespace Plan

theorem profileText_eq (key : String) (part : Profile → String) (empty : part {} = "") :
    overrides.profileText manifest key part =
      (last? key overrides.settings).getD (part (manifest.profile.getD {})) := by
  rw [Overrides.profileText]
  cases last? key overrides.settings with
  | some value => rfl
  | none => cases manifest.profile <;> simp [empty]

theorem named?_resolved :
    named? (manifest.resolved overrides.settings) overrides =
      overrides.executable? manifest := by
  have ofProfile := @profileText_eq manifest overrides "profile.executable-name"
    Profile.executable rfl
  simp only [Overrides.executable?, ofProfile, named?, Manifest.resolved, Option.or_assoc]
  rfl

/-- Each text of the profile and its commands come from the first source. -/
theorem profile_eq_iff {profile : Profile} :
    profile = completeProfile ((manifest.resolved overrides.settings).profile.getD {}) ↔
      (profile.name =
        let name := overrides.profileText manifest "profile.name" Profile.name
        if name = "" then defaultProfileName else name) ∧
      profile.executable =
        overrides.profileText manifest "profile.executable-name" Profile.executable ∧
      profile.guiAddress =
        overrides.profileText manifest "profile.gui-address" Profile.guiAddress ∧
      profile.controllerAddress =
        overrides.profileText manifest "profile.controller-address"
          Profile.controllerAddress ∧
      profile.commands =
        let commands := (manifest.profile.map Profile.commands).getD []
        if commands = [] then [defaultCommand] else commands := by
  have commands : (manifest.profile.map Profile.commands).getD [] =
      (manifest.profile.getD {}).commands := by
    cases manifest.profile <;> rfl
  rw [profileText_eq _ _ rfl, profileText_eq _ _ rfl, profileText_eq _ _ rfl,
    profileText_eq _ _ rfl, commands, Profile.ext_iff]
  rfl

theorem delimiter_eq (manifest : Manifest) (overrides : Overrides) :
    (((manifest.resolved overrides.settings).table.getD {}).delimiter.getD ',') =
      overrides.delimiter manifest := by
  have ofTable : manifest.table.bind TableSection.delimiter =
      (manifest.table.getD {}).delimiter := by
    cases manifest.table <;> rfl
  rw [Overrides.delimiter, ofTable]
  rfl

theorem hasHeaders_eq (manifest : Manifest) (overrides : Overrides) :
    ((manifest.resolved overrides.settings).table.getD {}).hasHeaders.getD true =
      overrides.hasHeaders manifest := by
  have ofTable : manifest.table.bind TableSection.hasHeaders =
      (manifest.table.getD {}).hasHeaders := by
    cases manifest.table <;> rfl
  rw [Overrides.hasHeaders, ofTable]
  rfl

theorem asciiDelimiter_eq_ok_iff {delimiter : Char} {byte : UInt8} :
    asciiDelimiter delimiter = .ok byte ↔
      delimiter.toNat < 128 ∧ byte = UInt8.ofNat delimiter.toNat := by
  rw [asciiDelimiter]
  split <;> simp [*, eq_comm]

theorem asciiDelimiter_eq_error_iff {delimiter : Char} :
    asciiDelimiter delimiter = .error fault ↔
      128 ≤ delimiter.toNat ∧ fault = .delimiterNotAscii delimiter := by
  rw [asciiDelimiter, ← Nat.not_lt]
  split <;> simp [*, eq_comm]

theorem resolves_iff_closes :
    plan.Resolves manifest overrides ↔
      plan.Closes (manifest.resolved overrides.settings) overrides := by
  constructor
  · rintro ⟨name, profileExecutable, guiAddress, controllerAddress, commands, executable,
      capacity, typeCodes, known, jobs, ascii, delimiter, headers⟩
    have profile := profile_eq_iff.mpr
      ⟨name, profileExecutable, guiAddress, controllerAddress, commands⟩
    refine ⟨profile, ?_, capacity, typeCodes, ?_, ?_, ?_, ?_⟩
    · rw [profile, executable, ← named?_resolved]
      rfl
    · rwa [typeCodes]
    · rwa [typeCodes]
    · rw [delimiter_eq]
      exact asciiDelimiter_eq_ok_iff.mpr ⟨ascii, delimiter⟩
    · rw [headers, hasHeaders_eq]
  · rintro ⟨profile, executable, capacity, typeCodes, known, jobs, delimiter, headers⟩
    obtain ⟨name, profileExecutable, guiAddress, controllerAddress, commands⟩ :=
      profile_eq_iff.mp profile
    rw [delimiter_eq] at delimiter
    obtain ⟨ascii, delimiter⟩ := asciiDelimiter_eq_ok_iff.mp delimiter
    refine ⟨name, profileExecutable, guiAddress, controllerAddress, commands, ?_, capacity,
      typeCodes, ?_, ?_, ascii, delimiter, ?_⟩
    · rw [← executable, ← named?_resolved, profile]
      rfl
    · rwa [typeCodes] at known
    · rwa [typeCodes] at jobs
    · rw [headers, hasHeaders_eq]

/-- Once the settings are read, what is left of merging is a chain of stages. -/
theorem merge_eq (read : ∀ written ∈ overrides.settings, Setting.WellFormed written) :
    merge manifest overrides =
      (overrides.executable? manifest).elim (.error .noExecutable) fun executable => do
        checkCodes (overrides.typeCodes? manifest)
        let jobs ← planJobs (overrides.typeCodes? manifest) 0 manifest.jobs
        let delimiter ← asciiDelimiter (overrides.delimiter manifest)
        return closing (manifest.resolved overrides.settings) overrides executable jobs
          delimiter := by
  rw [merge_of_wellFormed read, complete_eq, named?_resolved, delimiter_eq]
  rfl

theorem merge_of_fails (fails : Fails manifest overrides fault) :
    merge manifest overrides = .error fault := by
  cases fails with
  | setting parted fine malformed =>
      apply merge_of_unread
      exact Setting.mapM_read_eq_error_iff.mpr ⟨_, _, _, parted, fine, malformed⟩
  | executable read unnamed =>
      rw [merge_eq read, unnamed, Option.elim_none]
  | typeCodes read named coded parted fine strange =>
      obtain ⟨executable, named⟩ := Option.ne_none_iff_exists'.mp named
      have unknown := checkCodes_eq_error_iff.mpr
        ⟨_, _, _, _, coded, parted, fine, strange, rfl⟩
      rw [merge_eq read, named, Option.elim_some, unknown]
      rfl
  | job read named known parted fine fails =>
      obtain ⟨executable, named⟩ := Option.ne_none_iff_exists'.mp named
      have unplanned : planJobs (overrides.typeCodes? manifest) 0 manifest.jobs =
          .error fault := by
        apply planJobs_eq_error_iff.mpr
        exact ⟨_, _, _, parted, fine, by rwa [Nat.zero_add]⟩
      rw [merge_eq read, named, Option.elim_some, checkCodes_eq_ok_iff.mpr known, unplanned]
      rfl
  | delimiter read named known typed strange =>
      obtain ⟨executable, named⟩ := Option.ne_none_iff_exists'.mp named
      rw [merge_eq read, named, Option.elim_some, checkCodes_eq_ok_iff.mpr known,
        planJobs_eq_ok_iff.mpr typed, asciiDelimiter, if_neg (Nat.not_lt.mpr strange)]
      rfl

theorem merge_eq_ok_iff_resolves :
    merge manifest overrides = .ok plan ↔
      (∀ written ∈ overrides.settings, Setting.WellFormed written) ∧
        plan.Resolves manifest overrides := by
  constructor
  · intro merged
    obtain ⟨assigned, reads, -⟩ := merge_eq_ok_iff.mp merged
    have wellFormed := Setting.wellFormed_of_mapM reads
    rw [merge_of_wellFormed wellFormed] at merged
    exact ⟨wellFormed, resolves_iff_closes.mpr (complete_eq_ok_iff.mp merged)⟩
  · rintro ⟨wellFormed, resolves⟩
    rw [merge_of_wellFormed wellFormed]
    exact complete_eq_ok_iff.mpr (resolves_iff_closes.mp resolves)

theorem fails_of_merge (failed : merge manifest overrides = .error fault) :
    Fails manifest overrides fault := by
  cases reads : overrides.settings.mapM Setting.read with
  | error unread =>
      obtain ⟨before, written, after, parted, fine, malformed⟩ :=
        Setting.mapM_read_eq_error_iff.mp reads
      cases failed.symm.trans (merge_of_unread reads manifest)
      exact .setting parted fine malformed
  | ok assigned =>
      have read := Setting.wellFormed_of_mapM reads
      rw [merge_eq read] at failed
      cases named : overrides.executable? manifest with
      | none =>
          rw [named, Option.elim_none] at failed
          cases failed
          exact .executable read named
      | some executable =>
          have present : overrides.executable? manifest ≠ none := by simp [named]
          rw [named, Option.elim_some] at failed
          obtain unknown | ⟨⟨⟩, checked, failed⟩ := bind_eq_error_iff.mp failed
          · obtain ⟨codes, before, code, after, coded, parted, fine, strange, rfl⟩ :=
              checkCodes_eq_error_iff.mp unknown
            exact .typeCodes read present coded parted fine strange
          · have known := checkCodes_eq_ok_iff.mp checked
            obtain unplanned | ⟨jobs, planned, failed⟩ := bind_eq_error_iff.mp failed
            · obtain ⟨before, entry, after, parted, fine, fails⟩ :=
                planJobs_eq_error_iff.mp unplanned
              rw [Nat.zero_add] at fails
              exact .job read present known parted fine fails
            · obtain unfit | ⟨_, -, impossible⟩ := bind_eq_error_iff.mp failed
              · obtain ⟨strange, rfl⟩ := asciiDelimiter_eq_error_iff.mp unfit
                exact .delimiter read present known (planJobs_eq_ok_iff.mp planned) strange
              · contradiction

/-- Settings that can be read count for what the last one of each key says. -/
theorem merge_of_last?
    (read : ∀ written ∈ overrides.settings, Setting.WellFormed written)
    (others : ∀ written ∈ settings, Setting.WellFormed written)
    (same : ∀ key, last? key settings = last? key overrides.settings) :
    merge manifest { overrides with settings } = merge manifest overrides := by
  have resolved : manifest.resolved settings = manifest.resolved overrides.settings := by
    simp only [Manifest.resolved, same]
  have merged := @merge_of_wellFormed { overrides with settings } others manifest
  rw [merged, merge_of_wellFormed read, ← resolved]
  rfl

end Plan

/-- A setting that cannot be read decides the fault, whatever else is there.  Without
one, each part of the plan is taken from the first source that has it: the command
line, the last setting of the key, the manifest, the default; so two lists of settings
that say the same last of each key lead to the same plan or the same fault.  In
particular the order of settings only counts among those of one key. -/
theorem plan_takes_each_part_from_the_first_source (manifest : Manifest)
    (overrides : Overrides) :
    (∀ plan, Plan.merge manifest overrides = .ok plan ↔
      (∀ written ∈ overrides.settings, Setting.WellFormed written) ∧
        plan.Resolves manifest overrides) ∧
    (∀ fault, Plan.merge manifest overrides = .error fault ↔
      Plan.Fails manifest overrides fault) ∧
    ((∀ written ∈ overrides.settings, Setting.WellFormed written) →
      (∀ settings, (∀ written ∈ settings, Setting.WellFormed written) →
        (∀ key, last? key settings = last? key overrides.settings) →
        Plan.merge manifest { overrides with settings } = Plan.merge manifest overrides) ∧
      ∀ settings, settings.Perm overrides.settings →
        (∀ key, settings.filterMap (Setting.value? key) =
          overrides.settings.filterMap (Setting.value? key)) →
        Plan.merge manifest { overrides with settings } = Plan.merge manifest overrides) := by
  refine ⟨fun _ => Plan.merge_eq_ok_iff_resolves, fun _ => ?_, fun read => ⟨?_, ?_⟩⟩
  · exact ⟨Plan.fails_of_merge, Plan.merge_of_fails⟩
  · intro settings others same
    exact Plan.merge_of_last? read others same
  · intro settings reordered kept
    apply Plan.merge_of_last? read
    · intro written member
      exact read written (reordered.mem_iff.mp member)
    · intro key
      rw [last?, last?, kept key]

/-- The last capacity of the settings counts, and an empty name is none. -/
example :
    (Plan.merge { capacity := some 1 }
      { executable := some "a",
        settings := ["capacity=3", "profile.name=", "capacity=4"] }).map
      (fun plan => (plan.capacity, plan.profile.name)) = .ok (some 4, "default") := by
  rfl

end WorkPackage
