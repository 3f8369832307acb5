import WorkPackage.Proofs.Population
import WorkPackage.Proofs.Outcome

/-!
# Laws of binding

Values bind to the codes that are their signature and to no others.  When they
do not, one fault is reported: the first letter that is no code, then a count
that does not agree, then the first value that its code does not ask for.  A job
with slots looks at their number before anything else.
-/

namespace WorkPackage

namespace Signature

variable {codes : List Char} {values : List Argument} {kinds : List Kind}
  {fault : Fault}

/-- Does the letter stand for a kind? -/
def Known (code : Char) : Prop :=
  ∃ kind : Kind, kind.code? = some code

/-- Why values do not bind to codes: the first of these rules that is broken. -/
inductive Refuses (codes : List Char) (values : List Argument) : Fault → Prop where
  | unknown {before after : List Char} {code : Char}
      (parted : codes = before ++ code :: after)
      (known : ∀ earlier ∈ before, Known earlier) (strange : ¬Known code) :
      Refuses codes values (.unknownTypeCode code)
  | uneven (known : ∀ code ∈ codes, Known code)
      (uneven : codes.length ≠ values.length) :
      Refuses codes values (.formatArity codes.length values.length)
  | mismatch {before after : List Char} {code : Char}
      {earlier later : List Argument} {value : Argument} {expected : Kind}
      (known : ∀ code ∈ codes, Known code) (even : codes.length = values.length)
      (partedCodes : codes = before ++ code :: after)
      (partedValues : values = earlier ++ value :: later)
      (binds : Addition.Binds { codes := before, values := earlier })
      (asks : expected.code? = some code) (differs : value.kind ≠ expected) :
      Refuses codes values (.typeMismatch expected value.kind)

theorem kind_unique {code : Char} {kind other : Kind}
    (coded : kind.code? = some code) (same : other.code? = some code) : kind = other := by
  have found := Kind.ofCode?_eq_some_iff.mpr coded
  rw [Kind.ofCode?_eq_some_iff.mpr same] at found
  exact (Option.some.inj found).symm

theorem ofCode?_eq_none_iff {code : Char} :
    Kind.ofCode? code = none ↔ ¬Known code := by
  constructor
  · rintro missing ⟨kind, coded⟩
    rw [Kind.ofCode?_eq_some_iff.mpr coded] at missing
    contradiction
  · intro strange
    cases found : Kind.ofCode? code with
    | none => rfl
    | some kind => exact absurd ⟨kind, Kind.ofCode?_eq_some_iff.mp found⟩ strange

section Kinds

theorem known_of_kinds (read : Signature.kinds codes = .ok kinds) :
    ∀ code ∈ codes, Known code := by
  intro code member
  have listed : some code ∈ kinds.map Kind.code? := by
    rw [kinds_eq_ok_iff.mp read]
    exact List.mem_map_of_mem member
  obtain ⟨kind, -, coded⟩ := List.mem_map.mp listed
  exact ⟨kind, coded⟩

theorem kinds_length (read : Signature.kinds codes = .ok kinds) :
    kinds.length = codes.length := by
  simpa using congrArg List.length (kinds_eq_ok_iff.mp read)

theorem kinds_of_known (known : ∀ code ∈ codes, Known code) :
    ∃ kinds, Signature.kinds codes = .ok kinds := by
  induction codes with
  | nil => exact ⟨[], rfl⟩
  | cons code codes induction =>
      obtain ⟨⟨kind, coded⟩, others⟩ := List.forall_mem_cons.mp known
      obtain ⟨kinds, read⟩ := induction others
      refine ⟨kind :: kinds, kinds_eq_ok_iff.mpr ?_⟩
      rw [List.map_cons, List.map_cons, coded, kinds_eq_ok_iff.mp read]

theorem exists_kinds_iff :
    (∃ kinds, Signature.kinds codes = .ok kinds) ↔ ∀ code ∈ codes, Known code := by
  constructor
  · rintro ⟨kinds, read⟩
    exact known_of_kinds read
  · exact kinds_of_known

theorem kinds_eq_mapM (codes : List Char) :
    Signature.kinds codes = codes.mapM fun code =>
      (Kind.ofCode? code).elim (.error (.unknownTypeCode code)) .ok := by
  rw [Signature.kinds]
  congr
  funext code
  cases Kind.ofCode? code <;> rfl

theorem kinds_eq_error_iff :
    Signature.kinds codes = .error fault ↔
      ∃ before code after, codes = before ++ code :: after ∧
        (∀ earlier ∈ before, Known earlier) ∧ ¬Known code ∧
        fault = .unknownTypeCode code := by
  have settled : ∀ code, (∃ kind, (Kind.ofCode? code).elim
      (.error (Fault.unknownTypeCode code)) Except.ok = .ok kind) ↔ Known code := by
    intro code
    cases found : Kind.ofCode? code with
    | none => simp [ofCode?_eq_none_iff.mp found]
    | some kind => simp [show Known code from ⟨kind, Kind.ofCode?_eq_some_iff.mp found⟩]
  have refused : ∀ code, (Kind.ofCode? code).elim
      (.error (Fault.unknownTypeCode code)) Except.ok = .error fault ↔
        ¬Known code ∧ fault = .unknownTypeCode code := by
    intro code
    rw [← ofCode?_eq_none_iff]
    cases Kind.ofCode? code <;> simp [eq_comm]
  simp only [kinds_eq_mapM, mapM_eq_error_iff, settled, refused]

end Kinds

/-- The first pair that differs, in rows of one length. -/
theorem firstMismatch?_eq_some_iff (even : kinds.length = values.length) :
    firstMismatch? kinds values = some fault ↔
      ∃ expected after earlier value later,
        kinds = earlier.map Argument.kind ++ expected :: after ∧
        values = earlier ++ value :: later ∧
        value.kind ≠ expected ∧ fault = .typeMismatch expected value.kind := by
  induction kinds generalizing values with
  | nil => simp [firstMismatch?]
  | cons kind kinds induction =>
      cases values with
      | nil => contradiction
      | cons first values =>
          rw [firstMismatch?]
          by_cases same : first.kind = kind
          · rw [if_pos same, induction (Nat.succ.inj even)]
            constructor
            · rintro ⟨expected, after, earlier, value, later, rfl, rfl, rest⟩
              refine ⟨expected, after, first :: earlier, value, later, ?_, rfl, rest⟩
              rw [← same, List.map_cons, List.cons_append]
            · rintro ⟨expected, after, earlier, value, later, kindly, parted, differs, rest⟩
              cases earlier with
              | nil =>
                  cases kindly
                  cases parted
                  exact absurd same differs
              | cons other earlier =>
                  cases parted
                  cases kindly
                  exact ⟨expected, after, earlier, value, later, rfl, rfl, differs, rest⟩
          · rw [if_neg same, Option.some.injEq]
            constructor
            · rintro rfl
              exact ⟨kind, kinds, [], first, values, rfl, rfl, same, rfl⟩
            · rintro ⟨expected, after, earlier, value, later, kindly, parted, differs, rfl⟩
              cases earlier with
              | nil =>
                  cases kindly
                  cases parted
                  rfl
              | cons other earlier =>
                  cases parted
                  cases kindly
                  exact absurd rfl same

/-- Codes whose kinds are known: what is left to refuse is the count and the
first value of another kind. -/
theorem bind_of_kinds (read : Signature.kinds codes = .ok kinds) :
    bind codes values =
      if codes.length ≠ values.length then
        .error (.formatArity codes.length values.length)
      else
        match firstMismatch? kinds values with
        | some fault => .error fault
        | none => .ok values := by
  rw [bind, read, ← kinds_length read]
  rfl

theorem bind_of_unread (unread : Signature.kinds codes = .error fault) :
    bind codes values = .error fault := by
  rw [bind, unread]
  rfl

theorem refuses_of_bind (refused : bind codes values = .error fault) :
    Refuses codes values fault := by
  cases read : Signature.kinds codes with
  | error first =>
      cases (bind_of_unread read).symm.trans refused
      obtain ⟨before, code, after, parted, known, strange, rfl⟩ :=
        kinds_eq_error_iff.mp read
      exact .unknown parted known strange
  | ok kinds =>
      have known := known_of_kinds read
      rw [bind_of_kinds read] at refused
      by_cases even : codes.length = values.length
      · rw [if_neg (not_not_intro even)] at refused
        cases found : firstMismatch? kinds values with
        | none =>
            rw [found] at refused
            contradiction
        | some other =>
            rw [found] at refused
            cases refused
            obtain ⟨expected, after, earlier, value, later, rfl, parted, differs, rfl⟩ :=
              (firstMismatch?_eq_some_iff ((kinds_length read).trans even)).mp found
            -- The codes are cut where the kinds that they stand for are.
            have coded := kinds_eq_ok_iff.mp read
            rw [List.map_append, List.map_cons] at coded
            obtain ⟨before, others, partedCodes, binds, rest⟩ :=
              List.map_eq_append_iff.mp coded.symm
            obtain ⟨code, _, rfl, asks, -⟩ := List.map_eq_cons_iff.mp rest
            apply Refuses.mismatch known even partedCodes parted ?_ asks.symm differs
            rw [Addition.Binds, binds, List.map_map]
            rfl
      · rw [if_pos even] at refused
        cases refused
        exact .uneven known even

theorem Refuses.bind (refuses : Refuses codes values fault) :
    bind codes values = .error fault := by
  cases refuses with
  | unknown parted known strange =>
      exact bind_of_unread
        (kinds_eq_error_iff.mpr ⟨_, _, _, parted, known, strange, rfl⟩)
  | uneven known uneven =>
      obtain ⟨kinds, read⟩ := kinds_of_known known
      rw [bind_of_kinds read, if_pos uneven]
  | @mismatch before after code earlier later value expected known even partedCodes
      partedValues binds asks differs =>
      obtain ⟨kinds, read⟩ := kinds_of_known known
      have found : firstMismatch? kinds values =
          some (.typeMismatch expected value.kind) := by
        apply (firstMismatch?_eq_some_iff ((kinds_length read).trans even)).mpr
        have coded := kinds_eq_ok_iff.mp read
        rw [partedCodes, List.map_append, List.map_cons] at coded
        obtain ⟨first, others, rfl, sameFirst, rest⟩ := List.map_eq_append_iff.mp coded
        obtain ⟨kind, after, rfl, sameKind, -⟩ := List.map_eq_cons_iff.mp rest
        have earlierKinds : first = earlier.map Argument.kind := by
          have named : Signature.kinds before = .ok (earlier.map Argument.kind) := by
            apply kinds_eq_ok_iff.mpr
            rw [List.map_map]
            exact binds
          exact Except.ok.inj ((kinds_eq_ok_iff.mpr sameFirst).symm.trans named)
        have sameExpected : kind = expected :=
          kind_unique sameKind asks
        rw [earlierKinds, sameExpected]
        exact ⟨expected, after, earlier, value, later, rfl, partedValues, differs, rfl⟩
      rw [bind_of_kinds read, if_neg (not_not_intro even), found]

/-- The fault of values that do not bind is the first that the rules name. -/
theorem bind_eq_error_iff : bind codes values = .error fault ↔ Refuses codes values fault :=
  ⟨refuses_of_bind, Refuses.bind⟩

end Signature

section Matching

variable {codes : List Char} {values : List Argument}

theorem Argument.exists_code {argument : Argument} (set : argument.isSet = true) :
    ∃ code, argument.kind.code? = some code := by
  cases argument with
  | unset => contradiction
  | _ => exact ⟨_, rfl⟩

/-- Values bind to their signature and to nothing else, unless a slot is empty. -/
theorem Addition.binds_iff :
    Addition.Binds { codes, values } ↔
      (∀ value ∈ values, value.isSet = true) ∧ Signature.ofArguments values = codes := by
  constructor
  · intro binds
    exact ⟨binds.isSet, binds.signature⟩
  · rintro ⟨set, rfl⟩
    rw [Addition.Binds, Signature.ofArguments, List.map_map]
    apply List.map_congr_left
    intro value member
    obtain ⟨code, coded⟩ := Argument.exists_code (set value member)
    simp only [Function.comp_apply, coded, Option.getD_some]

end Matching

namespace Job

variable {job : Job} {codes : List Char} {values : List Argument} {fault : Fault}

/-- Why a job does not take values: its slots are counted before anything else. -/
inductive Refuses (job : Job) (codes : List Char) (values : List Argument) :
    Fault → Prop where
  | slots (some : job.arguments ≠ []) (uneven : codes.length ≠ job.arguments.length) :
      Refuses job codes values (.formatArity job.arguments.length codes.length)
  | binding {fault : Fault}
      (fits : job.arguments = [] ∨ codes.length = job.arguments.length)
      (refuses : Signature.Refuses codes values fault) :
      Refuses job codes values fault

theorem setArguments_of_fits
    (fits : job.arguments = [] ∨ codes.length = job.arguments.length) :
    job.setArguments codes values =
      (Signature.bind codes values).map fun arguments => { job with arguments } := by
  apply if_neg
  rintro ⟨some, uneven⟩
  rcases fits with empty | even
  · exact some empty
  · exact uneven even

theorem fill_of_binds
    (fits : job.arguments = [] ∨ codes.length = job.arguments.length)
    (binds : Addition.Binds { codes, values }) :
    job.fill codes values = ({ job with arguments := values }, .ok ()) := by
  have bound := Signature.bind_eq_ok_iff_binds.mpr ⟨binds, rfl⟩
  rw [fill, setArguments_of_fits fits, bound]
  rfl

theorem Refuses.fill (refuses : job.Refuses codes values fault) :
    job.fill codes values = (job, .error fault) := by
  cases refuses with
  | slots some uneven => rw [Job.fill, setArguments, if_pos ⟨some, uneven⟩]
  | binding fits refuses =>
      rw [Job.fill, setArguments_of_fits fits, refuses.bind]
      rfl

theorem Refuses.not_binds (refuses : job.Refuses codes values fault)
    (fits : job.arguments = [] ∨ codes.length = job.arguments.length) :
    ¬Addition.Binds { codes, values } := by
  intro binds
  have clash := congrArg Prod.snd ((fill_of_binds fits binds).symm.trans refuses.fill)
  contradiction

/-- A job takes the values or is refused them for one of these reasons. -/
theorem binds_or_refuses (job : Job) (codes : List Char) (values : List Argument) :
    ((job.arguments = [] ∨ codes.length = job.arguments.length) ∧
      Addition.Binds { codes, values }) ∨
    ∃ fault, job.Refuses codes values fault := by
  by_cases fits : job.arguments = [] ∨ codes.length = job.arguments.length
  · cases bound : Signature.bind codes values with
    | ok arguments =>
        exact .inl ⟨fits, (Signature.bind_eq_ok_iff_binds.mp bound).1⟩
    | error fault =>
        exact .inr ⟨fault, .binding fits (Signature.refuses_of_bind bound)⟩
  · rw [not_or] at fits
    exact .inr ⟨_, .slots fits.1 fits.2⟩

/-- A job that takes values differs from the one before in nothing else. -/
theorem arguments_of_setArguments {next : Job}
    (bound : job.setArguments codes values = .ok next) :
    next = { job with arguments := values } := by
  rcases job.binds_or_refuses codes values with ⟨fits, binds⟩ | ⟨fault, refuses⟩
  · have filled := fill_of_binds fits binds
    rw [fill, bound] at filled
    exact congrArg Prod.fst filled
  · have refused := refuses.fill
    rw [fill, bound] at refused
    have clash := congrArg Prod.snd refused
    contradiction

end Job

/-- What has become of a job whose slots were to be filled in place. -/
structure Job.Filling (job : Job) (codes : List Char) (values : List Argument)
    (after : Job) (outcome : Except Fault Unit) : Prop where
  /-- The values are taken if they bind and there are slots for them. -/
  taken : outcome = .ok () ↔
    (∃ bound, Signature.bind codes values = .ok bound) ∧
      (job.arguments = [] ∨ codes.length = job.arguments.length)
  holds : outcome = .ok () →
    after.arguments = values ∧ after.signature = codes ∧
      after.number = job.number ∧ after.completed = job.completed
  refused : ∀ fault, outcome = .error fault ↔ job.Refuses codes values fault
  kept : ∀ fault, outcome = .error fault → after = job

theorem Job.filling (job : Job) (codes : List Char) (values : List Argument) :
    job.Filling codes values (job.fill codes values).1 (job.fill codes values).2 := by
  rcases job.binds_or_refuses codes values with ⟨fits, binds⟩ | ⟨fault, refuses⟩
  · have bound := Signature.bind_eq_ok_iff_binds.mpr ⟨binds, rfl⟩
    rw [fill_of_binds fits binds]
    refine ⟨?_, ?_, ?_, fun _ => nofun⟩
    · exact iff_of_true rfl ⟨⟨values, bound⟩, fits⟩
    · intro _
      exact ⟨rfl, binds.signature, rfl, rfl⟩
    · intro fault
      apply iff_of_false nofun
      intro refuses
      exact refuses.not_binds fits binds
  · rw [refuses.fill]
    refine ⟨?_, nofun, ?_, fun _ _ => rfl⟩
    · apply iff_of_false nofun
      rintro ⟨⟨arguments, bound⟩, fits⟩
      exact refuses.not_binds fits (Signature.bind_eq_ok_iff_binds.mp bound).1
    · intro other
      constructor
      · intro same
        cases same
        exact refuses
      · intro otherRefuses
        exact congrArg Prod.snd (refuses.fill.symm.trans otherRefuses.fill)

/-- Values bind to their signature and to no other codes, as long as none is
missing.  A job takes them if it has no slots or as many as there are codes; else
it stays as it is, and the first rule that is broken is its fault.  So what a job
holds can always be bound again. -/
theorem binding_accepts_its_signature_only :
    (∀ codes values bound, Signature.bind codes values = .ok bound ↔
      bound = values ∧ (∀ value ∈ values, value.isSet = true) ∧
        Signature.ofArguments values = codes) ∧
    (∀ (job : Job) codes values,
      job.Filling codes values (job.fill codes values).1 (job.fill codes values).2) ∧
    ∀ job : Job, (∀ argument ∈ job.arguments, argument.isSet = true) →
      job.fill job.signature job.arguments = (job, .ok ()) := by
  refine ⟨?_, Job.filling, ?_⟩
  · intro codes values bound
    rw [Signature.bind_eq_ok_iff_binds, Addition.binds_iff]
    exact and_comm
  · intro job set
    have binds : Addition.Binds { codes := job.signature, values := job.arguments } :=
      Addition.binds_iff.mpr ⟨set, rfl⟩
    exact Job.fill_of_binds (.inr (List.length_map ..)) binds

def exampleBoundJob : Job where
  number := 3
  arguments := [.text "x", .unsigned 7]
  completed := true

/-- The same job without its second value. -/
def exampleOpenJob : Job :=
  exampleBoundJob.setArgument 1 .unset

/-- A job with all its values binds again.  Where one is missing, the dash that
stands for it is a fault before the values are looked at, and a letter too many is
one before the dash. -/
theorem example_job_binds_to_its_signature :
    exampleBoundJob.fill ['t', 'u'] exampleBoundJob.arguments =
      (exampleBoundJob, .ok ()) ∧
    exampleOpenJob.fill ['t', '-'] exampleOpenJob.arguments =
      (exampleOpenJob, .error (.unknownTypeCode '-')) ∧
    exampleOpenJob.fill ['t', '-', 'u'] [] =
      (exampleOpenJob, .error (.formatArity 2 3)) := by
  obtain ⟨-, filling, again⟩ := binding_accepts_its_signature_only
  have kept : ∀ {codes : List Char} {values : List Argument} {fault : Fault},
      exampleOpenJob.Refuses codes values fault →
      exampleOpenJob.fill codes values = (exampleOpenJob, .error fault) := by
    intro codes values fault refuses
    have outcome := ((filling _ _ _).refused fault).mpr refuses
    exact Prod.ext ((filling _ _ _).kept fault outcome) outcome
  refine ⟨again exampleBoundJob (by decide), kept ?_, kept ?_⟩
  · have strange : ¬Signature.Known '-' := Signature.ofCode?_eq_none_iff.mp rfl
    have known : ∀ code ∈ ['t'], Signature.Known code := by
      simpa using ⟨.text, rfl⟩
    have unknown : Signature.Refuses (['t'] ++ '-' :: []) exampleOpenJob.arguments
        (.unknownTypeCode '-') := .unknown rfl known strange
    exact .binding (.inr rfl) unknown
  · exact .slots (by decide) (by decide)

end WorkPackage
