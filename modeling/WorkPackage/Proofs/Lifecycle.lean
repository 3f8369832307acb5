import WorkPackage.Lifecycle
import WorkPackage.Wire.Structure
import WorkPackage.Proofs.Binding

/-!
# Laws of a life

As long as no slot is emptied, a job only goes forward: values stay values, the flag
stays set, and a job with slots keeps their number.  So its state never falls back, and
what takes a job from one side to the other happens once at most: it gets its slots when
it is filled for the first time, and the first mark completes it.
-/

namespace WorkPackage

namespace JobState

theorem created_le (state : JobState) : created ≤ state :=
  Nat.zero_le state.rank

theorem le_completed (state : JobState) : state ≤ completed := by
  cases state <;> exact Nat.le_of_ble_eq_true rfl

end JobState

namespace Job

variable {job before after : Job} {request : Request} {requests : List Request}

theorem state_of_completed (completed : job.completed = true) : job.state = .completed :=
  if_pos completed

theorem state_of_due (due : job.completed = false) :
    job.state = if job.isPopulated then .populated else .created := by
  rw [state, due]
  rfl

theorem state_eq_completed_iff : job.state = .completed ↔ job.completed = true := by
  constructor
  · intro completed
    cases due : job.completed with
    | true => rfl
    | false =>
        rw [state_of_due due] at completed
        cases populated : job.isPopulated <;> rw [populated] at completed <;> contradiction
  · exact state_of_completed

def hasSlots (job : Job) : Bool :=
  job.arguments.length ≠ 0

theorem ne_nil_of_length {left right : List Argument} (same : left.length = right.length)
    (some : right ≠ []) : left ≠ [] := by
  rintro rfl
  exact some (List.length_eq_zero_iff.mp same.symm)

/-- What later stages of a job keep of earlier ones. -/
structure Matures (before after : Job) : Prop where
  completed : before.completed = true → after.completed = true
  populated : before.isPopulated = true → after.isPopulated = true
  sized : before.arguments ≠ [] → after.arguments.length = before.arguments.length

namespace Matures

theorem refl (job : Job) : Matures job job where
  completed := id
  populated := id
  sized _ := rfl

theorem trans {between : Job} (first : Matures before between)
    (second : Matures between after) : Matures before after where
  completed := second.completed ∘ first.completed
  populated := second.populated ∘ first.populated
  sized some := by
    have same := first.sized some
    exact (second.sized (ne_nil_of_length same some)).trans same

instance : Trans Matures Matures Matures where
  trans := trans

/-- A job that keeps its values and its flag has come at least as far. -/
theorem state_le (matures : Matures before after) : before.state ≤ after.state := by
  cases done : after.completed with
  | true =>
      rw [state_of_completed done]
      exact before.state.le_completed
  | false =>
      have due : before.completed = false := by
        rw [← Bool.not_eq_true] at done ⊢
        exact mt matures.completed done
      cases populated : before.isPopulated with
      | true =>
          rw [state_of_due due, state_of_due done, populated, matures.populated populated]
          exact Nat.le_refl _
      | false =>
          rw [state_of_due due, populated]
          exact after.state.created_le

end Matures

section Serving

/-- Values that are taken fill all slots, and others change nothing. -/
theorem fill_matures (codes : List Char) (values : List Argument) :
    Matures job (job.fill codes values).1 := by
  rcases job.binds_or_refuses codes values with ⟨fits, binds⟩ | ⟨fault, refuses⟩
  · have even : values.length = codes.length := by
      simpa using congrArg List.length binds
    have sized (some : job.arguments ≠ []) : values.length = job.arguments.length :=
      even.trans (fits.resolve_left some)
    rw [fill_of_binds fits binds]
    refine ⟨id, ?_, sized⟩
    intro populated
    obtain ⟨some, -⟩ := job.isPopulated_iff.mp populated
    refine (isPopulated_iff _).mpr ⟨ne_nil_of_length (sized some) some, ?_⟩
    rintro value member rfl
    have set := binds.isSet _ member
    contradiction
  · rw [refuses.fill]
    exact .refl job

theorem fill_completed (job : Job) (codes : List Char) (values : List Argument) :
    (job.fill codes values).1.completed = job.completed := by
  rw [fill]
  cases bound : job.setArguments codes values with
  | ok filled => rw [arguments_of_setArguments bound]
  | error fault => rfl

theorem assign_matures {index : Nat} {value : Argument} (set : value.isSet = true) :
    Matures job (job.setArgument index value) where
  completed := id
  populated populated := by
    obtain ⟨some, all⟩ := job.isPopulated_iff.mp populated
    refine (isPopulated_iff _).mpr ⟨?_, ?_⟩
    · rw [setArgument, Ne, List.set_eq_nil_iff]
      exact some
    · intro argument member
      rcases List.mem_or_eq_of_mem_set member with kept | rfl
      · exact all argument kept
      · rintro rfl
        contradiction
  sized _ := List.length_set

/-- However an onward request is answered, it takes nothing back. -/
theorem serve_matures (onward : request.Onward) : Matures job (job.serve request).after := by
  cases request with
  | reset count => exact onward.elim
  | fill codes values => exact fill_matures codes values
  | assign index value => exact assign_matures onward
  | mark => exact ⟨fun _ => rfl, id, fun _ => rfl⟩
  | copy => exact .refl job

/-- Only values that are taken by a job without slots change their number. -/
theorem serve_resizes (onward : request.Onward)
    (resizes : (job.serve request).resizes = true) :
    job.arguments = [] ∧ ∃ codes values, request = .fill codes values ∧
      (job.serve request).answer = .filled (.ok ()) := by
  rw [Served.resizes, decide_eq_true_eq] at resizes
  constructor
  · by_contra some
    exact resizes ((serve_matures onward).sized some)
  · cases request with
    | reset count => exact onward.elim
    | fill codes values =>
        refine ⟨codes, values, rfl, ?_⟩
        cases outcome : (job.fill codes values).2 with
        | ok => exact congrArg Answer.filled outcome
        | error fault =>
            have kept := (job.filling codes values).kept fault outcome
            exact absurd (congrArg (fun job => job.arguments.length) kept) resizes
    | assign index value => exact absurd List.length_set resizes
    | mark | copy => exact absurd rfl resizes

/-- A job has slots if it had some before or their number has changed. -/
theorem serve_hasSlots (onward : request.Onward) :
    (job.serve request).after.hasSlots.toNat =
      job.hasSlots.toNat + (job.serve request).resizes.toNat := by
  have resizes : (job.serve request).resizes =
      decide ((job.serve request).after.arguments.length ≠ job.arguments.length) := rfl
  rw [resizes, hasSlots, hasSlots]
  by_cases empty : job.arguments = []
  · rw [empty]
    exact (Nat.zero_add _).symm
  · have same : (job.serve request).after.arguments.length = job.arguments.length :=
      (serve_matures onward).sized empty
    rw [same, decide_eq_false (not_not_intro rfl)]
    rfl

/-- The flag is set by a mark and by nothing else. -/
theorem serve_completed (onward : request.Onward) :
    (job.serve request).after.completed = (job.completed || decide (request = .mark)) := by
  cases request with
  | reset count => exact onward.elim
  | fill codes values => exact (job.fill_completed codes values).trans (Bool.or_false _).symm
  | mark => exact (Bool.or_true _).symm
  | assign index value | copy => exact (Bool.or_false _).symm

theorem serve_flips : (job.serve request).flips = (decide (request = .mark) && !job.completed) := by
  cases request with
  | mark => exact (Bool.true_and _).symm
  | reset count | fill codes values | assign index value | copy =>
      exact (Bool.false_and _).symm

end Serving

section Living

theorem last_cons (job : Job) (request : Request) (later : List Request) :
    job.last (request :: later) = (job.serve request).after.last later :=
  rfl

theorem last_concat (job : Job) (requests : List Request) (request : Request) :
    job.last (requests ++ [request]) = ((job.last requests).serve request).after := by
  induction requests generalizing job with
  | nil => rfl
  | cons first later induction => rw [List.cons_append, last_cons, last_cons, induction]

theorem mem_life {served : Served} (member : served ∈ job.life requests) :
    ∃ earlier : Job, ∃ request ∈ requests, served = earlier.serve request := by
  induction requests generalizing job with
  | nil => contradiction
  | cons request later induction =>
      rcases List.mem_cons.mp member with rfl | behind
      · exact ⟨job, request, List.mem_cons_self, rfl⟩
      · obtain ⟨earlier, other, inside, same⟩ := induction behind
        exact ⟨earlier, other, List.mem_cons_of_mem request inside, same⟩

/-- What takes a job over to a side for good is counted by the sides of its first and its
last stage. -/
theorem countP_life (job : Job) {happens : Served → Bool} {side : Job → Bool}
    (crosses : ∀ (job : Job) (request : Request), request.Onward →
      (side (job.serve request).after).toNat =
        (side job).toNat + (happens (job.serve request)).toNat)
    (onward : ∀ request ∈ requests, request.Onward) :
    (side (job.last requests)).toNat =
      (side job).toNat + (job.life requests).countP happens := by
  induction requests generalizing job with
  | nil => rfl
  | cons request later induction =>
      obtain ⟨first, others⟩ := List.forall_mem_cons.mp onward
      have one : (happens (job.serve request)).toNat =
          if happens (job.serve request) = true then 1 else 0 := by
        cases happens (job.serve request) <;> rfl
      rw [last_cons, induction _ others, crosses job request first, life, List.countP_cons,
        one, Nat.add_assoc, Nat.add_comm (List.countP _ _)]

variable (onward : ∀ request ∈ requests, request.Onward)
include onward

theorem stages_mature (job : Job) : (job.stages requests).Pairwise Matures := by
  rw [← List.isChain_iff_pairwise]
  induction requests generalizing job with
  | nil => exact .singleton job
  | cons request later induction =>
      obtain ⟨first, others⟩ := List.forall_mem_cons.mp onward
      exact .cons_cons (serve_matures first) (induction others _)

theorem last_completed (job : Job) :
    (job.last requests).completed = (job.completed || decide (.mark ∈ requests)) := by
  induction requests generalizing job with
  | nil => exact (Bool.or_false _).symm
  | cons request later induction =>
      obtain ⟨first, others⟩ := List.forall_mem_cons.mp onward
      rw [last_cons, induction others, serve_completed first, Bool.or_assoc]
      simp only [List.mem_cons, eq_comm, Bool.decide_or]

/-- Slots are made once at most. -/
theorem countP_resizes (job : Job) : (job.life requests).countP Served.resizes ≤ 1 := by
  have sides := job.countP_life (fun _ _ => serve_hasSlots) onward
  have last := (job.last requests).hasSlots.toNat_le
  omega

/-- One mark is the first, if there is any and the flag is clear. -/
theorem countP_flips (job : Job) : (job.life requests).countP Served.flips =
    if job.completed = false ∧ .mark ∈ requests then 1 else 0 := by
  have crosses (job : Job) (request : Request) (onward : request.Onward) :
      (job.serve request).after.completed.toNat =
        job.completed.toNat + (job.serve request).flips.toNat := by
    rw [serve_completed onward, serve_flips]
    cases job.completed <;> cases decide (request = .mark) <;> rfl
  have sides := job.countP_life crosses onward
  rw [last_completed onward] at sides
  cases clear : job.completed with
  | true =>
      rw [clear, Bool.true_or] at sides
      rw [if_neg fun both => Bool.noConfusion both.1]
      exact Nat.left_eq_add.mp sides
  | false =>
      rw [clear, Bool.false_or, Bool.toNat_false, Nat.zero_add] at sides
      rw [← sides]
      simp only [true_and]
      cases marked : decide (Request.mark ∈ requests) with
      | true => exact (if_pos (of_decide_eq_true marked)).symm
      | false => exact (if_neg (of_decide_eq_false marked)).symm

end Living

/-- Slots that are made anew are empty. -/
theorem reset_isPopulated (job : Job) (count : Nat) : (job.reset count).isPopulated = false := by
  rw [← Bool.not_eq_true, isPopulated_iff]
  rintro ⟨some, set⟩
  have positive : count ≠ 0 := by
    rintro rfl
    exact some rfl
  exact set .unset (List.mem_replicate.mpr ⟨positive, rfl⟩) rfl

/-- A life that goes forward only. -/
structure Progresses (job : Job) (requests : List Request) : Prop where
  /-- No stage has come less far than one before it. -/
  forward : (job.stages requests).Pairwise fun earlier later => earlier.state ≤ later.state
  final : (job.stages requests).Pairwise fun earlier later =>
    earlier.state = .completed → later.state = .completed
  /-- The number of slots changes once at most. -/
  resizedOnce : (job.life requests).countP Served.resizes ≤ 1
  /-- It changes when a job without slots takes values. -/
  resized : ∀ served ∈ job.life requests, served.resizes = true →
    served.before.arguments = [] ∧
      ∃ codes values, served.request = .fill codes values ∧
        served.answer = .filled (.ok ())
  /-- One mark sets the flag, if there is any and the flag was clear. -/
  flippedOnce : (job.life requests).countP Served.flips =
    if job.completed = false ∧ .mark ∈ requests then 1 else 0

end Job

/-- Whatever a job is like at first and whatever it is asked for, its life goes forward
only, as long as no slot is emptied.  A reset makes it begin anew: all slots are empty,
however far the job has come. -/
theorem life_goes_forward_between_resets :
    (∀ (job : Job) (requests : List Job.Request),
      (∀ request ∈ requests, request.Onward) → job.Progresses requests) ∧
    ∀ (job : Job) (requests : List Job.Request) (count : Nat),
      let anew := job.last (requests ++ [.reset count])
      anew.arguments = List.replicate count .unset ∧ anew.state = .created ∧
        anew.completed = false := by
  constructor
  · intro job requests onward
    have mature := Job.stages_mature onward job
    exact
      { forward := mature.imp Job.Matures.state_le
        final := mature.imp fun matures completed =>
          Job.state_of_completed (matures.completed (Job.state_eq_completed_iff.mp completed))
        resizedOnce := Job.countP_resizes onward job
        resized := by
          intro served member resizes
          obtain ⟨earlier, request, inside, rfl⟩ := Job.mem_life member
          exact Job.serve_resizes (onward request inside) resizes
        flippedOnce := Job.countP_flips onward job }
  · intro job requests count anew
    have made : anew = (job.last requests).reset count := job.last_concat requests _
    rw [made]
    refine ⟨rfl, ?_, rfl⟩
    rw [Job.state_of_due rfl, Job.reset_isPopulated]
    rfl

/-- A job without its value is back where it was. -/
example : (({ arguments := [.integer 1] } : Job).stages [.assign 0 .unset]).map Job.state =
    [.populated, .created] :=
  rfl

/-- A job of two slots, of which the first is empty. -/
def exampleJobBytes : List UInt8 :=
  [9, 0, 0, 0, 2, 0, 0, 0, 0, 2, 7, 0, 0, 0]

/-- A new job gets its slot from the second row of values, which is too short for the job
above; that one takes the third row, which is too long for the other. -/
def exampleRequests : List Job.Request :=
  [.fill [] [], .assign 0 (.text "x"), .fill ['u'] [.unsigned 1], .mark, .copy,
    .fill ['t', 'i'] [.text "y", .integer 8], .mark]

theorem example_lives_go_forward :
    ∃ job, Job.decode.whole exampleJobBytes = .ok job ∧
      (∀ request ∈ exampleRequests, request.Onward) ∧
      job.Progresses exampleRequests ∧ Job.Progresses {} exampleRequests ∧
      (job.stages exampleRequests).map Job.state =
        [.created, .created, .populated, .populated, .completed, .completed, .completed,
          .completed] ∧
      (Job.stages {} exampleRequests).map Job.state =
        [.created, .created, .created, .populated, .completed, .completed, .completed,
          .completed] := by
  obtain ⟨forward, -⟩ := life_goes_forward_between_resets
  have onward : ∀ request ∈ exampleRequests, request.Onward := by decide
  exact ⟨{ number := 9, arguments := [.unset, .integer 7] }, rfl, onward,
    forward _ _ onward, forward _ _ onward, rfl, rfl⟩

end WorkPackage
