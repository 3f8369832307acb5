import WorkPackage.Proofs.Wire.Field

/-!
# Laws of structures

Each structure is read back from exactly the bytes that are written for it.
The argument is the same throughout: a writer succeeds when all of its fields
do, and a reader takes the same fields in the same order.  Only the completion
flag of a job is not on the wire, so what is read is always pending.
-/

namespace WorkPackage

open Wire

namespace Argument

/-- A kind determines how a payload is read, and an argument its kind. -/
theorem decodePayload_inverts (kind : Kind) :
    (decodePayload kind).Inverts (fun argument => argument.kind = kind)
      encodePayload := by
  intro input argument rest
  cases kind <;>
    simp only [decodePayload, Reader.wrap_eq_value_iff,
      Reader.pure_eq_value_iff, Field.text_eq_value_iff,
      Field.int32_eq_value_iff, Field.uint32_eq_value_iff,
      Field.bool_eq_value_iff, Field.int64_eq_value_iff,
      Field.uint64_eq_value_iff, Field.byte_eq_value_iff,
      Field.bytes_eq_value_iff] <;>
    cases argument <;>
    simp [encodePayload, Argument.kind]

theorem encode_eq_ok_iff {argument : Argument} {bytes : List UInt8} :
    argument.encode = .ok bytes ↔
      ∃ payload, argument.encodePayload = .ok payload ∧
        argument.kind.tag :: payload = bytes := by
  simp only [encode, bind_eq_ok_iff, pure_eq_ok_iff]

theorem decode_inverts : decode.Inverts (fun _ => True) encode := by
  intro input argument rest
  simp only [decode, Reader.bind_eq_value_iff, Field.byte_eq_value_iff,
    encode_eq_ok_iff, true_and]
  constructor
  · intro success
    obtain ⟨tag, left, rfl, answered⟩ := success
    cases found : Kind.ofTag? tag with
    | none =>
        rw [found] at answered
        exact absurd answered Reader.fail_ne_value
    | some kind =>
        rw [found] at answered
        obtain ⟨rfl, payload, written, rfl⟩ :=
          (decodePayload_inverts kind _ _ _).mp answered
        refine ⟨_, ⟨payload, written, rfl⟩, ?_⟩
        rw [Kind.ofTag?_eq_some_iff.mp found]
        rfl
  · intro success
    obtain ⟨bytes, ⟨payload, written, rfl⟩, rfl⟩ := success
    refine ⟨argument.kind.tag, payload ++ rest, rfl, ?_⟩
    rw [Kind.ofTag?_eq_some_iff.mpr rfl]
    exact (decodePayload_inverts _ _ _ _).mpr ⟨rfl, payload, written, rfl⟩

theorem decodePayload_plain (kind : Kind) :
    (decodePayload kind).Plain := by
  cases kind with
  | unset => exact .pure _
  | text => exact Field.text_plain.bind fun _ => .pure _
  | integer => exact Field.int32_plain.bind fun _ => .pure _
  | float => exact Field.uint32_plain.bind fun _ => .pure _
  | boolean => exact Field.bool_plain.bind fun _ => .pure _
  | long => exact Field.int64_plain.bind fun _ => .pure _
  | double => exact Field.uint64_plain.bind fun _ => .pure _
  | character => exact Field.byte_plain.bind fun _ => .pure _
  | bytes => exact Field.bytes_plain.bind fun _ => .pure _
  | unsigned => exact Field.uint32_plain.bind fun _ => .pure _

theorem decode_plain : decode.Plain := by
  refine Field.byte_plain.bind fun tag => ?_
  split
  next kind _ => exact decodePayload_plain kind
  next => exact .fail _

end Argument

namespace Job

/-- The job as it was before anybody completed it. -/
def pending (job : Job) : Job :=
  { job with completed := false }

theorem encode_eq_ok_iff {job : Job} {bytes : List UInt8} :
    job.encode = .ok bytes ↔
      ∃ count, Field.ofLength job.arguments.length = .ok count ∧
        ∃ arguments,
          encodeEach Argument.encode job.arguments = .ok arguments ∧
            Field.ofInt32 job.number ++ count ++ arguments = bytes := by
  simp only [encode, bind_eq_ok_iff, pure_eq_ok_iff]

theorem encode_pending (job : Job) : job.pending.encode = job.encode :=
  rfl

/-- The flag of a job stays behind, so only pending jobs are read. -/
theorem decode_inverts :
    decode.Inverts (fun job => job.completed = false) encode := by
  intro input job rest
  have arguments_iff := fun count =>
    Argument.decode_inverts.repeated count
  simp only [decode, Reader.bind_eq_value_iff, Field.int32_eq_value_iff,
    Field.length_eq_value_iff, arguments_iff _ _ _ _, encode_eq_ok_iff,
    Reader.pure_eq_value_iff]
  constructor
  · intro success
    obtain ⟨number, _, rfl, _, _, ⟨count, counted, rfl⟩, arguments, _,
      ⟨⟨rfl, _⟩, written, success, rfl⟩, rfl, rfl⟩ := success
    exact ⟨rfl, _, ⟨count, counted, written, success, rfl⟩, by simp⟩
  · intro success
    obtain ⟨notDone, bytes, ⟨count, counted, written, success, rfl⟩, rfl⟩ :=
      success
    refine ⟨job.number, count ++ (written ++ rest), by simp,
      job.arguments.length, written ++ rest, ⟨count, counted, rfl⟩,
      job.arguments, rest, ⟨⟨rfl, by simp⟩, written, success, rfl⟩, ?_, rfl⟩
    rw [← notDone]

theorem decode_plain : decode.Plain :=
  Field.int32_plain.bind fun _ =>
    Field.length_plain.bind fun count =>
      (Argument.decode_plain.repeated count).bind fun _ => .pure _

end Job

theorem Wire.encodeEach_total {α : Type} (write : α → List UInt8)
    (items : List α) :
    encodeEach (fun item => .ok (write item)) items =
      .ok (items.flatMap write) := by
  induction items with
  | nil => rfl
  | cons item items induction =>
      exact encodeEach_cons_eq_ok_iff.mpr ⟨_, rfl, _, induction, by simp⟩

namespace JobResult

theorem words_invert (count : Nat) :
    (Reader.repeated Field.uint32 count).Inverts
      (fun words => words.length = count ∧ ∀ word ∈ words, True)
      (encodeEach fun word => .ok (Field.ofUInt32 word)) := by
  apply Reader.Inverts.repeated
  intro input word rest
  simp [Field.uint32_eq_value_iff]

theorem encode_eq_ok_iff {result : JobResult} {bytes : List UInt8} :
    result.encode = .ok bytes ↔
      ∃ count, Field.ofLength result.data.length = .ok count ∧
        Field.ofInt32 result.number ++ count ++
          result.data.flatMap Field.ofUInt32 = bytes := by
  simp only [encode, bind_eq_ok_iff, pure_eq_ok_iff]

theorem decode_inverts : decode.Inverts (fun _ => True) encode := by
  intro input result rest
  simp only [decode, Reader.bind_eq_value_iff, Field.int32_eq_value_iff,
    Field.length_eq_value_iff, words_invert _ _ _ _, encodeEach_total,
    encode_eq_ok_iff, Reader.pure_eq_value_iff, true_and]
  constructor
  · intro success
    obtain ⟨number, _, rfl, _, _, ⟨count, counted, rfl⟩, data, _,
      ⟨⟨rfl, _⟩, words, written, rfl⟩, rfl, rfl⟩ := success
    cases written
    exact ⟨_, ⟨count, counted, rfl⟩, by simp⟩
  · intro success
    obtain ⟨bytes, ⟨count, counted, rfl⟩, rfl⟩ := success
    exact ⟨result.number, count ++ (result.data.flatMap Field.ofUInt32 ++ rest),
      by simp, result.data.length, result.data.flatMap Field.ofUInt32 ++ rest,
      ⟨count, counted, rfl⟩, result.data, rest,
      ⟨⟨rfl, by simp⟩, _, rfl, rfl⟩, rfl, rfl⟩

theorem decode_plain : decode.Plain :=
  Field.int32_plain.bind fun _ =>
    Field.length_plain.bind fun count =>
      (Field.uint32_plain.repeated count).bind fun _ => .pure _

end JobResult

namespace RunCommand

theorem encode_eq_ok_iff {command : RunCommand} {bytes : List UInt8} :
    command.encode = .ok bytes ↔
      ∃ line, Field.ofText command.command = .ok line ∧
        line ++ Field.ofInt32 command.copies ++
          Field.ofInt32 command.threads ++
          Field.ofBool command.overridesCopies ++
          Field.ofInt32 command.overriddenCopies ++
          Field.ofInt32 command.delay = bytes := by
  simp only [encode, bind_eq_ok_iff, pure_eq_ok_iff]

theorem decode_inverts : decode.Inverts (fun _ => True) encode := by
  intro input command rest
  simp only [decode, Reader.bind_eq_value_iff, Field.text_eq_value_iff,
    Field.int32_eq_value_iff, Field.bool_eq_value_iff, encode_eq_ok_iff,
    Reader.pure_eq_value_iff, true_and]
  constructor
  · intro success
    obtain ⟨line, _, ⟨text, written, rfl⟩, copies, _, rfl, threads, _, rfl,
      overrides, _, rfl, overridden, _, rfl, delay, _, rfl, rfl, rfl⟩ :=
      success
    exact ⟨_, ⟨text, written, rfl⟩, by simp⟩
  · intro success
    obtain ⟨bytes, ⟨text, written, rfl⟩, rfl⟩ := success
    refine ⟨command.command, _, ⟨text, written, ?_⟩,
      command.copies, _, rfl, command.threads, _, rfl,
      command.overridesCopies, _, rfl, command.overriddenCopies, _, rfl,
      command.delay, rest, rfl, rfl, rfl⟩
    simp

theorem decode_plain : decode.Plain :=
  Field.text_plain.bind fun _ =>
    Field.int32_plain.bind fun _ =>
      Field.int32_plain.bind fun _ =>
        Field.bool_plain.bind fun _ =>
          Field.int32_plain.bind fun _ =>
            Field.int32_plain.bind fun _ => .pure _

end RunCommand

namespace Profile

theorem encode_eq_ok_iff {profile : Profile} {bytes : List UInt8} :
    profile.encode = .ok bytes ↔
      ∃ name, Field.ofText profile.name = .ok name ∧
      ∃ executable, Field.ofText profile.executable = .ok executable ∧
      ∃ gui, Field.ofText profile.guiAddress = .ok gui ∧
      ∃ controller, Field.ofText profile.controllerAddress = .ok controller ∧
      ∃ count, Field.ofLength profile.commands.length = .ok count ∧
      ∃ commands,
        encodeEach RunCommand.encode profile.commands = .ok commands ∧
        name ++ executable ++ gui ++ controller ++ count ++ commands =
          bytes := by
  simp only [encode, bind_eq_ok_iff, pure_eq_ok_iff]

theorem decode_inverts : decode.Inverts (fun _ => True) encode := by
  intro input profile rest
  have commands_iff := fun count => RunCommand.decode_inverts.repeated count
  simp only [decode, Reader.bind_eq_value_iff, Field.text_eq_value_iff,
    Field.length_eq_value_iff, commands_iff _ _ _ _, encode_eq_ok_iff,
    Reader.pure_eq_value_iff, true_and]
  constructor
  · intro success
    obtain ⟨_, _, ⟨name, named, rfl⟩, _, _, ⟨executable, executed, rfl⟩,
      _, _, ⟨gui, shown, rfl⟩, _, _, ⟨controller, controlled, rfl⟩,
      _, _, ⟨count, counted, rfl⟩, _, _,
      ⟨⟨rfl, _⟩, commands, written, rfl⟩, rfl, rfl⟩ := success
    exact ⟨_, ⟨name, named, executable, executed, gui, shown, controller,
      controlled, count, counted, commands, written, rfl⟩, by simp⟩
  · intro success
    obtain ⟨bytes, ⟨name, named, executable, executed, gui, shown, controller,
      controlled, count, counted, commands, written, rfl⟩, rfl⟩ := success
    refine ⟨profile.name, _, ⟨name, named, ?_⟩,
      profile.executable, _, ⟨executable, executed, rfl⟩,
      profile.guiAddress, _, ⟨gui, shown, rfl⟩,
      profile.controllerAddress, _, ⟨controller, controlled, rfl⟩,
      profile.commands.length, commands ++ rest, ⟨count, counted, rfl⟩,
      profile.commands, rest, ⟨⟨rfl, by simp⟩, commands, written, rfl⟩,
      rfl, rfl⟩
    simp

theorem decode_plain : decode.Plain :=
  Field.text_plain.bind fun _ =>
    Field.text_plain.bind fun _ =>
      Field.text_plain.bind fun _ =>
        Field.text_plain.bind fun _ =>
          Field.length_plain.bind fun count =>
            (RunCommand.decode_plain.repeated count).bind fun _ => .pure _

end Profile

end WorkPackage
