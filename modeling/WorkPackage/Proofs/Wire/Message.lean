import WorkPackage.Proofs.Wire.Frame
import WorkPackage.Wire.Message

/-!
# Laws of messages

Writing and reading undo each other over everything that can be put into a
stream.  What is read back is the message with the completion flags cleared;
what is accepted is, byte for byte, what is written for the message that is
found in it.
-/

namespace WorkPackage

open Wire

theorem Job.pending_eq_self_iff {job : Job} :
    job.pending = job ↔ job.completed = false := by
  constructor
  · intro same
    rw [← same]
    rfl
  · intro notDone
    rw [Job.pending, ← notDone]

theorem Job.map_pending_eq_self_iff {jobs : List Job} :
    jobs.map Job.pending = jobs ↔ ∀ job ∈ jobs, job.completed = false := by
  induction jobs with
  | nil => simp
  | cons job jobs induction =>
      rw [List.map_cons, List.cons.injEq, induction, Job.pending_eq_self_iff,
        List.forall_mem_cons]

namespace Wire

theorem encodeEach_map {α β : Type} (encode : β → Except Fault (List UInt8))
    (change : α → β) (items : List α) :
    encodeEach encode (items.map change) =
      encodeEach (fun item => encode (change item)) items := by
  induction items with
  | nil => rfl
  | cons item items induction =>
      rw [List.map_cons, encodeEach, induction]
      rfl

theorem totalSize_map {α β : Type} (size : β → Nat) (change : α → β)
    (items : List α) :
    totalSize size (items.map change) =
      totalSize (fun item => size (change item)) items :=
  List.foldr_map

end Wire

namespace Package

theorem jobs_pending (package : Package) :
    package.pending.jobs = package.jobs.map Job.pending :=
  List.map_append.symm

theorem pending_eq_self_iff {package : Package} :
    package.pending = package ↔
      ∀ job ∈ package.jobs, job.completed = false := by
  rw [← Job.map_pending_eq_self_iff, ← jobs_pending]
  constructor
  · intro same
    rw [same]
  · intro same
    obtain ⟨profile, filled, free⟩ := package
    have parts := List.append_inj same (by simp [pending])
    simp only [pending, mk.injEq, true_and]
    exact parts

theorem pending_pending (package : Package) :
    package.pending.pending = package.pending := by
  apply pending_eq_self_iff.mpr
  rw [jobs_pending]
  simp [Job.pending]

theorem encodedSize_pending (package : Package) :
    package.pending.encodedSize = package.encodedSize := by
  rw [encodedSize, jobs_pending, totalSize_map]
  rfl

theorem encode_pending (package : Package) :
    package.pending.encode = package.encode := by
  rw [encode, jobs_pending, encodeEach_map]
  rfl

/-- No flag is on the wire, so the frame of a package does not change when its
jobs are completed. -/
theorem frame_pending (package : Package) :
    package.pending.frame = package.frame := by
  have sameHeader : package.pending.header = package.header := by
    simp only [header, encodedSize_pending]
    simp [capacity, added, pending]
  rw [frame, sameHeader, encode_pending]
  rfl

theorem decode_of_encode {package : Package} {body : List UInt8}
    (written : package.encode = .ok body) :
    decode package.capacity package.added body = .value package.pending [] := by
  refine (decode_inverts _ _ _ _ _).mpr
    ⟨⟨⟨?_, ?_⟩, ?_⟩, body, ?_, (List.append_nil _).symm⟩
  · simp [capacity, pending]
  · simp [added, pending]
  · rw [jobs_pending]
    simp [Job.pending]
  · rw [package.encode_pending, written]

end Package

namespace Wire

namespace Message

/-- The message as it is read back: no job in it is completed. -/
def pending : Message → Message
  | job value => job value.pending
  | packageFrame value => packageFrame value.pending
  | other => other

/-- The size of the body fits the word that the header of a package frame has
for it, as the size of anything in memory does. -/
def Fits : Message → Prop
  | packageFrame value => value.encodedSize < 2 ^ 64
  | _ => True

theorem encode_pending (message : Message) :
    message.pending.encode = message.encode := by
  cases message with
  | job value => exact value.encode_pending
  | packageFrame value => exact value.frame_pending
  | _ => rfl

theorem shape_pending (message : Message) :
    message.pending.shape = message.shape := by
  cases message <;> rfl

theorem pending_pending (message : Message) :
    message.pending.pending = message.pending := by
  cases message with
  | packageFrame value => simp only [pending, value.pending_pending]
  | _ => rfl

theorem fits_pending {message : Message} :
    message.pending.Fits ↔ message.Fits := by
  cases message with
  | packageFrame value => simp only [pending, Fits, value.encodedSize_pending]
  | _ => rfl

/-- A message is read back by the reader for its shape, with its flags
cleared. -/
theorem pending_readable (message : Message) (fits : message.Fits) :
    message.pending.shape = message.shape ∧
      message.pending.pending = message.pending ∧ message.pending.Fits :=
  ⟨message.shape_pending, message.pending_pending, fits_pending.mpr fits⟩

end Message

/-- A reader of messages takes just what is written for a message of its
shape. -/
theorem Shape.read_inverts (shape : Shape) :
    shape.read.Inverts
      (fun message =>
        message.shape = shape ∧ message.pending = message ∧ message.Fits)
      Message.encode := by
  cases shape with
  | argument =>
      refine Argument.decode_inverts.wrap (fun message => ?_) fun _ => rfl
      cases message <;> simp [Message.shape, Message.pending, Message.Fits]
  | job =>
      refine Job.decode_inverts.wrap (fun message => ?_) fun _ => rfl
      cases message <;>
        simp [Message.shape, Message.pending, Message.Fits,
          Job.pending_eq_self_iff]
  | result =>
      refine JobResult.decode_inverts.wrap (fun message => ?_) fun _ => rfl
      cases message <;> simp [Message.shape, Message.pending, Message.Fits]
  | profile =>
      refine Profile.decode_inverts.wrap (fun message => ?_) fun _ => rfl
      cases message <;> simp [Message.shape, Message.pending, Message.Fits]
  | packageFrame =>
      refine Package.readFrame_inverts.wrap (fun message => ?_) fun _ => rfl
      cases message <;>
        simp [Message.shape, Message.pending, Message.Fits,
          Package.pending_eq_self_iff, and_comm]
  | resultFrame =>
      refine JobResult.readFrame_inverts.wrap (fun message => ?_) fun _ => rfl
      cases message <;> simp [Message.shape, Message.pending, Message.Fits]

/-- Reading undoes writing, whatever comes next in the stream. -/
theorem written_message_is_read_back (message : Message)
    (bytes rest : List UInt8) (fits : message.Fits)
    (written : message.encode = .ok bytes) :
    message.shape.read (bytes ++ rest) = .value message.pending rest := by
  have known := message.pending_readable fits
  -- The flags are not on the wire: the pending message has the same bytes.
  refine (Shape.read_inverts _ _ _ _).mpr ⟨known, bytes, ?_, rfl⟩
  rw [message.encode_pending, written]

/-- A package with a completed job, words that are not numbers, a text beyond
ASCII and a free slot. -/
def exampleFrame : Message :=
  .packageFrame
    { profile :=
        { name := "π"
          commands := [{ command := "run", copies := -1 }] }
      filled :=
        [{ number := -7
           arguments := [.float 0x7fc00001, .double 0x8000000000000000, .unset]
           completed := true }]
      free := [{ number := 1 }] }

def exampleBytes : List UInt8 :=
  [0x4a, 0x50, 0x4b, 0x47, 1, 2, 0, 0, 0, 1, 0, 0, 0, 77, 0, 0, 0, 0, 0, 0, 0,
    2, 0, 0, 0, 0xcf, 0x80, 0, 0, 0, 0, 0, 0, 0, 0, 0, 0, 0, 0,
    1, 0, 0, 0, 3, 0, 0, 0, 0x72, 0x75, 0x6e, 0xff, 0xff, 0xff, 0xff,
    1, 0, 0, 0, 0, 0, 0, 0, 0, 0, 0, 0, 0,
    0xf9, 0xff, 0xff, 0xff, 3, 0, 0, 0, 3, 1, 0, 0xc0, 0x7f,
    6, 0, 0, 0, 0, 0, 0, 0, 0x80, 0, 1, 0, 0, 0, 0, 0, 0, 0]

theorem example_frame_is_read_back :
    exampleFrame.shape.read (exampleBytes ++ [1, 2, 3]) =
      .value exampleFrame.pending [1, 2, 3] :=
  written_message_is_read_back exampleFrame exampleBytes [1, 2, 3]
    (show _ < 2 ^ 64 by decide) rfl

/-- Nothing is accepted but what is written, so no two inputs are accepted as
the same message. -/
theorem accepted_input_is_what_is_written (shape : Shape)
    (message : Message) :
    (∀ input rest, shape.read input = .value message rest →
      message.shape = shape ∧
        ∃ bytes, message.encode = .ok bytes ∧ input = bytes ++ rest) ∧
    (∀ input, shape.read.whole input = .ok message →
      message.encode = .ok input) ∧
    (∀ first second, shape.read.whole first = .ok message →
      shape.read.whole second = .ok message → first = second) := by
  have accepted : ∀ input rest, shape.read input = .value message rest →
      message.shape = shape ∧
        ∃ bytes, message.encode = .ok bytes ∧ input = bytes ++ rest := by
    intro input rest success
    obtain ⟨⟨sameShape, _⟩, spelled⟩ :=
      (shape.read_inverts _ _ _).mp success
    exact ⟨sameShape, spelled⟩
  have whole : ∀ input, shape.read.whole input = .ok message →
      message.encode = .ok input := by
    intro input success
    obtain ⟨_, bytes, written, same⟩ :=
      accepted input [] (Reader.whole_eq_ok_iff.mp success)
    rw [same, List.append_nil, written]
  refine ⟨accepted, whole, ?_⟩
  intro first second firstRead secondRead
  have both := (whole first firstRead).symm.trans (whole second secondRead)
  exact Except.ok.inj both

theorem example_frame_is_what_is_written :
    exampleFrame.pending.encode = .ok exampleBytes :=
  (accepted_input_is_what_is_written .packageFrame exampleFrame.pending).2.1
    exampleBytes rfl

namespace Message

/-- The lengths and counts that are written, in the order of writing. -/
def lengths : Message → List Nat
  | argument value => value.lengths
  | job value => value.lengths
  | result value => value.lengths
  | profile value => value.lengths
  | packageFrame value => value.capacity :: value.lengths
  | resultFrame value => value.lengths

theorem encode_measured (message : Message) :
    Measured message.encode message.lengths message.encodedSize := by
  cases message with
  | argument value => exact value.encode_measured
  | job value => exact value.encode_measured
  | result value => exact value.encode_measured
  | profile value => exact value.encode_measured
  | packageFrame value => exact value.frame_measured
  | resultFrame value => exact value.frame_measured

end Message

end Wire

/-- The header of a package frame announces the size of the body. -/
theorem Package.frame_announces {package : Package} {bytes : List UInt8}
    (framed : package.frame = .ok bytes) :
    ∃ opening body,
      bytes = opening ++ littleEndian 8 package.encodedSize ++ body ∧
      opening.length + 8 = Frame.packageHeaderSize ∧
      package.encode = .ok body ∧ body.length = package.encodedSize ∧
      (package.encodedSize < 2 ^ 64 →
        Frame.readPackageHeader bytes = .value package.header body) := by
  obtain ⟨header, opened, body, written, rfl⟩ := frame_eq_ok_iff.mp framed
  obtain ⟨capacity, _, added, _, spelled⟩ :=
    Frame.PackageHeader.encode_eq_ok_iff.mp opened
  have width := package.header.encode_measured.length_eq opened
  refine ⟨Frame.packageMagic ++ [Frame.version] ++ capacity ++ added, body,
    ?_, ?_, written, package.encode_measured.length_eq written, ?_⟩
  · rw [← spelled]
    rfl
  · rw [← width, ← spelled]
    simp only [List.length_append, length_littleEndian]
  · intro fits
    exact (Frame.readPackageHeader_inverts _ _ _).mpr
      ⟨fits, header, opened, rfl⟩

theorem JobResult.frame_announces {result : JobResult} {bytes : List UInt8}
    (framed : result.frame = .ok bytes) :
    ∃ opening body,
      bytes = opening ++ littleEndian 8 result.encodedSize ++ body ∧
      opening.length + 8 = Frame.resultHeaderSize ∧
      result.encode = .ok body ∧ body.length = result.encodedSize ∧
      Frame.readResultHeader bytes = .value result.encodedSize body := by
  obtain ⟨body, written, rfl⟩ := frame_eq_ok_iff.mp framed
  refine ⟨Frame.resultMagic ++ [Frame.version], body, rfl, rfl, written,
    result.encode_measured.length_eq written, ?_⟩
  exact (Frame.readResultHeader_inverts _ _ _).mpr
    ⟨encodedSize_lt written, _, rfl, rfl⟩

/-- The announced size is the size of whatever is written, and nothing but the
limit keeps a message or the body of a package from being written. -/
theorem writing_is_bound_by_limit_and_size :
    (∀ message : Message,
      Bound message.encode message.lengths message.encodedSize) ∧
    (∀ package : Package,
      Bound package.encode package.lengths package.encodedSize) ∧
    (∀ (package : Package) bytes, package.frame = .ok bytes →
      ∃ opening body,
        bytes = opening ++ littleEndian 8 package.encodedSize ++ body ∧
        opening.length + 8 = Frame.packageHeaderSize ∧
        package.encode = .ok body ∧ body.length = package.encodedSize ∧
        (package.encodedSize < 2 ^ 64 →
          Frame.readPackageHeader bytes = .value package.header body)) ∧
    (∀ (result : JobResult) bytes, result.frame = .ok bytes →
      ∃ opening body,
        bytes = opening ++ littleEndian 8 result.encodedSize ++ body ∧
        opening.length + 8 = Frame.resultHeaderSize ∧
        result.encode = .ok body ∧ body.length = result.encodedSize ∧
        Frame.readResultHeader bytes = .value result.encodedSize body) :=
  ⟨fun message => message.encode_measured.bound,
    fun package => package.encode_measured.bound,
    fun _ _ framed => Package.frame_announces framed,
    fun _ _ framed => JobResult.frame_announces framed⟩

end WorkPackage
