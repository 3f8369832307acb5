import WorkPackage.Proofs.Wire.Message
import WorkPackage.Wire.Stream

/-!
# Laws of streams

The pieces of a message come to its encoding, so that a buffer takes all of them
exactly when the message can be encoded.  Whatever happened in the buffers, the
stream consists of the encodings of the accepted messages one behind the other,
and reading goes through them in step.
-/

namespace WorkPackage

open Wire

namespace Wire

/-- What pieces come to: all of their bytes, or the fault of the first that
cannot be written. -/
def joined (pieces : List Piece) : Piece :=
  encodeEach id pieces

theorem ok_bind {ε α β : Type} (value : α) (next : α → Except ε β) :
    (Except.ok value >>= next) = next value :=
  rfl

theorem joined_nil : joined [] = .ok [] :=
  rfl

theorem joined_cons (piece : Piece) (pieces : List Piece) :
    joined (piece :: pieces) = do
      let first ← piece
      let others ← joined pieces
      return first ++ others :=
  rfl

theorem joined_append (front back : List Piece) :
    joined (front ++ back) = do
      let first ← joined front
      let others ← joined back
      return first ++ others := by
  induction front with
  | nil => simp only [List.nil_append, joined_nil, ok_bind, bind_pure]
  | cons piece pieces induction =>
      simp only [List.cons_append, joined_cons, induction, bind_assoc,
        pure_bind, List.append_assoc]

theorem joined_map {α : Type} (piece : α → Piece) (items : List α) :
    joined (items.map piece) = encodeEach piece items :=
  encodeEach_map id piece items

theorem joined_flatMap {α : Type} {pieces : α → List Piece} {encode : α → Piece}
    (same : ∀ item, joined (pieces item) = encode item) (items : List α) :
    joined (items.flatMap pieces) = encodeEach encode items := by
  induction items with
  | nil => rfl
  | cons item items induction =>
      rw [List.flatMap_cons, joined_append, same, induction, encodeEach]

namespace Field

theorem joined_bytesPieces (value : ByteArray) :
    joined (bytesPieces value) = ofBytes value := by
  simp only [bytesPieces, joined_cons, joined_nil, ok_bind, pure_bind,
    List.append_nil, ofBytes]
  cases ofLength value.size <;> rfl

theorem joined_textPieces (value : String) :
    joined (textPieces value) = ofText value :=
  joined_bytesPieces value.toUTF8

end Field

end Wire

theorem Argument.joined_pieces (argument : Argument) :
    joined argument.pieces = argument.encode := by
  cases argument with
  | text value =>
      simp only [pieces, joined_cons, ok_bind, Field.joined_textPieces, encode,
        encodePayload, List.singleton_append]
  | bytes value =>
      simp only [pieces, joined_cons, ok_bind, Field.joined_bytesPieces, encode,
        encodePayload, List.singleton_append]
  | _ => rfl

theorem Job.joined_pieces (job : Job) : joined job.pieces = job.encode := by
  simp only [pieces, joined_cons, ok_bind, pure_bind, bind_assoc,
    joined_flatMap Argument.joined_pieces, encode, List.append_assoc]

theorem JobResult.joined_pieces (result : JobResult) :
    joined result.pieces = result.encode := by
  simp only [pieces, joined_cons, ok_bind, pure_bind, bind_assoc, joined_map,
    encodeEach_total, encode, List.append_assoc]

theorem JobResult.joined_framePieces (result : JobResult) :
    joined result.framePieces = result.frame := by
  simp only [framePieces, joined_append, joined_cons, joined_nil, ok_bind,
    pure_bind, joined_pieces, frame, Frame.resultHeader, Field.ofByte,
    List.append_assoc, List.append_nil]

theorem RunCommand.joined_pieces (command : RunCommand) :
    joined command.pieces = command.encode := by
  simp only [pieces, joined_append, joined_cons, joined_nil, ok_bind, pure_bind,
    Field.joined_textPieces, encode, List.append_assoc, List.append_nil]

theorem Profile.joined_pieces (profile : Profile) :
    joined profile.pieces = profile.encode := by
  simp only [pieces, joined_append, joined_cons, pure_bind, bind_assoc,
    Field.joined_textPieces, joined_flatMap RunCommand.joined_pieces, encode,
    List.append_assoc]

theorem Package.joined_framePieces (package : Package) :
    joined package.framePieces = package.frame := by
  simp only [framePieces, joined_append, joined_cons, joined_nil, ok_bind,
    pure_bind, bind_assoc, Profile.joined_pieces,
    joined_flatMap Job.joined_pieces, frame, header,
    Frame.PackageHeader.encode, encode, Field.ofByte, List.append_assoc,
    List.append_nil]

namespace Wire

theorem Message.joined_pieces (message : Message) :
    joined message.pieces = message.encode := by
  cases message with
  | argument value => exact value.joined_pieces
  | job value => exact value.joined_pieces
  | result value => exact value.joined_pieces
  | profile value => exact value.joined_pieces
  | packageFrame value => exact value.joined_framePieces
  | resultFrame value => exact value.joined_framePieces

/-- A buffer takes all pieces when all of them can be written. -/
theorem stage_of_ok {pieces : List Piece} {bytes : List UInt8}
    (written : joined pieces = .ok bytes) (buffer : List UInt8) :
    stage buffer pieces = { buffer := buffer ++ bytes, fault? := none } := by
  induction pieces generalizing buffer bytes with
  | nil =>
      cases written
      rw [stage, List.append_nil]
  | cons piece pieces induction =>
      obtain ⟨first, rfl, others, laterWritten, rfl⟩ :=
        encodeEach_cons_eq_ok_iff.mp written
      rw [stage, induction laterWritten, List.append_assoc]

/-- A buffer ends with the first piece that cannot be written. -/
theorem stage_of_error {pieces : List Piece} {fault : Fault}
    (refused : joined pieces = .error fault) (buffer : List UInt8) :
    (stage buffer pieces).fault? = some fault := by
  induction pieces generalizing buffer with
  | nil => contradiction
  | cons piece pieces induction =>
      rw [joined_cons] at refused
      cases piece with
      | error cause =>
          cases refused
          rfl
      | ok first =>
          rw [stage]
          apply induction
          cases later : joined pieces with
          | error cause =>
              rw [later] at refused
              exact refused
          | ok others =>
              rw [later] at refused
              contradiction

namespace Message

variable {message : Message}

theorem write_of_ok {bytes : List UInt8} (written : message.encode = .ok bytes)
    (stream : List UInt8) :
    message.write stream =
      { stream := stream ++ bytes, outcome := .ok bytes.length } := by
  rw [← message.joined_pieces] at written
  simp only [write, stage_of_ok written, List.nil_append]

theorem write_of_error {fault : Fault} (refused : message.encode = .error fault)
    (stream : List UInt8) :
    message.write stream = { stream, outcome := .error fault } := by
  rw [← message.joined_pieces] at refused
  simp only [write, stage_of_error refused]

/-- A write that fails leaves the stream as it was; one that succeeds answers
with the number of bytes that it has put behind it. -/
theorem write_all_or_nothing (message : Message) (stream : List UInt8) :
    (∀ fault, (message.write stream).outcome = .error fault →
      (message.write stream).stream = stream) ∧
    (∀ count, (message.write stream).outcome = .ok count →
      ∃ bytes, message.encode = .ok bytes ∧ bytes.length = count ∧
        (message.write stream).stream = stream ++ bytes) := by
  cases encoded : message.encode with
  | ok bytes =>
      rw [write_of_ok encoded]
      constructor
      · intro fault failed
        contradiction
      · intro count counted
        cases counted
        exact ⟨bytes, rfl, rfl, rfl⟩
  | error fault =>
      rw [write_of_error encoded]
      constructor
      · intro _ _
        rfl
      · intro count counted
        contradiction

end Message

/-- After any writes the stream has grown by the encodings of the messages that
were accepted. -/
theorem writeAll_encodes (messages : List Message) (stream : List UInt8) :
    ∃ written,
      encodeEach Message.encode
          (accepted messages (writeAll stream messages).outcomes) =
        .ok written ∧
      (writeAll stream messages).stream = stream ++ written := by
  induction messages generalizing stream with
  | nil => exact ⟨[], rfl, (List.append_nil stream).symm⟩
  | cons message messages induction =>
      cases encoded : message.encode with
      | ok bytes =>
          obtain ⟨later, laterWritten, grown⟩ := induction (stream ++ bytes)
          simp only [writeAll, Message.write_of_ok encoded, accepted]
          refine ⟨bytes ++ later, ?_, by rw [grown, List.append_assoc]⟩
          exact encodeEach_cons_eq_ok_iff.mpr
            ⟨bytes, encoded, later, laterWritten, rfl⟩
      | error fault =>
          obtain ⟨later, laterWritten, grown⟩ := induction stream
          simp only [writeAll, Message.write_of_error encoded, accepted]
          exact ⟨later, laterWritten, grown⟩

theorem writeAll_outcomes (messages : List Message) (stream : List UInt8) :
    (writeAll stream messages).outcomes =
      messages.map fun message => message.encode.map List.length := by
  induction messages generalizing stream with
  | nil => rfl
  | cons message messages induction =>
      cases encoded : message.encode with
      | ok bytes =>
          simp only [writeAll, Message.write_of_ok encoded, induction,
            List.map_cons, encoded, Except.map]
      | error fault =>
          simp only [writeAll, Message.write_of_error encoded, induction,
            List.map_cons, encoded, Except.map]

/-- Encodings one behind the other are read one behind the other, and what
follows them is left. -/
theorem readAll_of_encodeEach {messages : List Message} {bytes : List UInt8}
    (written : encodeEach Message.encode messages = .ok bytes)
    (fit : ∀ message ∈ messages, message.Fits) (rest : List UInt8) :
    Shape.readAll (messages.map Message.shape) (bytes ++ rest) =
      .value (messages.map Message.pending) rest := by
  induction messages generalizing bytes with
  | nil =>
      cases written
      rfl
  | cons message messages induction =>
      obtain ⟨first, firstWritten, others, othersWritten, rfl⟩ :=
        encodeEach_cons_eq_ok_iff.mp written
      obtain ⟨firstFits, othersFit⟩ := List.forall_mem_cons.mp fit
      have firstRead : message.shape.read (first ++ (others ++ rest)) =
          .value message.pending (others ++ rest) :=
        (Shape.read_inverts _ _ _ _).mpr
          ⟨message.pending_readable firstFits, first,
            message.encode_pending.trans firstWritten, rfl⟩
      have othersRead : Shape.readAll (messages.map Message.shape)
          (others ++ rest) = .value (messages.map Message.pending) rest :=
        induction othersWritten othersFit
      rw [List.append_assoc, List.map_cons, Shape.readAll]
      exact Reader.bind_eq_value_iff.mpr ⟨_, _, firstRead,
        Reader.bind_eq_value_iff.mpr ⟨_, _, othersRead, rfl⟩⟩

/-- Writes that fail, however late, do not put a stream out of step.  Each write
appends all of a message or nothing, the stream is the encodings of the accepted
messages, and reading for their shapes answers them and uses up the stream. -/
theorem failed_writes_leave_the_stream_aligned :
    (∀ (message : Message) stream,
      (∀ fault, (message.write stream).outcome = .error fault →
        (message.write stream).stream = stream) ∧
      (∀ count, (message.write stream).outcome = .ok count →
        ∃ bytes, message.encode = .ok bytes ∧ bytes.length = count ∧
          (message.write stream).stream = stream ++ bytes)) ∧
    (∀ messages : List Message,
      let session := writeAll [] messages
      let kept := accepted messages session.outcomes
      session.outcomes =
          messages.map (fun message => message.encode.map List.length) ∧
        encodeEach Message.encode kept = .ok session.stream ∧
        ((∀ message ∈ kept, message.Fits) →
          Shape.readAll (kept.map Message.shape) session.stream =
            .value (kept.map Message.pending) [])) := by
  refine ⟨Message.write_all_or_nothing, fun messages => ?_⟩
  obtain ⟨written, encoded, grown⟩ := writeAll_encodes messages []
  rw [List.nil_append] at grown
  subst grown
  refine ⟨writeAll_outcomes messages [], encoded, fun fit => ?_⟩
  have allRead := readAll_of_encodeEach encoded fit []
  rwa [List.append_nil] at allRead

/-- A frame, a result with one word too many, and an argument. -/
def exampleMessages : List Message :=
  [exampleFrame,
    .result { number := 1, data := List.replicate (maxFieldLength + 1) 0 },
    .argument (.boolean true)]

theorem exampleMessages_writeAll :
    writeAll [] exampleMessages =
      { stream := exampleBytes ++ [4, 1]
        outcomes :=
          [.ok exampleBytes.length,
            .error (.refused (.tooLong (maxFieldLength + 1))), .ok 2] } := by
  have framed : exampleFrame.encode = .ok exampleBytes := rfl
  have refused : Message.encode (.result
      { number := 1, data := List.replicate (maxFieldLength + 1) 0 }) =
        .error (.refused (.tooLong (maxFieldLength + 1))) := by
    have beyond : ¬maxFieldLength + 1 ≤ maxFieldLength :=
      Nat.not_succ_le_self _
    simp only [Message.encode, JobResult.encode, List.length_replicate,
      Field.ofLength, if_neg beyond]
    rfl
  have flagged : Message.encode (.argument (.boolean true)) = .ok [4, 1] := rfl
  simp only [exampleMessages, writeAll, Message.write_of_ok framed,
    Message.write_of_error refused, Message.write_of_ok flagged]
  rfl

theorem example_session_is_read_past_the_failure :
    Shape.readAll [.packageFrame, .argument] (exampleBytes ++ [4, 1]) =
      .value [exampleFrame.pending, .argument (.boolean true)] [] := by
  have session := failed_writes_leave_the_stream_aligned.2 exampleMessages
  rw [exampleMessages_writeAll] at session
  refine session.2.2 ?_
  intro message member
  obtain rfl | rfl : message = exampleFrame ∨
      message = .argument (.boolean true) := by
    simpa [accepted, exampleMessages] using member
  · exact show _ < 2 ^ 64 by decide
  · trivial

end Wire

end WorkPackage
