import WorkPackage.Proofs.Wire.Confinement
import WorkPackage.Proofs.Wire.Message

/-!
# Inputs that are cut short or go on

A reader that is given only the beginning of what was written runs out of bytes,
wherever the cut is.  The converse is what makes this useful: any other outcome
is final, because a plain reader makes the same of its input when more bytes are
put behind it.  A reader of frames keeps its outcome as well, but not always its
place: where a body is too short, the bytes that are skipped may still come.
-/

namespace WorkPackage

open Wire

namespace Wire

namespace Reader

variable {α β : Type} {item : Reader α} {input left : List UInt8}

theorem front_of_value {value : α} (found : item input = .value value left) :
    item.front input = .ok value := by
  rw [front, found]

theorem front_eq_error_iff {cause : Fault} :
    item.front input = .error cause ↔ ∃ left, item input = .fault cause left := by
  unfold front
  cases item input <;> simp

theorem front_bind_of_value {first : Reader α} {next : α → Reader β}
    {middle : α} (found : first input = .value middle left) :
    (first >>= next).front input = (next middle).front left := by
  simp only [front, bind_apply, found]

theorem front_bind_of_fault {first : Reader α} {next : α → Reader β}
    {cause : Fault} (failed : first input = .fault cause left) :
    (first >>= next).front input = .error cause := by
  simp only [front, bind_apply, failed]

theorem front_wrap (item : Reader α) (wrap : α → β) (input : List UInt8) :
    (do return wrap (← item) : Reader β).front input =
      (item.front input).map wrap := by
  unfold front
  rw [bind_apply]
  cases item input <;> rfl

/-- Unless the input ended before the value, more input changes nothing: the
outcome is the same, with the new bytes behind those that were left. -/
def Steady (item : Reader α) : Prop :=
  ∀ input more, item.front input ≠ .error .endOfInput →
    item (input ++ more) = (item input).followedBy more

/-- Unless the input ended before the value, more input does not change the
value or the fault. -/
def Settled (item : Reader α) : Prop :=
  ∀ input more, item.front input ≠ .error .endOfInput →
    item.front (input ++ more) = item.front input

namespace Steady

theorem of_value (steady : item.Steady) {value : α}
    (found : item input = .value value left) (more : List UInt8) :
    item (input ++ more) = .value value (left ++ more) := by
  rw [steady input more, found]
  · rfl
  · rw [front_of_value found]
    simp

theorem of_fault (steady : item.Steady) {cause : Fault}
    (failed : item input = .fault cause left) (final : cause ≠ .endOfInput)
    (more : List UInt8) :
    item (input ++ more) = .fault cause (left ++ more) := by
  rw [steady input more, failed]
  · rfl
  · rw [front_eq_error_iff.mpr ⟨left, failed⟩]
    exact fun same => final (Except.error.inj same)

theorem settled (steady : item.Steady) : item.Settled := by
  intro input more final
  unfold front
  rw [steady input more final]
  cases item input <;> rfl

theorem take (count : Nat) : (Reader.take count).Steady := by
  intro input more final
  by_cases enough : (input.take count).length = count
  · have covered : count ≤ input.length := by
      rw [List.length_take] at enough
      omega
    have sameTaken : (input ++ more).take count = input.take count :=
      List.take_append_of_le_length covered
    have later : (input ++ more).drop count = input.drop count ++ more :=
      List.drop_append_of_le_length covered
    simp only [Reader.take, sameTaken, later, if_pos enough,
      Reading.followedBy]
  · have ended : (Reader.take count).front input = .error .endOfInput := by
      simp only [front, Reader.take, if_neg enough]
    exact absurd ended final

/-- Where the first reader stops for want of bytes, so does the sequence; in any
other case the second reader starts from the same place as before, followed by
the new bytes. -/
theorem bind {first : Reader α} {next : α → Reader β}
    (firstSteady : first.Steady) (nextSteady : ∀ middle, (next middle).Steady) :
    (first >>= next).Steady := by
  intro input more final
  rw [bind_apply, bind_apply]
  cases outcome : first input with
  | value middle left =>
      rw [front_bind_of_value outcome] at final
      rw [firstSteady.of_value outcome more]
      exact nextSteady middle left more final
  | fault cause left =>
      rw [front_bind_of_fault outcome] at final
      rw [firstSteady.of_fault outcome (fun same => final (same ▸ rfl)) more]
      rfl

/-- An input that is cut inside a value is too short for it. -/
theorem cut (steady : item.Steady) {given missing : List UInt8} {value : α}
    (whole : item (given ++ missing) = .value value [])
    (cut : missing ≠ []) : item.front given = .error .endOfInput := by
  by_cases ended : item.front given = .error .endOfInput
  · exact ended
  · have same := steady given missing ended
    rw [whole] at same
    -- The missing bytes would be left behind the value, but nothing is.
    cases outcome : item given with
    | value other left =>
        rw [outcome, Reading.followedBy, Reading.value.injEq] at same
        exact absurd (List.append_eq_nil_iff.mp same.2.symm).2 cut
    | fault cause left =>
        rw [outcome, Reading.followedBy] at same
        contradiction

end Steady

theorem Plain.steady (plain : item.Plain) : item.Steady := by
  induction plain with
  | pure result => exact fun _ _ _ => rfl
  | fail cause => exact fun _ _ _ => rfl
  | take count => exact Steady.take count
  | bind _ _ firstSteady nextSteady => exact firstSteady.bind nextSteady

theorem Settled.wrap (settled : item.Settled) (wrap : α → β) :
    (do return wrap (← item) : Reader β).Settled := by
  intro input more final
  rw [front_wrap] at final
  rw [front_wrap, front_wrap, settled input more]
  intro ended
  rw [ended] at final
  exact final rfl

end Reader

namespace Frame

variable {η α : Type}

/-- A longer input shows a longer window. -/
theorem window_append (declared : Nat) (after more : List UInt8) :
    ∃ extra, window declared (after ++ more) = window declared after ++ extra :=
  ⟨more.take (declared - after.length), List.take_append⟩

theorem front_readBody_of_value {declared : Nat} {body : Reader α}
    {after left : List UInt8} {value : α}
    (found : body (window declared after) = .value value left) :
    (readBody declared body).front after =
      if (window declared after).length - left.length = declared then
        .ok value
      else
        .error (.frameLengthMismatch declared
          ((window declared after).length - left.length)) := by
  simp only [Reader.front, readBody]
  rw [← window, found]
  by_cases exact : (window declared after).length - left.length = declared
  · simp only [if_pos exact]
  · simp only [if_neg exact]

theorem front_readBody_of_fault {declared : Nat} {body : Reader α}
    {after left : List UInt8} {cause : Fault}
    (failed : body (window declared after) = .fault cause left) :
    (readBody declared body).front after = .error cause := by
  simp only [Reader.front, readBody]
  rw [← window, failed]

/-- Running out of the window and running out of the stream are the same fault,
so a body that is read to an end has not been short of either. -/
theorem readBody_settled {declared : Nat} {body : Reader α}
    (steady : body.Steady) : (readBody declared body).Settled := by
  intro after more final
  obtain ⟨extra, longer⟩ := window_append declared after more
  cases outcome : body (window declared after) with
  | value value left =>
      have same := steady.of_value outcome extra
      rw [← longer] at same
      have used : (window declared (after ++ more)).length -
            (left ++ extra).length =
          (window declared after).length - left.length := by
        rw [longer, List.length_append, List.length_append]
        omega
      rw [front_readBody_of_value same, front_readBody_of_value outcome, used]
  | fault cause left =>
      rw [front_readBody_of_fault outcome] at final
      have same := steady.of_fault outcome (fun ended => final (ended ▸ rfl))
        extra
      rw [← longer] at same
      rw [front_readBody_of_fault same, front_readBody_of_fault outcome]

section Framed

variable {readHeader : Reader η} {declared : η → Nat} {body : η → Reader α}
  (headerSteady : readHeader.Steady) (bodySteady : ∀ header, (body header).Steady)

include headerSteady bodySteady

theorem framed_outcome_settled : (framed readHeader declared body).Settled := by
  intro input more final
  unfold framed at *
  cases outcome : readHeader input with
  | value header after =>
      have begun := headerSteady.of_value outcome more
      rw [Reader.front_bind_of_value outcome] at final
      rw [Reader.front_bind_of_value outcome, Reader.front_bind_of_value begun]
      exact readBody_settled (bodySteady header) after more final
  | fault cause left =>
      rw [Reader.front_bind_of_fault outcome] at final
      have begun := headerSteady.of_fault outcome
        (fun ended => final (ended ▸ rfl)) more
      rw [Reader.front_bind_of_fault outcome, Reader.front_bind_of_fault begun]

/-- A frame that is cut behind its header is too short for its body, whatever
size the header declares. -/
theorem framed_cut_behind_header {opening part missing : List UInt8} {header : η}
    {value : α} (opened : readHeader opening = .value header [])
    (filled : body header (part ++ missing) = .value value [])
    (cut : missing ≠ []) :
    (framed readHeader declared body).front (opening ++ part) =
      .error .endOfInput := by
  have begun : readHeader (opening ++ part) = .value header part :=
    headerSteady.of_value opened part
  have whole : body header (window (declared header) part ++
      (beyond (declared header) part ++ missing)) = .value value [] := by
    rw [← List.append_assoc, window, beyond, List.take_append_drop]
    exact filled
  obtain ⟨left, failed⟩ := Reader.front_eq_error_iff.mp
    ((bodySteady header).cut whole (List.append_ne_nil_of_right_ne_nil _ cut))
  unfold framed
  rw [Reader.front_bind_of_value begun]
  exact front_readBody_of_fault failed

/-- A frame is cut either inside its header or behind it. -/
theorem framed_cut {opening content given missing : List UInt8} {header : η}
    {value : α} (opened : readHeader opening = .value header [])
    (filled : body header content = .value value [])
    (parted : given ++ missing = opening ++ content) (cut : missing ≠ []) :
    (framed readHeader declared body).front given = .error .endOfInput := by
  by_cases inside : given.length < opening.length
  · obtain ⟨rest, rfl, _⟩ | ⟨part, rfl, _⟩ :=
      List.append_eq_append_iff.mp parted
    · have restPresent : rest ≠ [] := by
        intro absent
        simp [absent] at inside
      obtain ⟨left, failed⟩ := Reader.front_eq_error_iff.mp
        (headerSteady.cut opened restPresent)
      exact Reader.front_bind_of_fault failed
    · rw [List.length_append] at inside
      omega
  · have covered : opening <+: given :=
      List.prefix_of_prefix_length_le ⟨content, parted.symm⟩ ⟨missing, rfl⟩
        (Nat.le_of_not_lt inside)
    obtain ⟨part, rfl⟩ := covered
    rw [List.append_assoc] at parted
    rw [← List.append_cancel_left parted] at filled
    exact framed_cut_behind_header headerSteady bodySteady opened filled cut

end Framed

/-- The word for the size keeps what eight bytes can carry of it. -/
theorem readPackageHeader_of_encode {header : PackageHeader}
    {opening : List UInt8} (opened : header.encode = .ok opening) :
    readPackageHeader opening =
      .value { header with bodySize := header.bodySize % 2 ^ 64 } [] := by
  have sameWord : littleEndian 8 (header.bodySize % 2 ^ 64) =
      littleEndian 8 header.bodySize :=
    ((eq_littleEndian_iff (Nat.mod_lt _ (by decide))).mpr
      ⟨length_littleEndian .., fromLittleEndian_littleEndian ..⟩).symm
  have sameOpening :
      PackageHeader.encode { header with bodySize := header.bodySize % 2 ^ 64 } =
        .ok opening := by
    rw [PackageHeader.encode_eq_ok_iff] at opened ⊢
    rw [sameWord]
    exact opened
  exact (readPackageHeader_inverts _ _ _).mpr
    ⟨Nat.mod_lt _ (by decide), opening, sameOpening, by simp⟩

end Frame

/-- What was written for a value is too short for it once it is cut. -/
theorem Reader.Inverts.cut {α : Type} {item : Reader α} {valid : α → Prop}
    {encode : α → Except Fault (List UInt8)} (inverts : item.Inverts valid encode)
    (plain : item.Plain) {value : α} (known : valid value)
    {given missing : List UInt8} (written : encode value = .ok (given ++ missing))
    (cut : missing ≠ []) : item.front given = .error .endOfInput :=
  plain.steady.cut
    ((inverts _ _ _).mpr ⟨known, _, written, (List.append_nil _).symm⟩) cut

end Wire

namespace Package

theorem readFrame_settled : readFrame.Settled :=
  Frame.framed_outcome_settled Frame.readPackageHeader_plain.steady
    fun header => (decode_plain header.capacity header.added).steady

theorem readFrame_cut {package : Package} {given missing : List UInt8}
    (framed : package.frame = .ok (given ++ missing)) (cut : missing ≠ []) :
    readFrame.front given = .error .endOfInput := by
  obtain ⟨opening, opened, body, written, parted⟩ := frame_eq_ok_iff.mp framed
  exact Frame.framed_cut Frame.readPackageHeader_plain.steady
    (fun header => (decode_plain header.capacity header.added).steady)
    (Frame.readPackageHeader_of_encode opened) (decode_of_encode written) parted.symm cut

end Package

namespace JobResult

theorem readFrame_settled : readFrame.Settled :=
  Frame.framed_outcome_settled Frame.readResultHeader_plain.steady
    fun _ => decode_plain.steady

theorem readFrame_cut {result : JobResult} {given missing : List UInt8}
    (framed : result.frame = .ok (given ++ missing)) (cut : missing ≠ []) :
    readFrame.front given = .error .endOfInput := by
  obtain ⟨body, written, parted⟩ := frame_eq_ok_iff.mp framed
  have opened : Frame.readResultHeader
      (Frame.resultHeader result.encodedSize) =
        .value result.encodedSize [] :=
    (Frame.readResultHeader_inverts _ _ _).mpr
      ⟨encodedSize_lt written, _, rfl, by simp⟩
  have filled : decode body = .value result [] :=
    (decode_inverts _ _ _).mpr ⟨trivial, body, written, by simp⟩
  exact Frame.framed_cut Frame.readResultHeader_plain.steady
    (fun _ => decode_plain.steady) opened filled parted.symm cut

end JobResult

namespace Wire

theorem Shape.read_settled (shape : Shape) : shape.read.Settled := by
  cases shape with
  | argument => exact Argument.decode_plain.steady.settled.wrap _
  | job => exact Job.decode_plain.steady.settled.wrap _
  | result => exact JobResult.decode_plain.steady.settled.wrap _
  | profile => exact Profile.decode_plain.steady.settled.wrap _
  | packageFrame => exact Package.readFrame_settled.wrap _
  | resultFrame => exact JobResult.readFrame_settled.wrap _

theorem Message.read_cut {message : Message} {given missing : List UInt8}
    (written : message.encode = .ok (given ++ missing)) (cut : missing ≠ []) :
    message.shape.read.front given = .error .endOfInput := by
  cases message with
  | argument value =>
      have ended := Argument.decode_inverts.cut Argument.decode_plain trivial
        written cut
      exact (Reader.front_wrap _ _ _).trans (congrArg _ ended)
  | job value =>
      have pendingWritten : value.pending.encode = .ok (given ++ missing) :=
        value.encode_pending.trans written
      have ended := Job.decode_inverts.cut Job.decode_plain rfl pendingWritten
        cut
      exact (Reader.front_wrap _ _ _).trans (congrArg _ ended)
  | result value =>
      have ended := JobResult.decode_inverts.cut JobResult.decode_plain trivial
        written cut
      exact (Reader.front_wrap _ _ _).trans (congrArg _ ended)
  | profile value =>
      have ended := Profile.decode_inverts.cut Profile.decode_plain trivial
        written cut
      exact (Reader.front_wrap _ _ _).trans (congrArg _ ended)
  | packageFrame value =>
      have ended := Package.readFrame_cut written cut
      exact (Reader.front_wrap _ _ _).trans (congrArg _ ended)
  | resultFrame value =>
      have ended := JobResult.readFrame_cut written cut
      exact (Reader.front_wrap _ _ _).trans (congrArg _ ended)

/-- The beginning of a message is too short for it and is refused for no other
reason; every other outcome, be it a message or a fault, stands whatever bytes
come later. -/
theorem outcome_is_final_unless_input_ended :
    (∀ (message : Message) bytes, message.encode = .ok bytes →
      ∀ given, given <+: bytes → given ≠ bytes →
        message.shape.read.front given = .error .endOfInput) ∧
    (∀ (shape : Shape) input more,
      shape.read.front input ≠ .error .endOfInput →
        shape.read.front (input ++ more) = shape.read.front input) := by
  constructor
  · intro message bytes written given begins strict
    obtain ⟨missing, rfl⟩ := begins
    refine Message.read_cut written ?_
    intro nothing
    rw [nothing, List.append_nil] at strict
    exact strict rfl
  · intro shape
    exact shape.read_settled

/-- A cut inside a letter of two bytes, and a foreign opening with anything
behind it. -/
theorem example_frame_is_cut_inside_a_letter :
    exampleFrame.shape.read.front (exampleBytes.take 26) =
        .error .endOfInput ∧
      ∀ more, Shape.packageFrame.read.front (Frame.resultMagic ++ more) =
        .error .badMagic := by
  have foreign : Shape.packageFrame.read.front Frame.resultMagic =
      .error .badMagic := rfl
  exact
    ⟨outcome_is_final_unless_input_ended.1 exampleFrame exampleBytes rfl _
        (List.take_prefix 26 exampleBytes) (by decide),
      fun more => (outcome_is_final_unless_input_ended.2 .packageFrame
        Frame.resultMagic more (by simp [foreign])).trans foreign⟩

end Wire

end WorkPackage
