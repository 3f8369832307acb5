import WorkPackage.Proofs.Wire.Frame

/-!
# Confinement of frames

What a reader of frames makes of a stream is settled by the header and by the
bytes of the declared size behind it.  The body decoder sees a window of that
size, cut short where the stream ends.  Using up a full window is the only way
to be accepted; leaving some of it is reported and skipped; a fault inside is
handed on.  No byte behind the window is consumed or looked at.
-/

namespace WorkPackage

open Wire

namespace Wire

theorem Reading.rest_followedBy {α : Type} (reading : Reading α)
    (more : List UInt8) :
    (reading.followedBy more).rest = reading.rest ++ more := by
  cases reading <;> rfl

namespace Frame

variable {η α : Type}

/-- The part of a stream behind a header that the body decoder may see. -/
def window (declared : Nat) (after : List UInt8) : List UInt8 :=
  after.take declared

/-- What is behind the window. -/
def beyond (declared : Nat) (after : List UInt8) : List UInt8 :=
  after.drop declared

/-- A reader of frames keeps to the window that the header declares. -/
structure Confined (headerSize : Nat) (readHeader : Reader η)
    (declared : η → Nat) (body : η → Reader α) (size : α → Nat)
    (readFrame : Reader α) : Prop where
  /-- A header has a fixed width. -/
  header_width : ∀ {input header after},
    readHeader input = .value header after →
      ∃ opening, opening.length = headerSize ∧ input = opening ++ after
  /-- A value comes from a body that uses just as many bytes as declared. -/
  exact : ∀ {input header after},
    readHeader input = .value header after → ∀ value rest,
      readFrame input = .value value rest ↔
        ∃ left,
          body header (window (declared header) after) = .value value left ∧
          (window (declared header) after).length - left.length =
            declared header ∧
          rest = beyond (declared header) after
  /-- Behind a value the stream goes on where the declared size ends. -/
  position : ∀ {input header after value rest},
    readHeader input = .value header after →
      readFrame input = .value value rest →
        input.length = headerSize + declared header + rest.length
  /-- A body that uses less is refused, and what it leaves is skipped. -/
  short : ∀ {input header after value left},
    readHeader input = .value header after →
      body header (window (declared header) after) = .value value left →
      (window (declared header) after).length - left.length <
        declared header →
      readFrame input =
        .fault (.frameLengthMismatch (declared header)
          ((window (declared header) after).length - left.length))
          (beyond (declared header) after)
  /-- A fault of the body is handed on, somewhere inside the window. -/
  refused : ∀ {input header after cause left},
    readHeader input = .value header after →
      body header (window (declared header) after) = .fault cause left →
      left <:+ window (declared header) after ∧
        readFrame input = .fault cause (left ++ beyond (declared header) after)
  /-- Nothing behind the window is consumed. -/
  untouched : ∀ {input header after},
    readHeader input = .value header after →
      beyond (declared header) after <:+ (readFrame input).rest
  /-- Streams that agree up to the end of the window are read alike. -/
  settled : ∀ {first second header after},
    readHeader first = .value header after →
      first.take (headerSize + declared header) =
        second.take (headerSize + declared header) →
      readFrame.front first = readFrame.front second ∧
        first.length - (readFrame first).rest.length =
          second.length - (readFrame second).rest.length
  /-- Only the size of the body itself can be declared. -/
  binding : ∀ {input header after value rest},
    readHeader input = .value header after →
      readFrame input = .value value rest → size value = declared header

theorem readBody_eq_followedBy (declared : Nat) (body : Reader α)
    (after : List UInt8) :
    readBody declared body after =
      (readBody declared body (window declared after)).followedBy
        (beyond declared after) := by
  have whole : (window declared after).take declared = window declared after :=
    List.take_of_length_le (List.length_take_le declared after)
  have nothing : (window declared after).drop declared = [] :=
    List.drop_eq_nil_of_le (List.length_take_le declared after)
  simp only [readBody, whole, nothing]
  rw [← window, ← beyond]
  cases body (window declared after) with
  | value result left =>
      dsimp only
      split <;> simp [Reading.followedBy]
  | fault cause left => simp [Reading.followedBy]

section Framed

variable {readHeader : Reader η} {declared : η → Nat} {body : η → Reader α}

theorem framed_eq {input after : List UInt8} {header : η}
    (headerRead : readHeader input = .value header after) :
    framed readHeader declared body input =
      readBody (declared header) (body header) after := by
  rw [framed, Reader.bind_apply, headerRead]

theorem framed_exact {input after rest : List UInt8} {header : η} {value : α}
    (headerRead : readHeader input = .value header after) :
    framed readHeader declared body input = .value value rest ↔
      ∃ left,
        body header (window (declared header) after) = .value value left ∧
        (window (declared header) after).length - left.length =
          declared header ∧
        rest = beyond (declared header) after := by
  rw [framed_eq headerRead]
  exact readBody_eq_value_iff

theorem framed_short {input after left : List UInt8} {header : η} {value : α}
    (headerRead : readHeader input = .value header after)
    (found : body header (window (declared header) after) =
      .value value left)
    (less : (window (declared header) after).length - left.length <
      declared header) :
    framed readHeader declared body input =
      .fault (.frameLengthMismatch (declared header)
        ((window (declared header) after).length - left.length))
        (beyond (declared header) after) := by
  rw [framed_eq headerRead]
  simp only [readBody]
  rw [← window, ← beyond, found]
  exact if_neg (Nat.ne_of_lt less)

theorem framed_refused {input after left : List UInt8} {header : η}
    {cause : Fault} (headerRead : readHeader input = .value header after)
    (found : body header (window (declared header) after) =
      .fault cause left) :
    framed readHeader declared body input =
      .fault cause (left ++ beyond (declared header) after) := by
  rw [framed_eq headerRead]
  simp only [readBody]
  rw [← window, ← beyond, found]

/-- What is consumed behind a header depends on the window alone. -/
theorem framed_consumed {headerSize : Nat} {input after : List UInt8}
    {header : η}
    (headerRead : readHeader input = .value header after)
    (long : input.length = headerSize + after.length) :
    input.length - (framed readHeader declared body input).rest.length =
      headerSize + (window (declared header) after).length -
        (readBody (declared header) (body header)
          (window (declared header) after)).rest.length := by
  have parted : after.length =
      (window (declared header) after).length +
        (beyond (declared header) after).length := by
    conv => lhs; rw [← List.take_append_drop (declared header) after]
    exact List.length_append
  rw [framed_eq headerRead, readBody_eq_followedBy, Reading.rest_followedBy,
    List.length_append]
  omega

section Header

variable {headerSize : Nat} {valid : η → Prop}
  {encode : η → Except Fault (List UInt8)}
  (inverts : readHeader.Inverts valid encode)
  (width : ∀ header bytes, encode header = .ok bytes →
    bytes.length = headerSize)

include inverts width

theorem header_length
    {input after : List UInt8} {header : η}
    (headerRead : readHeader input = .value header after) :
    input.length = headerSize + after.length := by
  obtain ⟨_, opening, opened, rfl⟩ := (inverts _ _ _).mp headerRead
  rw [List.length_append, width header opening opened]

/-- Streams that agree up to the end of a window show the same header and the
same window. -/
theorem window_settled
    {first second after : List UInt8} {header : η}
    (headerRead : readHeader first = .value header after)
    (agree : first.take (headerSize + declared header) =
      second.take (headerSize + declared header)) :
    ∃ after', readHeader second = .value header after' ∧
      window (declared header) after' = window (declared header) after ∧
      second.length = headerSize + after'.length := by
  obtain ⟨known, opening, opened, rfl⟩ := (inverts _ _ _).mp headerRead
  obtain rfl := width header opening opened
  rw [List.take_length_add_append] at agree
  have sameOpening : second.take opening.length = opening := by
    have shorter := congrArg (List.take opening.length) agree.symm
    rwa [List.take_take, Nat.min_eq_left (Nat.le_add_right _ _),
      List.take_left] at shorter
  have sameWindow : (second.drop opening.length).take (declared header) =
      after.take (declared header) := by
    have later := congrArg (List.drop opening.length) agree.symm
    rwa [List.drop_take, Nat.add_sub_cancel_left, List.drop_left] at later
  have restored : second = opening ++ second.drop opening.length := by
    conv => lhs; rw [← List.take_append_drop opening.length second]
    rw [sameOpening]
  refine ⟨second.drop opening.length, ?_, sameWindow, ?_⟩
  · exact (inverts _ _ _).mpr ⟨known, opening, opened, restored⟩
  · conv => lhs; rw [restored]
    exact List.length_append

theorem framed_position
    {input after rest : List UInt8} {header : η} {value : α}
    (headerRead : readHeader input = .value header after)
    (success : framed readHeader declared body input = .value value rest) :
    input.length = headerSize + declared header + rest.length := by
  obtain ⟨left, found, exact, rfl⟩ := (framed_exact headerRead).mp success
  rw [header_length inverts width headerRead]
  simp only [window, beyond, List.length_take, List.length_drop] at exact ⊢
  omega

theorem framed_settled
    {first second after : List UInt8} {header : η}
    (headerRead : readHeader first = .value header after)
    (agree : first.take (headerSize + declared header) =
      second.take (headerSize + declared header)) :
    (framed readHeader declared body).front first =
        (framed readHeader declared body).front second ∧
      first.length - (framed readHeader declared body first).rest.length =
        second.length -
          (framed readHeader declared body second).rest.length := by
  obtain ⟨after', headerRead', sameWindow, long'⟩ :=
    window_settled inverts width headerRead agree
  have long : first.length = headerSize + after.length :=
    header_length inverts width headerRead
  -- Both readings are the same reading of the same window, followed by
  -- whatever each stream has behind it.
  constructor
  · unfold Reader.front
    rw [framed_eq headerRead, framed_eq headerRead',
      readBody_eq_followedBy _ _ after, readBody_eq_followedBy _ _ after',
      sameWindow]
    cases readBody (declared header) (body header)
        (window (declared header) after) <;> rfl
  · rw [framed_consumed headerRead long, framed_consumed headerRead' long',
      sameWindow]

theorem framed_confined {size : α → Nat}
    (forward : ∀ header, (body header).Forward)
    (sized : ∀ header input value left,
      body header input = .value value left →
        ∃ bytes, bytes.length = size value ∧ input = bytes ++ left) :
    Confined headerSize readHeader declared body size
      (framed readHeader declared body) where
  header_width := by
    intro input header after headerRead
    obtain ⟨_, opening, opened, rfl⟩ := (inverts _ _ _).mp headerRead
    exact ⟨opening, width header opening opened, rfl⟩
  exact := fun headerRead _ _ => framed_exact headerRead
  position := framed_position inverts width
  short := framed_short
  refused := by
    intro input header after cause left headerRead found
    have moved := forward header (window (declared header) after)
    rw [found] at moved
    exact ⟨moved, framed_refused headerRead found⟩
  untouched := by
    intro input header after headerRead
    rw [framed_eq headerRead, readBody_eq_followedBy,
      Reading.rest_followedBy]
    exact List.suffix_append _ _
  settled := framed_settled inverts width
  binding := by
    intro input header after value rest headerRead success
    obtain ⟨left, found, exact, _⟩ := (framed_exact headerRead).mp success
    obtain ⟨bytes, same, spelled⟩ := sized _ _ _ _ found
    rw [spelled, List.length_append] at exact
    omega

end Header

end Framed

end Frame

end Wire

namespace Package

theorem readFrame_confined :
    Frame.Confined Frame.packageHeaderSize Frame.readPackageHeader
      Frame.PackageHeader.bodySize
      (fun header => decode header.capacity header.added) encodedSize
      readFrame :=
  Frame.framed_confined Frame.readPackageHeader_inverts
    (fun header _ written => header.encode_measured.length_eq written)
    (fun _ => (decode_plain _ _).forward)
    (fun header _ _ _ =>
      (decode_inverts header.capacity header.added).sized encode_measured)

end Package

namespace JobResult

theorem readFrame_confined :
    Frame.Confined Frame.resultHeaderSize Frame.readResultHeader id
      (fun _ => decode) encodedSize readFrame := by
  refine Frame.framed_confined Frame.readResultHeader_inverts ?_
    (fun _ => decode_plain.forward)
    (fun _ _ _ _ => decode_inverts.sized encode_measured)
  intro bodySize bytes written
  cases written
  exact Frame.length_resultHeader bodySize

end JobResult

/-- Both readers of frames keep to the window that the header declares. -/
theorem frames_keep_to_their_window :
    Frame.Confined Frame.packageHeaderSize Frame.readPackageHeader
        Frame.PackageHeader.bodySize
        (fun header => Package.decode header.capacity header.added)
        Package.encodedSize Package.readFrame ∧
      Frame.Confined Frame.resultHeaderSize Frame.readResultHeader id
        (fun _ => JobResult.decode) JobResult.encodedSize
        JobResult.readFrame :=
  ⟨Package.readFrame_confined, JobResult.readFrame_confined⟩

end WorkPackage
