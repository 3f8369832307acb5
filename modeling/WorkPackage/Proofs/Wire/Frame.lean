import WorkPackage.Proofs.Wire.Limit

/-!
# Laws of frames

A header has one spelling, like every structure.  A body is read under the size
that its header declares: it is accepted when it uses up just that many bytes,
and whatever happens the stream goes on no further than behind them.
-/

namespace WorkPackage

open Wire

namespace Wire.Frame

variable {α : Type} {input rest : List UInt8}

theorem readOpening_eq_value_iff {magic : List UInt8} {answer : Unit} :
    readOpening magic input = .value answer rest ↔
      input = magic ++ [version] ++ rest := by
  simp only [readOpening, Reader.bind_eq_value_iff, Reader.take_eq_value_iff,
    Reader.refuse_eq_value_iff, Reader.pure_eq_value_iff,
    Field.byte_eq_value_iff, Decidable.not_not]
  constructor
  · intro success
    obtain ⟨opening, _, ⟨_, rfl⟩, rfl, found, _, rfl, rfl, _, rfl⟩ := success
    simp [Field.ofByte]
  · intro spelled
    exact ⟨magic, version :: rest, ⟨rfl, by simp [spelled]⟩, rfl, version, rest,
      rfl, rfl, trivial, rfl⟩

theorem readOpening_plain (magic : List UInt8) :
    (readOpening magic).Plain :=
  (Reader.Plain.take _).bind fun _ =>
    .refuse _ (Field.byte_plain.bind fun _ => .refuse _ (.pure _))

/-- A size is written as a word when eight bytes can carry it. -/
theorem ofUInt64_ofNat {size : Nat} (fits : size < 2 ^ 64) :
    Field.ofUInt64 (UInt64.ofNat size) = littleEndian 8 size := by
  rw [Field.ofUInt64, UInt64.toNat_ofNat', Nat.mod_eq_of_lt fits]

theorem readResultHeader_inverts :
    readResultHeader.Inverts (· < 2 ^ 64)
      (fun bodySize => .ok (resultHeader bodySize)) := by
  intro input bodySize rest
  simp only [readResultHeader, Reader.bind_eq_value_iff,
    readOpening_eq_value_iff, Field.uint64_eq_value_iff,
    Reader.pure_eq_value_iff]
  constructor
  · intro success
    obtain ⟨_, _, rfl, word, _, rfl, rfl, rfl⟩ := success
    exact ⟨word.toNat_lt, _, rfl, by simp [resultHeader, Field.ofUInt64]⟩
  · intro written
    obtain ⟨fits, bytes, success, rfl⟩ := written
    cases success
    refine ⟨(), littleEndian 8 bodySize ++ rest, by simp [resultHeader],
      UInt64.ofNat bodySize, rest, by rw [ofUInt64_ofNat fits], ?_, rfl⟩
    rw [UInt64.toNat_ofNat', Nat.mod_eq_of_lt fits]

theorem readResultHeader_plain : readResultHeader.Plain :=
  (readOpening_plain _).bind fun _ =>
    Field.uint64_plain.bind fun _ => .pure _

theorem PackageHeader.encode_eq_ok_iff {header : PackageHeader}
    {bytes : List UInt8} :
    header.encode = .ok bytes ↔
      ∃ capacity, Field.ofLength header.capacity = .ok capacity ∧
      ∃ added, Field.ofLength header.added = .ok added ∧
        packageMagic ++ [version] ++ capacity ++ added ++
          littleEndian 8 header.bodySize = bytes := by
  simp only [encode, bind_eq_ok_iff, pure_eq_ok_iff]

theorem readPackageHeader_inverts :
    readPackageHeader.Inverts (fun header => header.bodySize < 2 ^ 64)
      PackageHeader.encode := by
  intro input header rest
  simp only [readPackageHeader, Reader.bind_eq_value_iff,
    readOpening_eq_value_iff, Field.length_eq_value_iff,
    Field.uint64_eq_value_iff, Reader.pure_eq_value_iff,
    PackageHeader.encode_eq_ok_iff]
  constructor
  · intro success
    obtain ⟨_, _, rfl, _, _, ⟨capacity, counted, rfl⟩,
      _, _, ⟨added, filled, rfl⟩, word, _, rfl, rfl, rfl⟩ := success
    exact ⟨word.toNat_lt, _, ⟨capacity, counted, added, filled, rfl⟩,
      by simp [Field.ofUInt64]⟩
  · intro written
    obtain ⟨fits, bytes, ⟨capacity, counted, added, filled, rfl⟩, rfl⟩ :=
      written
    refine ⟨(), _, by simp only [List.append_assoc],
      header.capacity, _, ⟨capacity, counted, rfl⟩,
      header.added, littleEndian 8 header.bodySize ++ rest,
      ⟨added, filled, rfl⟩, UInt64.ofNat header.bodySize, rest,
      by rw [ofUInt64_ofNat fits], ?_, rfl⟩
    rw [UInt64.toNat_ofNat', Nat.mod_eq_of_lt fits]

theorem readPackageHeader_plain : readPackageHeader.Plain :=
  (readOpening_plain _).bind fun _ =>
    Field.length_plain.bind fun _ =>
      Field.length_plain.bind fun _ =>
        Field.uint64_plain.bind fun _ => .pure _

theorem readBody_eq_value_iff {declared : Nat} {body : Reader α} {result : α} :
    readBody declared body input = .value result rest ↔
      ∃ left, body (input.take declared) = .value result left ∧
        (input.take declared).length - left.length = declared ∧
          rest = input.drop declared := by
  simp only [readBody]
  cases body (input.take declared) with
  | fault cause left => simp
  | value found left =>
      by_cases exact : (input.take declared).length - left.length = declared
      · simp only [if_pos exact]
        constructor
        · intro success
          cases success
          exact ⟨left, rfl, exact, rfl⟩
        · intro success
          obtain ⟨left', same, _, rfl⟩ := success
          cases same
          rfl
      · simp only [if_neg exact]
        constructor
        · intro success
          contradiction
        · intro success
          obtain ⟨left', same, exact', _⟩ := success
          cases same
          exact absurd exact' exact

/-- A reader that goes forward uses as many bytes as declared only when there
are as many, and when it leaves none of them. -/
theorem window_used_up {declared : Nat} {window left : List UInt8}
    (within : window.length ≤ declared) (suffix : left <:+ window)
    (exact : window.length - left.length = declared) :
    left = [] ∧ window.length = declared := by
  have shorter := suffix.length_le
  have nothing : left.length = 0 := by omega
  exact ⟨List.eq_nil_of_length_eq_zero nothing, by omega⟩

theorem readBody_inverts {declared : Nat} {body : Reader α} {valid : α → Prop}
    {encode : α → Except Fault (List UInt8)} (forward : body.Forward)
    (inverts : body.Inverts valid encode) :
    (readBody declared body).Inverts
      (fun value => valid value ∧
        ∀ bytes, encode value = .ok bytes → bytes.length = declared)
      encode := by
  intro input value rest
  rw [readBody_eq_value_iff]
  constructor
  · intro success
    obtain ⟨left, found, exact, rfl⟩ := success
    have suffix : left <:+ input.take declared := by
      have moved := forward (input.take declared)
      rwa [found] at moved
    obtain ⟨rfl, filled⟩ :=
      window_used_up (List.length_take_le declared input) suffix exact
    obtain ⟨known, bytes, written, window⟩ := (inverts _ _ _).mp found
    rw [List.append_nil] at window
    refine ⟨⟨known, fun bytes' written' => ?_⟩, bytes, written, ?_⟩
    · rw [written] at written'
      cases written'
      rw [← window, filled]
    · rw [← window, List.take_append_drop]
  · intro success
    obtain ⟨⟨known, sized⟩, bytes, written, rfl⟩ := success
    obtain rfl := sized bytes written
    rw [List.take_left, List.drop_left]
    exact ⟨[], (inverts _ _ _).mpr ⟨known, bytes, written, by simp⟩,
      by simp, rfl⟩

/-- A frame is a header and the body that the header calls for. -/
def framed {η : Type} (readHeader : Reader η) (declared : η → Nat)
    (body : η → Reader α) : Reader α := do
  let header ← readHeader
  readBody (declared header) (body header)

/-- Frames are inverted when headers and bodies are, and a body goes with no
header but the one that is written for it. -/
theorem framed_inverts {η : Type} {readHeader : Reader η} {declared : η → Nat}
    {body : η → Reader α} {headerValid : η → Prop} {valid : η → α → Prop}
    {kept : α → Prop} {headerOf : α → η}
    {encodeHeader : η → Except Fault (List UInt8)}
    {encode encodeFrame : α → Except Fault (List UInt8)}
    (headers : readHeader.Inverts headerValid encodeHeader)
    (forward : ∀ header, (body header).Forward)
    (bodies : ∀ header, (body header).Inverts (valid header) encode)
    (belongs : ∀ header value bytes, encode value = .ok bytes →
      (valid header value ∧ bytes.length = declared header ↔
        header = headerOf value ∧ kept value))
    (spelled : ∀ value bytes, encodeFrame value = .ok bytes ↔
      ∃ opening, encodeHeader (headerOf value) = .ok opening ∧
      ∃ content, encode value = .ok content ∧ opening ++ content = bytes) :
    (framed readHeader declared body).Inverts
      (fun value => headerValid (headerOf value) ∧ kept value) encodeFrame := by
  intro input value rest
  rw [framed, Reader.bind_eq_value_iff]
  constructor
  · intro success
    obtain ⟨header, left, headerRead, bodyRead⟩ := success
    obtain ⟨known, opening, opened, rfl⟩ := (headers _ _ _).mp headerRead
    obtain ⟨⟨valued, sized⟩, content, written, rfl⟩ :=
      (readBody_inverts (forward header) (bodies header) _ _ _).mp bodyRead
    obtain ⟨rfl, keeping⟩ :=
      (belongs header value content written).mp ⟨valued, sized content written⟩
    have whole : encodeFrame value = .ok (opening ++ content) :=
      (spelled _ _).mpr ⟨opening, opened, content, written, rfl⟩
    exact ⟨⟨known, keeping⟩, _, whole, by simp⟩
  · intro success
    obtain ⟨⟨known, keeping⟩, bytes, whole, rfl⟩ := success
    obtain ⟨opening, opened, content, written, rfl⟩ := (spelled _ _).mp whole
    obtain ⟨valued, sized⟩ :=
      (belongs _ value content written).mpr ⟨rfl, keeping⟩
    refine ⟨headerOf value, content ++ rest,
      (headers _ _ _).mpr ⟨known, opening, opened, by simp⟩, ?_⟩
    refine (readBody_inverts (forward _) (bodies _) _ _ _).mpr
      ⟨⟨valued, fun other same => ?_⟩, content, written, rfl⟩
    rw [written] at same
    cases same
    exact sized

end Wire.Frame

namespace Package

/-- The package as it was before anybody completed one of its jobs. -/
def pending (package : Package) : Package :=
  { package with
    filled := package.filled.map Job.pending
    free := package.free.map Job.pending }

theorem encode_eq_ok_iff {package : Package} {bytes : List UInt8} :
    package.encode = .ok bytes ↔
      ∃ profile, package.profile.encode = .ok profile ∧
      ∃ jobs, encodeEach Job.encode package.jobs = .ok jobs ∧
        profile ++ jobs = bytes := by
  simp only [encode, bind_eq_ok_iff, pure_eq_ok_iff]

theorem decode_inverts (capacity added : Nat) :
    (decode capacity added).Inverts
      (fun package => (package.capacity = capacity ∧ package.added = added) ∧
        ∀ job ∈ package.jobs, job.completed = false)
      encode := by
  intro input package rest
  have profile_iff := Profile.decode_inverts
  have jobs_iff := Job.decode_inverts.repeated capacity
  simp only [decode, Reader.refuse_eq_value_iff, Reader.bind_eq_value_iff,
    profile_iff _ _ _, jobs_iff _ _ _, Reader.pure_eq_value_iff,
    encode_eq_ok_iff, true_and, Nat.not_lt]
  constructor
  · intro success
    obtain ⟨enough, profile, _, ⟨text, named, rfl⟩, jobs, _,
      ⟨⟨rfl, allPending⟩, listed, written, rfl⟩, rfl, rfl⟩ := success
    -- The slots are written as one row; the header says where it is cut.
    have whole : jobs.take added ++ jobs.drop added = jobs :=
      List.take_append_drop added jobs
    refine ⟨⟨⟨?_, ?_⟩, ?_⟩, _, ⟨text, named, listed, ?_, rfl⟩, by simp⟩
    · simp only [Package.capacity, List.length_take, List.length_drop]
      omega
    · simp only [Package.added, List.length_take]
      omega
    · simpa only [Package.jobs, whole] using allPending
    · simpa only [Package.jobs, whole] using written
  · intro success
    obtain ⟨⟨⟨rfl, rfl⟩, allPending⟩, bytes,
      ⟨text, named, listed, written, rfl⟩, rfl⟩ := success
    refine ⟨Nat.le_add_right _ _, package.profile, listed ++ rest,
      ⟨text, named, by simp⟩, package.jobs, rest,
      ⟨⟨List.length_append, allPending⟩, listed, written, rfl⟩, ?_, rfl⟩
    simp [Package.jobs, Package.added]

theorem decode_plain (capacity added : Nat) :
    (decode capacity added).Plain :=
  .refuse _ (Profile.decode_plain.bind fun _ =>
    (Job.decode_plain.repeated capacity).bind fun _ => .pure _)

theorem frame_eq_ok_iff {package : Package} {bytes : List UInt8} :
    package.frame = .ok bytes ↔
      ∃ opening, package.header.encode = .ok opening ∧
      ∃ body, package.encode = .ok body ∧ opening ++ body = bytes := by
  simp only [frame, bind_eq_ok_iff, pure_eq_ok_iff]

theorem readFrame_inverts :
    readFrame.Inverts
      (fun package => package.encodedSize < 2 ^ 64 ∧
        ∀ job ∈ package.jobs, job.completed = false)
      frame := by
  refine Frame.framed_inverts Frame.readPackageHeader_inverts
    (fun _ => (decode_plain _ _).forward) (fun _ => decode_inverts _ _) ?_
    fun _ _ => frame_eq_ok_iff
  intro header package bytes written
  have size := package.encode_measured.length_eq written
  obtain ⟨capacity, added, bodySize⟩ := header
  rw [size, Package.header, Frame.PackageHeader.mk.injEq]
  constructor
  · intro found
    obtain ⟨⟨⟨rfl, rfl⟩, allPending⟩, rfl⟩ := found
    exact ⟨⟨rfl, rfl, rfl⟩, allPending⟩
  · intro found
    obtain ⟨⟨rfl, rfl, rfl⟩, allPending⟩ := found
    exact ⟨⟨⟨rfl, rfl⟩, allPending⟩, rfl⟩

end Package

namespace JobResult

theorem frame_eq_ok_iff {result : JobResult} {bytes : List UInt8} :
    result.frame = .ok bytes ↔
      ∃ body, result.encode = .ok body ∧
        Frame.resultHeader result.encodedSize ++ body = bytes := by
  simp only [frame, bind_eq_ok_iff, pure_eq_ok_iff]

/-- A result that can be written is never too large for the size field. -/
theorem encodedSize_lt {result : JobResult} {bytes : List UInt8}
    (success : result.encode = .ok bytes) : result.encodedSize < 2 ^ 64 := by
  obtain ⟨count, counted, _⟩ := encode_eq_ok_iff.mp success
  have within := (Field.ofLength_eq_ok_iff.mp counted).1
  unfold maxFieldLength at within
  simp only [encodedSize, lengthWidth]
  omega

theorem readFrame_inverts : readFrame.Inverts (fun _ => True) frame := by
  have inverts : readFrame.Inverts
      (fun result => result.encodedSize < 2 ^ 64 ∧ True) frame := by
    refine Frame.framed_inverts Frame.readResultHeader_inverts
      (fun _ => decode_plain.forward) (fun _ => decode_inverts) ?_ ?_
    · intro bodySize result bytes written
      rw [result.encode_measured.length_eq written]
      simp [eq_comm]
    · intro result bytes
      simp only [Except.ok.injEq, exists_eq_left', frame_eq_ok_iff]
  intro input result rest
  rw [inverts]
  constructor
  · intro success
    exact ⟨trivial, success.2⟩
  · intro success
    obtain ⟨_, bytes, framed, spelled⟩ := success
    obtain ⟨body, written, _⟩ := frame_eq_ok_iff.mp framed
    exact ⟨⟨encodedSize_lt written, trivial⟩, bytes, framed, spelled⟩

end JobResult

end WorkPackage
