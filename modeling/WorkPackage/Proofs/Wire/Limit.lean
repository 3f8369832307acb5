import WorkPackage.Proofs.Wire.Structure
import WorkPackage.Wire.Frame

/-!
# Limits and sizes of writing

`lengths` lists the lengths and counts that a structure writes, in the order in
which it writes them.  Writing fails exactly when one of them is beyond the
limit, and the first such length is the one that is named; otherwise it yields
as many bytes as `encodedSize` announces.  `Measured` states this for one
outcome, and is kept when writers are put one behind the other.
-/

namespace WorkPackage

namespace Wire

/-- The first length that no length field may carry, if there is one. -/
def firstBeyond? (lengths : List Nat) : Option Nat :=
  lengths.find? fun length => maxFieldLength < length

/-- The outcome of writing something that writes these lengths and announces
this size. -/
def Measured (outcome : Except Fault (List UInt8)) (lengths : List Nat)
    (size : Nat) : Prop :=
  match firstBeyond? lengths with
  | none => ∃ bytes, outcome = .ok bytes ∧ bytes.length = size
  | some length => outcome = .error (.refused (.tooLong length))

/-- Writing succeeds exactly within the limit, yields as much as announced, and
otherwise names the first length that is beyond the limit. -/
structure Bound (outcome : Except Fault (List UInt8)) (lengths : List Nat)
    (size : Nat) : Prop where
  succeeds_iff :
    (∃ bytes, outcome = .ok bytes) ↔
      ∀ length ∈ lengths, length ≤ maxFieldLength
  exact : ∀ bytes, outcome = .ok bytes → bytes.length = size
  names_first : ∀ fault, outcome = .error fault →
    ∃ before length after,
      lengths = before ++ length :: after ∧
      (∀ earlier ∈ before, earlier ≤ maxFieldLength) ∧
      maxFieldLength < length ∧
      fault = .refused (.tooLong length)

theorem firstBeyond?_append (front back : List Nat) :
    firstBeyond? (front ++ back) =
      (firstBeyond? front).or (firstBeyond? back) :=
  List.find?_append

theorem firstBeyond?_eq_none_iff {lengths : List Nat} :
    firstBeyond? lengths = none ↔
      ∀ length ∈ lengths, length ≤ maxFieldLength := by
  simp [firstBeyond?]

theorem firstBeyond?_eq_some_iff {lengths : List Nat} {length : Nat} :
    firstBeyond? lengths = some length ↔
      maxFieldLength < length ∧
        ∃ before after, lengths = before ++ length :: after ∧
          ∀ earlier ∈ before, earlier ≤ maxFieldLength := by
  simp [firstBeyond?, List.find?_eq_some_iff_append]

namespace Measured

theorem ok (bytes : List UInt8) : Measured (.ok bytes) [] bytes.length :=
  ⟨bytes, rfl, rfl⟩

theorem length_eq {outcome : Except Fault (List UInt8)} {lengths : List Nat}
    {size : Nat} (measured : Measured outcome lengths size)
    {bytes : List UInt8} (success : outcome = .ok bytes) :
    bytes.length = size := by
  unfold Measured at measured
  split at measured
  · obtain ⟨written, same, exact⟩ := measured
    rw [success] at same
    cases same
    exact exact
  · rw [success] at measured
    contradiction

theorem bound {outcome : Except Fault (List UInt8)} {lengths : List Nat}
    {size : Nat} (measured : Measured outcome lengths size) :
    Bound outcome lengths size := by
  have length_eq : ∀ bytes, outcome = .ok bytes → bytes.length = size :=
    fun _ success => measured.length_eq success
  unfold Measured at measured
  cases beyond : firstBeyond? lengths with
  | none =>
      rw [beyond] at measured
      obtain ⟨bytes, rfl, _⟩ := measured
      have within := firstBeyond?_eq_none_iff.mp beyond
      exact
        { succeeds_iff := ⟨fun _ => within, fun _ => ⟨bytes, rfl⟩⟩
          exact := length_eq
          names_first := by
            intro fault failed
            contradiction }
  | some length =>
      rw [beyond] at measured
      subst measured
      obtain ⟨tooLong, before, after, split, within⟩ :=
        firstBeyond?_eq_some_iff.mp beyond
      refine ⟨⟨?_, ?_⟩, length_eq, ?_⟩
      · intro success
        obtain ⟨bytes, same⟩ := success
        contradiction
      · intro allWithin
        have shorter := allWithin length (by simp [split])
        omega
      · intro fault failed
        cases failed
        exact ⟨before, length, after, split, within, tooLong, rfl⟩

theorem bind {first : Except Fault (List UInt8)}
    {next : List UInt8 → Except Fault (List UInt8)}
    {front back : List Nat} {width size : Nat}
    (head : Measured first front width)
    (tail : ∀ bytes, bytes.length = width → Measured (next bytes) back size) :
    Measured (first >>= next) (front ++ back) size := by
  unfold Measured at head ⊢
  rw [firstBeyond?_append]
  -- A length beyond the limit in front ends the writing before the rest of the
  -- lengths is looked at.
  cases beyond : firstBeyond? front with
  | some length =>
      rw [beyond] at head
      subst head
      rfl
  | none =>
      rw [beyond] at head
      obtain ⟨bytes, rfl, exact⟩ := head
      exact tail bytes exact

/-- What is written at last is put behind what was written before. -/
theorem last {first : Except Fault (List UInt8)}
    {assemble : List UInt8 → List UInt8} {lengths : List Nat}
    {width size : Nat} (head : Measured first lengths width)
    (sized : ∀ bytes, bytes.length = width → (assemble bytes).length = size) :
    Measured (do return assemble (← first)) lengths size := by
  rw [← List.append_nil lengths]
  refine head.bind fun bytes exact => ?_
  rw [← sized bytes exact]
  exact Measured.ok (assemble bytes)

/-- Only the first length beyond the limit matters. -/
theorem congr {outcome : Except Fault (List UInt8)} {lengths others : List Nat}
    {size : Nat} (same : firstBeyond? lengths = firstBeyond? others)
    (measured : Measured outcome lengths size) :
    Measured outcome others size := by
  unfold Measured at measured ⊢
  rwa [← same]

theorem encodeEach {α : Type} {encode : α → Except Fault (List UInt8)}
    {lengths : α → List Nat} {size : α → Nat} (items : List α)
    (each : ∀ item, Measured (encode item) (lengths item) (size item)) :
    Measured (Wire.encodeEach encode items) (items.flatMap lengths)
      (totalSize size items) := by
  induction items with
  | nil => exact Measured.ok []
  | cons item items induction =>
      rw [List.flatMap_cons]
      refine (each item).bind fun first exact => ?_
      refine induction.last fun others rest => ?_
      rw [List.length_append, exact, rest]
      rfl

end Measured

/-- A value that is read has taken as many bytes as its size announces. -/
theorem Reader.Inverts.sized {α : Type} {item : Reader α} {valid : α → Prop}
    {encode : α → Except Fault (List UInt8)} {lengths : α → List Nat}
    {size : α → Nat} (inverts : item.Inverts valid encode)
    (measured : ∀ value, Measured (encode value) (lengths value) (size value))
    {input left : List UInt8} {value : α}
    (found : item input = .value value left) :
    ∃ bytes, bytes.length = size value ∧ input = bytes ++ left := by
  obtain ⟨_, bytes, written, spelled⟩ := (inverts _ _ _).mp found
  exact ⟨bytes, (measured value).length_eq written, spelled⟩

namespace Field

theorem ofLength_measured (length : Nat) :
    Measured (ofLength length) [length] lengthWidth := by
  unfold Measured ofLength
  by_cases within : length ≤ maxFieldLength
  · have inside : firstBeyond? [length] = none :=
      firstBeyond?_eq_none_iff.mpr (by simpa using within)
    rw [inside, if_pos within]
    exact ⟨_, rfl, length_littleEndian ..⟩
  · have beyond : firstBeyond? [length] = some length := by
      simpa [firstBeyond?] using within
    rw [beyond, if_neg within]

theorem ofBytes_measured (value : ByteArray) :
    Measured (ofBytes value) [value.size] (lengthWidth + value.size) := by
  have steps : ofBytes value =
      (do return (← ofLength value.size) ++ value.data.toList) := by
    unfold ofBytes
    cases ofLength value.size <;> rfl
  rw [steps]
  refine (ofLength_measured value.size).last fun size exact => ?_
  rw [List.length_append, exact]
  rfl

theorem ofText_measured (value : String) :
    Measured (ofText value) [value.utf8ByteSize]
      (lengthWidth + value.utf8ByteSize) :=
  ofBytes_measured value.toUTF8

@[simp] theorem length_ofByte (value : UInt8) : (ofByte value).length = 1 :=
  rfl

@[simp] theorem length_ofBool (value : Bool) : (ofBool value).length = 1 :=
  rfl

@[simp] theorem length_ofUInt32 (value : UInt32) :
    (ofUInt32 value).length = 4 :=
  length_littleEndian ..

@[simp] theorem length_ofInt32 (value : Int32) : (ofInt32 value).length = 4 :=
  length_littleEndian ..

@[simp] theorem length_ofUInt64 (value : UInt64) :
    (ofUInt64 value).length = 8 :=
  length_littleEndian ..

@[simp] theorem length_ofInt64 (value : Int64) : (ofInt64 value).length = 8 :=
  length_littleEndian ..

end Field

end Wire

open Wire

namespace Argument

/-- The length in front of a text or of bytes. -/
def lengths : Argument → List Nat
  | text value => [value.utf8ByteSize]
  | bytes value => [value.size]
  | _ => []

theorem encodePayload_measured (argument : Argument) :
    ∃ size, argument.encodedSize = size + 1 ∧
      Measured argument.encodePayload argument.lengths size := by
  cases argument with
  | text value =>
      exact ⟨_, by simp only [encodedSize]; omega,
        Field.ofText_measured value⟩
  | bytes value =>
      exact ⟨_, by simp only [encodedSize]; omega,
        Field.ofBytes_measured value⟩
  | _ => exact ⟨_, Nat.add_comm .., _, rfl, by simp [kind, Kind.payloadWidth]⟩

theorem encode_measured (argument : Argument) :
    Measured argument.encode argument.lengths argument.encodedSize := by
  obtain ⟨size, announced, measured⟩ := argument.encodePayload_measured
  refine measured.last fun payload exact => ?_
  rw [List.length_cons, exact, announced]

end Argument

namespace Job

/-- The count of arguments, then the lengths inside them. -/
def lengths (job : Job) : List Nat :=
  job.arguments.length :: job.arguments.flatMap Argument.lengths

theorem encode_measured (job : Job) :
    Measured job.encode job.lengths job.encodedSize := by
  refine (Field.ofLength_measured _).bind fun count counted => ?_
  refine (Measured.encodeEach _ Argument.encode_measured).last
    fun arguments exact => ?_
  simp only [List.length_append, Field.length_ofInt32, counted, exact]
  rfl

end Job

namespace Wire.Frame

theorem PackageHeader.encode_measured (header : PackageHeader) :
    Measured header.encode [header.capacity, header.added]
      packageHeaderSize := by
  refine (Field.ofLength_measured _).bind fun capacity counted => ?_
  refine (Field.ofLength_measured _).last fun added filled => ?_
  simp only [List.length_append, length_littleEndian, counted, filled]
  rfl

theorem length_resultHeader (bodySize : Nat) :
    (resultHeader bodySize).length = resultHeaderSize := by
  simp only [resultHeader, List.length_append, length_littleEndian]
  rfl

end Wire.Frame

namespace JobResult

/-- The count of words. -/
def lengths (result : JobResult) : List Nat :=
  [result.data.length]

theorem length_flatMap_ofUInt32 (words : List UInt32) :
    (words.flatMap Field.ofUInt32).length = 4 * words.length := by
  induction words with
  | nil => rfl
  | cons word words induction =>
      rw [List.flatMap_cons, List.length_append, induction,
        Field.length_ofUInt32, List.length_cons]
      omega

theorem encode_measured (result : JobResult) :
    Measured result.encode result.lengths result.encodedSize := by
  refine (Field.ofLength_measured _).last fun count counted => ?_
  simp only [List.length_append, Field.length_ofInt32, counted,
    length_flatMap_ofUInt32]
  rfl

theorem frame_measured (result : JobResult) :
    Measured result.frame result.lengths
      (Frame.resultHeaderSize + result.encodedSize) := by
  refine result.encode_measured.last fun body written => ?_
  rw [List.length_append, Frame.length_resultHeader, written]

end JobResult

namespace RunCommand

/-- The length of the command line. -/
def lengths (command : RunCommand) : List Nat :=
  [command.command.utf8ByteSize]

theorem encode_measured (command : RunCommand) :
    Measured command.encode command.lengths command.encodedSize := by
  refine (Field.ofText_measured _).last fun line exact => ?_
  simp only [List.length_append, Field.length_ofInt32, Field.length_ofBool,
    exact, encodedSize]

end RunCommand

namespace Profile

/-- The lengths of the texts, the count of commands, then the lengths inside
them. -/
def lengths (profile : Profile) : List Nat :=
  [profile.name.utf8ByteSize, profile.executable.utf8ByteSize,
    profile.guiAddress.utf8ByteSize, profile.controllerAddress.utf8ByteSize,
    profile.commands.length] ++
  profile.commands.flatMap RunCommand.lengths

theorem encode_measured (profile : Profile) :
    Measured profile.encode profile.lengths profile.encodedSize := by
  refine (Field.ofText_measured _).bind fun name named => ?_
  refine (Field.ofText_measured _).bind fun executable executed => ?_
  refine (Field.ofText_measured _).bind fun gui shown => ?_
  refine (Field.ofText_measured _).bind fun controller controlled => ?_
  refine (Field.ofLength_measured _).bind fun count counted => ?_
  refine (Measured.encodeEach _ RunCommand.encode_measured).last
    fun commands exact => ?_
  simp only [List.length_append, named, executed, shown, controlled, counted,
    exact, encodedSize]

end Profile

namespace Package

/-- The lengths of the profile, then those of every slot. -/
def lengths (package : Package) : List Nat :=
  package.profile.lengths ++ package.jobs.flatMap Job.lengths

theorem encode_measured (package : Package) :
    Measured package.encode package.lengths package.encodedSize := by
  refine package.profile.encode_measured.bind fun profile written => ?_
  refine (Measured.encodeEach _ Job.encode_measured).last fun jobs exact => ?_
  rw [List.length_append, written, exact]
  rfl

/-- There are never more filled slots than slots, so the second count of the
header is within the limit if the first one is. -/
theorem frame_measured (package : Package) :
    Measured package.frame (package.capacity :: package.lengths)
      (Frame.packageHeaderSize + package.encodedSize) := by
  have counts : firstBeyond? [package.capacity, package.added] =
      firstBeyond? [package.capacity] := by
    have ordered : package.added ≤ package.capacity := Nat.le_add_right ..
    by_cases within : package.capacity ≤ maxFieldLength
    · have filled : package.added ≤ maxFieldLength :=
        Nat.le_trans ordered within
      rw [firstBeyond?_eq_none_iff.mpr (by simpa using ⟨within, filled⟩),
        firstBeyond?_eq_none_iff.mpr (by simpa using within)]
    · have beyond : maxFieldLength < package.capacity :=
        Nat.lt_of_not_le within
      simp [firstBeyond?, beyond]
  refine (package.header.encode_measured.congr counts).bind
    fun header opened => ?_
  refine package.encode_measured.last fun body written => ?_
  rw [List.length_append, opened, written]

end Package

end WorkPackage
