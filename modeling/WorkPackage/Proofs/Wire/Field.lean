import Mathlib.Algebra.Group.Nat.Defs
import WorkPackage.Proofs.Wire.Reading

/-!
# Laws of fields

Every field is read back from exactly the bytes that are written for it: words
because little-endian digits are unique, lengths because the limit is the same
on both sides, and text because a valid byte string has one reading.
-/

namespace WorkPackage.Wire

theorem length_littleEndian (width number : Nat) :
    (littleEndian width number).length = width := by
  induction width generalizing number with
  | zero => rfl
  | succ width induction => simp [littleEndian, induction]

theorem fromLittleEndian_littleEndian (width number : Nat) :
    fromLittleEndian (littleEndian width number) = number % 256 ^ width := by
  induction width generalizing number with
  | zero => simp [littleEndian, fromLittleEndian, Nat.mod_one]
  | succ width induction =>
      rw [littleEndian, fromLittleEndian, induction, Nat.pow_succ,
        Nat.mul_comm (256 ^ width) 256, Nat.mod_mul]
      simp

theorem fromLittleEndian_lt (bytes : List UInt8) :
    fromLittleEndian bytes < 256 ^ bytes.length := by
  induction bytes with
  | nil => simp [fromLittleEndian]
  | cons byte bytes induction =>
      have bound : byte.toNat < 256 := byte.toNat_lt
      simp only [fromLittleEndian, List.length_cons, Nat.pow_succ]
      omega

theorem littleEndian_fromLittleEndian (bytes : List UInt8) :
    littleEndian bytes.length (fromLittleEndian bytes) = bytes := by
  induction bytes with
  | nil => rfl
  | cons byte bytes induction =>
      have bound : byte.toNat < 256 := byte.toNat_lt
      have quotient : (byte.toNat + 256 * fromLittleEndian bytes) / 256 =
          fromLittleEndian bytes := by omega
      have lowest : UInt8.ofNat (byte.toNat + 256 * fromLittleEndian bytes) =
          byte := by
        apply UInt8.toNat_inj.mp
        rw [UInt8.toNat_ofNat']
        omega
      simp only [List.length_cons, fromLittleEndian, littleEndian, quotient,
        lowest, induction]

/-- A number that fits is written by the one field of the width that stands for
it. -/
theorem eq_littleEndian_iff {width number : Nat} {field : List UInt8}
    (fits : number < 256 ^ width) :
    field = littleEndian width number ↔
      field.length = width ∧ fromLittleEndian field = number := by
  constructor
  · intro spelled
    subst spelled
    rw [length_littleEndian, fromLittleEndian_littleEndian,
      Nat.mod_eq_of_lt fits]
    exact ⟨rfl, rfl⟩
  · intro success
    obtain ⟨rfl, rfl⟩ := success
    exact (littleEndian_fromLittleEndian field).symm

namespace Field

/-- Words are read back, whatever type they are read into, as long as every
number of that width is a value of the type. -/
theorem word_eq_value_iff {α : Type} {width : Nat} {ofNumber : Nat → α}
    {toNumber : α → Nat} {input rest : List UInt8} {value : α}
    (fits : toNumber value < 256 ^ width)
    (inverse : ∀ number, number < 256 ^ width →
      (ofNumber number = value ↔ number = toNumber value)) :
    (do let field ← Reader.take width
        return ofNumber (fromLittleEndian field) : Reader α) input =
        .value value rest ↔
      input = littleEndian width (toNumber value) ++ rest := by
  rw [Reader.bind_eq_value_iff]
  constructor
  · intro success
    obtain ⟨field, left, taken, answered⟩ := success
    obtain ⟨rfl, rfl⟩ := Reader.take_eq_value_iff.mp taken
    obtain ⟨number, rfl⟩ := Reader.pure_eq_value_iff.mp answered
    rw [inverse _ (fromLittleEndian_lt field)] at number
    have written : field = littleEndian field.length (toNumber value) :=
      (eq_littleEndian_iff fits).mpr ⟨rfl, number⟩
    rw [← written]
  · intro spelled
    subst spelled
    refine ⟨littleEndian width (toNumber value), rest,
      Reader.take_eq_value_iff.mpr ⟨length_littleEndian .., rfl⟩,
      Reader.pure_eq_value_iff.mpr ⟨?_, rfl⟩⟩
    rw [fromLittleEndian_littleEndian, Nat.mod_eq_of_lt fits]
    exact (inverse _ fits).mpr rfl

variable {input rest : List UInt8}

theorem byte_eq_value_iff {value : UInt8} :
    byte input = .value value rest ↔ input = ofByte value ++ rest := by
  have written : ofByte value = littleEndian 1 value.toNat := by
    simp [ofByte, littleEndian]
  rw [written]
  refine word_eq_value_iff (by simpa using value.toNat_lt) ?_
  intro number fits
  have small : number % 2 ^ 8 = number := Nat.mod_eq_of_lt (by omega)
  rw [← UInt8.toNat_inj, UInt8.toNat_ofNat', small]

theorem uint32_eq_value_iff {value : UInt32} :
    uint32 input = .value value rest ↔ input = ofUInt32 value ++ rest := by
  refine word_eq_value_iff (by simpa using value.toNat_lt) ?_
  intro number fits
  have small : number % 2 ^ 32 = number := Nat.mod_eq_of_lt (by omega)
  rw [← UInt32.toNat_inj, UInt32.toNat_ofNat', small]

theorem uint64_eq_value_iff {value : UInt64} :
    uint64 input = .value value rest ↔ input = ofUInt64 value ++ rest := by
  refine word_eq_value_iff (by simpa using value.toNat_lt) ?_
  intro number fits
  have small : number % 2 ^ 64 = number := Nat.mod_eq_of_lt (by omega)
  rw [← UInt64.toNat_inj, UInt64.toNat_ofNat', small]

theorem int32_eq_value_iff {value : Int32} :
    int32 input = .value value rest ↔ input = ofInt32 value ++ rest := by
  simp only [int32, Reader.bind_eq_value_iff, uint32_eq_value_iff,
    Reader.pure_eq_value_iff, ofInt32]
  constructor
  · intro success
    obtain ⟨word, left, rfl, rfl, rfl⟩ := success
    simp
  · intro spelled
    subst spelled
    exact ⟨value.toUInt32, rest, rfl, by simp, rfl⟩

theorem int64_eq_value_iff {value : Int64} :
    int64 input = .value value rest ↔ input = ofInt64 value ++ rest := by
  simp only [int64, Reader.bind_eq_value_iff, uint64_eq_value_iff,
    Reader.pure_eq_value_iff, ofInt64]
  constructor
  · intro success
    obtain ⟨word, left, rfl, rfl, rfl⟩ := success
    simp
  · intro spelled
    subst spelled
    exact ⟨value.toUInt64, rest, rfl, by simp, rfl⟩

/-- No byte but zero and one is taken for a boolean. -/
theorem bool_eq_value_iff {value : Bool} :
    bool input = .value value rest ↔ input = ofBool value ++ rest := by
  simp only [bool, Reader.bind_eq_value_iff, byte_eq_value_iff, ofByte]
  constructor
  · intro success
    obtain ⟨found, left, rfl, answered⟩ := success
    split at answered
    next => cases answered; rfl
    next => cases answered; rfl
    next => exact absurd answered Reader.fail_ne_value
  · intro spelled
    subst spelled
    cases value with
    | false => exact ⟨0, rest, rfl, rfl⟩
    | true => exact ⟨1, rest, rfl, rfl⟩

theorem ofLength_eq_ok_iff {length : Nat} {bytes : List UInt8} :
    ofLength length = .ok bytes ↔
      length ≤ maxFieldLength ∧ littleEndian lengthWidth length = bytes := by
  unfold ofLength
  by_cases within : length ≤ maxFieldLength <;> simp [within]

/-- A length within the limit is a signed word, so that it is written as that
word is. -/
theorem ofInt32_ofNat {length : Nat} (within : length ≤ maxFieldLength) :
    ofInt32 (Int32.ofNat length) = littleEndian lengthWidth length := by
  unfold maxFieldLength at within
  have small : length % 2 ^ 32 = length := Nat.mod_eq_of_lt (by omega)
  rw [ofInt32, ofUInt32, Int32.toUInt32_ofNat', UInt32.toNat_ofNat', small,
    lengthWidth]

theorem length_eq_value_iff {value : Nat} :
    length input = .value value rest ↔
      ∃ bytes, ofLength value = .ok bytes ∧ input = bytes ++ rest := by
  simp only [length, Reader.bind_eq_value_iff, int32_eq_value_iff,
    Reader.refuse_eq_value_iff, Reader.pure_eq_value_iff, ofLength_eq_ok_iff,
    Int.not_lt, Nat.not_lt]
  constructor
  · intro success
    obtain ⟨declared, _, rfl, nonnegative, within, rfl, rfl⟩ := success
    have restored : Int32.ofNat declared.toInt.toNat = declared :=
      Int32.ofNat_toNatClampNeg declared (Int32.le_iff_toInt_le.mpr nonnegative)
    refine ⟨_, ⟨within, rfl⟩, ?_⟩
    rw [← ofInt32_ofNat within, restored]
  · intro written
    obtain ⟨bytes, ⟨within, rfl⟩, rfl⟩ := written
    have signed : (Int32.ofNat value).toInt = value := by
      unfold maxFieldLength at within
      exact Int32.toInt_ofNat_of_lt (by omega)
    refine ⟨Int32.ofNat value, rest, by rw [ofInt32_ofNat within], ?_⟩
    rw [signed, Int.toNat_natCast]
    exact ⟨Int.natCast_nonneg value, within, rfl, rfl⟩

theorem ofBytes_eq_ok_iff {value : ByteArray} {bytes : List UInt8} :
    ofBytes value = .ok bytes ↔
      ∃ size, ofLength value.size = .ok size ∧
        size ++ value.data.toList = bytes := by
  unfold ofBytes
  cases ofLength value.size with
  | ok size => simp [Except.map]
  | error fault => simp [Except.map]

theorem bytes_eq_value_iff {value : ByteArray} :
    bytes input = .value value rest ↔
      ∃ written, ofBytes value = .ok written ∧ input = written ++ rest := by
  simp only [bytes, Reader.bind_eq_value_iff, length_eq_value_iff,
    Reader.take_eq_value_iff, Reader.pure_eq_value_iff, ofBytes_eq_ok_iff]
  constructor
  · intro success
    obtain ⟨size, left, ⟨prefixed, declared, rfl⟩, taken, left', ⟨rfl, rfl⟩,
      rfl, rfl⟩ := success
    exact ⟨_, ⟨prefixed, declared, rfl⟩, by simp⟩
  · intro success
    obtain ⟨written, ⟨prefixed, declared, rfl⟩, rfl⟩ := success
    exact ⟨value.size, value.data.toList ++ rest,
      ⟨prefixed, declared, List.append_assoc ..⟩, value.data.toList, rest,
      ⟨Array.length_toList, rfl⟩, rfl, rfl⟩

/-- Bytes are the text that they spell, and no other. -/
theorem fromUTF8?_eq_some_iff {bytes : ByteArray} {value : String} :
    String.fromUTF8? bytes = some value ↔ value.toUTF8 = bytes := by
  unfold String.fromUTF8?
  constructor
  · intro valid
    split at valid
    next => cases valid; rfl
    next => contradiction
  · intro spelled
    subst spelled
    exact dif_pos value.isValidUTF8

theorem text_eq_value_iff {value : String} :
    text input = .value value rest ↔
      ∃ written, ofText value = .ok written ∧ input = written ++ rest := by
  simp only [text, Reader.bind_eq_value_iff, ofText, bytes_eq_value_iff]
  constructor
  · intro success
    obtain ⟨spelled, left, ⟨written, success, rfl⟩, answered⟩ := success
    cases found : String.fromUTF8? spelled with
    | none =>
        rw [found] at answered
        exact absurd answered Reader.fail_ne_value
    | some spelling =>
        rw [found] at answered
        obtain ⟨rfl, rfl⟩ := Reader.pure_eq_value_iff.mp answered
        rw [fromUTF8?_eq_some_iff.mp found]
        exact ⟨written, success, rfl⟩
  · intro success
    obtain ⟨written, success, rfl⟩ := success
    refine ⟨value.toUTF8, rest, ⟨written, success, rfl⟩, ?_⟩
    rw [fromUTF8?_eq_some_iff.mpr rfl]
    rfl

theorem byte_plain : byte.Plain :=
  (Reader.Plain.take 1).bind fun _ => Reader.Plain.pure _

theorem uint32_plain : uint32.Plain :=
  (Reader.Plain.take 4).bind fun _ => Reader.Plain.pure _

theorem uint64_plain : uint64.Plain :=
  (Reader.Plain.take 8).bind fun _ => Reader.Plain.pure _

theorem int32_plain : int32.Plain :=
  uint32_plain.bind fun _ => Reader.Plain.pure _

theorem int64_plain : int64.Plain :=
  uint64_plain.bind fun _ => Reader.Plain.pure _

theorem bool_plain : bool.Plain := by
  refine byte_plain.bind fun found => ?_
  split
  · exact Reader.Plain.pure false
  · exact Reader.Plain.pure true
  · exact Reader.Plain.fail _

theorem length_plain : length.Plain :=
  int32_plain.bind fun _ => .refuse _ (.refuse _ (.pure _))

theorem bytes_plain : bytes.Plain :=
  length_plain.bind fun size =>
    (Reader.Plain.take size).bind fun _ => Reader.Plain.pure _

theorem text_plain : text.Plain := by
  refine bytes_plain.bind fun spelled => ?_
  split
  · exact Reader.Plain.pure _
  · exact Reader.Plain.fail _

end Field

end WorkPackage.Wire
