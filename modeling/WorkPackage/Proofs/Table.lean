import WorkPackage.Table.Record
import Mathlib.Data.List.Basic

/-!
# Laws of scans

A scan either seeks a record or is inside one.  While it seeks, it skips line ends, and
the first byte that is none begins a record.  Inside, each byte either leaves it there
or is a line end that closes the record, and then the next search begins.
-/

namespace WorkPackage.Table

/-- The bytes that records end with, and that are skipped between them. -/
def IsLineEnd (byte : UInt8) : Prop :=
  byte = lineFeed ∨ byte = carriageReturn

instance (byte : UInt8) : Decidable (IsLineEnd byte) :=
  inferInstanceAs (Decidable (_ ∨ _))

variable {delimiter byte : UInt8} {bytes : List UInt8}

section Steps

variable {scan next : Scan} {record : Record}

theorem recordsFrom_of_step (step : scan.step delimiter byte = (next, none)) :
    recordsFrom delimiter scan (byte :: bytes) = recordsFrom delimiter next bytes := by
  rw [recordsFrom, step]

theorem recordsFrom_of_close (step : scan.step delimiter byte = (next, some record)) :
    recordsFrom delimiter scan (byte :: bytes) =
      record :: recordsFrom delimiter next bytes := by
  rw [recordsFrom, step]

end Steps

namespace Place

/-- The places at which a record is sought. -/
def Seeks (place : Place) : Prop :=
  place = .between ∨ place = .behindReturn

instance (place : Place) : Decidable place.Seeks :=
  inferInstanceAs (Decidable (_ ∨ _))

end Place

namespace Scan

/-- The line behind a byte. -/
theorem line_step (line : Nat) :
    (if byte = lineFeed then line + 1 else line) = line + [byte].count lineFeed := by
  split
  next feed => simp [feed]
  next other => simp [other]

section Searches

variable {place : Place} {start line : Nat}

theorem step_skips (delimiter : UInt8) (start line : Nat) (seeks : place.Seeks)
    (ends : IsLineEnd byte) :
    Scan.step delimiter { place, startLine := start, line } byte =
      ({ startLine := start, line := line + [byte].count lineFeed }, none) := by
  rw [step, line_step]
  rcases seeks with rfl | rfl <;> exact if_pos ends

/-- A record begins like any field. -/
theorem recordsFrom_begins (start line : Nat) (seeks : place.Seeks)
    (begins : ¬IsLineEnd byte) :
    recordsFrom delimiter { place, startLine := start, line } (byte :: bytes) =
      recordsFrom delimiter { place := .fieldStart, startLine := start, line }
        (byte :: bytes) := by
  have feed : byte ≠ lineFeed := fun same => begins (.inl same)
  have back : byte ≠ carriageReturn := fun same => begins (.inr same)
  have same : Scan.step delimiter { place, startLine := start, line } byte =
      Scan.step delimiter { place := .fieldStart, startLine := start, line } byte := by
    rcases seeks with rfl | rfl <;>
      simp [step, stepFieldStart, stepPlain, feed, back, endField, push]
  rw [recordsFrom, recordsFrom, same]

end Searches

/-- A scan that has begun with a record. -/
def Inside (scan : Scan) : Prop :=
  ¬scan.place.Seeks

/-- What a byte does inside a record. -/
inductive Passes (scan : Scan) (byte : UInt8) : Scan × Option Record → Prop where
  | within {next : Scan} (inside : next.Inside) (start : next.startLine = scan.startLine)
      (line : next.line = scan.line + [byte].count lineFeed) : Passes scan byte (next, none)
  | closes {place : Place} (seeks : place.Seeks) (ends : IsLineEnd byte) :
      Passes scan byte
        (atLine place (scan.line + [byte].count lineFeed), some scan.record)

variable {scan : Scan}

theorem passes_stepPlain (scan : Scan) (byte : UInt8) :
    Passes scan byte
      (stepPlain delimiter { scan with line := scan.line + [byte].count lineFeed } byte) := by
  unfold stepPlain
  split
  · exact .within (by decide : ¬Place.Seeks .fieldStart) rfl rfl
  · split
    next feed => exact .closes (.inl rfl) (.inl feed)
    · split
      next back => exact .closes (.inr rfl) (.inr back)
      · exact .within (by decide : ¬Place.Seeks .plain) rfl rfl

theorem Inside.passes (inside : scan.Inside) (delimiter byte : UInt8) :
    Passes scan byte (scan.step delimiter byte) := by
  have stays : ∀ {place : Place} {field : List UInt8}, ¬place.Seeks →
      Passes scan byte ({ scan with
        place, field, line := scan.line + [byte].count lineFeed }, none) :=
    fun apart => .within apart rfl rfl
  rw [step, line_step]
  split
  next here => exact absurd (.inr here) inside
  next here => exact absurd (.inl here) inside
  · unfold stepFieldStart
    split
    · exact stays (by decide)
    · exact passes_stepPlain scan byte
  · exact passes_stepPlain scan byte
  · split
    · exact stays (by decide)
    · exact stays (by decide)
  · split
    · exact stays (by decide)
    · exact passes_stepPlain scan byte

theorem Inside.finish (inside : scan.Inside) : scan.finish = [scan.record] := by
  unfold Scan.finish
  split
  next here => exact absurd (.inl here) inside
  next here => exact absurd (.inr here) inside
  next => rfl

end Scan

end WorkPackage.Table
