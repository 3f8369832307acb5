import WorkPackage.Table
import WorkPackage.Proofs.Outcome
import WorkPackage.Proofs.Table

/-!
# Positions of records

A file is parted into its records: line ends that are skipped, the bytes of a record,
and the line end that closes it.  A record is named by the line on which the search for
it began.  That is the line of its first byte exactly if no line feed was skipped in
front of it.
-/

namespace WorkPackage.Table

variable {delimiter : UInt8}

/-- The line of the byte that stands behind some bytes. -/
def lineBehind (bytes : List UInt8) : Nat :=
  1 + bytes.count lineFeed

/-- Where a record stands: behind bytes that belong to others, line ends are skipped, and
its own bytes are read as this record alone. -/
structure Placed (delimiter : UInt8) (before skipped content : List UInt8)
    (record : Record) : Prop where
  skips : ∀ byte ∈ skipped, IsLineEnd byte
  begins : ∃ first others, content = first :: others ∧ ¬IsLineEnd first
  reads : recordsFrom delimiter
    { startLine := lineBehind before, line := lineBehind (before ++ skipped) } content =
      [record]
  named : record.line = lineBehind before

/-- The bytes up to the line end that closes the last of some records. -/
inductive Closed (delimiter : UInt8) : List UInt8 → List Record → Prop where
  | start : Closed delimiter [] []
  | record {before skipped content : List UInt8} {closing : UInt8} {earlier : List Record}
      {record : Record} (closed : Closed delimiter before earlier)
      (placed : Placed delimiter before skipped content record) (ends : IsLineEnd closing) :
      Closed delimiter (before ++ (skipped ++ (content ++ [closing]))) (earlier ++ [record])

namespace Scan

/-- What is read of a record that was begun: its bytes, and behind the line end that
closes it the rest of the file. -/
inductive Reads (delimiter : UInt8) (scan : Scan) (bytes : List UInt8) (record : Record) :
    List UInt8 → List UInt8 → Prop where
  | ended (alone : recordsFrom delimiter scan bytes = [record]) :
      Reads delimiter scan bytes record bytes []
  | closed {content rest : List UInt8} {closing : UInt8} {place : Place}
      (parted : bytes = content ++ closing :: rest)
      (alone : recordsFrom delimiter scan content = [record]) (ends : IsLineEnd closing)
      (seeks : place.Seeks)
      (all : recordsFrom delimiter scan bytes = record ::
        recordsFrom delimiter
          (atLine place (scan.line + (content ++ [closing]).count lineFeed)) rest) :
      Reads delimiter scan bytes record content (closing :: rest)

variable {scan : Scan}

theorem Inside.reads (inside : scan.Inside) (delimiter : UInt8) (bytes : List UInt8) :
    ∃ record content behind, record.line = scan.startLine ∧
      Reads delimiter scan bytes record content behind := by
  induction bytes generalizing scan with
  | nil => exact ⟨scan.record, [], [], rfl, .ended inside.finish⟩
  | cons byte bytes induction =>
      have passes := inside.passes delimiter byte
      generalize step : scan.step delimiter byte = passed at passes
      cases passes with
      | @within next stays start line =>
          obtain ⟨record, content, behind, named, reads⟩ := induction stays
          rw [start] at named
          cases reads with
          | ended alone =>
              refine ⟨record, _, _, named, .ended ?_⟩
              rw [recordsFrom_of_step step, alone]
          | closed parted alone ends seeks all =>
              refine ⟨record, byte :: content, _, named,
                .closed (congrArg (byte :: ·) parted) ?_ ends seeks ?_⟩
              · rw [recordsFrom_of_step step, alone]
              · rw [recordsFrom_of_step step, all, line, Nat.add_assoc, ← List.count_append]
                rfl
      | closes seeks ends =>
          exact ⟨scan.record, [], byte :: bytes, rfl,
            .closed rfl inside.finish ends seeks (recordsFrom_of_close step)⟩

/-- A search skips line ends up to the end of the file or up to the first byte of a
record. -/
theorem exists_skipped {place : Place} (seeks : place.Seeks) (delimiter : UInt8)
    (start line : Nat) (bytes : List UInt8) :
    ∃ skipped rest, bytes = skipped ++ rest ∧ (∀ byte ∈ skipped, IsLineEnd byte) ∧
      (recordsFrom delimiter { place, startLine := start, line } bytes = [] ∨
        ∃ first others, rest = first :: others ∧ ¬IsLineEnd first ∧
          recordsFrom delimiter { place, startLine := start, line } bytes =
            recordsFrom delimiter
              { place := .fieldStart, startLine := start,
                line := line + skipped.count lineFeed } rest) := by
  induction bytes generalizing place line with
  | nil =>
      refine ⟨[], [], rfl, fun _ => nofun, .inl ?_⟩
      rcases seeks with rfl | rfl <;> rfl
  | cons byte bytes induction =>
      by_cases ends : IsLineEnd byte
      · have skip := step_skips delimiter start line seeks ends
        obtain ⟨skipped, rest, rfl, all, found⟩ :=
          induction (.inl rfl) (line + [byte].count lineFeed)
        refine ⟨byte :: skipped, rest, rfl, List.forall_mem_cons.mpr ⟨ends, all⟩, ?_⟩
        rw [Nat.add_assoc, ← List.count_append] at found
        rw [recordsFrom_of_step skip]
        exact found
      · exact ⟨[], byte :: bytes, rfl, fun _ => nofun,
          .inr ⟨byte, bytes, rfl, ends, recordsFrom_begins start line seeks ends⟩⟩

end Scan

open Scan (atLine)

/-- What a search finds behind some bytes. -/
inductive Finds (delimiter : UInt8) (before bytes : List UInt8) :
    List Record → Prop where
  | nothing : Finds delimiter before bytes []
  | last {skipped content : List UInt8} {record : Record}
      (parted : bytes = skipped ++ content)
      (placed : Placed delimiter before skipped content record) :
      Finds delimiter before bytes [record]
  | next {skipped content rest : List UInt8} {closing : UInt8} {place : Place}
      {record : Record} (parted : bytes = skipped ++ (content ++ closing :: rest))
      (placed : Placed delimiter before skipped content record) (ends : IsLineEnd closing)
      (seeks : place.Seeks) :
      Finds delimiter before bytes (record :: recordsFrom delimiter
        (atLine place (lineBehind (before ++ (skipped ++ (content ++ [closing]))))) rest)

theorem lineBehind_append (before bytes : List UInt8) :
    lineBehind (before ++ bytes) = lineBehind before + bytes.count lineFeed := by
  rw [lineBehind, lineBehind, List.count_append, Nat.add_assoc]

/-- What is read when a record is sought behind some bytes. -/
theorem finds_recordsFrom {place : Place} (seeks : place.Seeks) (delimiter : UInt8)
    (before bytes : List UInt8) :
    Finds delimiter before bytes
      (recordsFrom delimiter (atLine place (lineBehind before)) bytes) := by
  obtain ⟨skipped, rest, rfl, skips, none | ⟨first, others, rfl, begins, found⟩⟩ :=
    Scan.exists_skipped seeks delimiter (lineBehind before) (lineBehind before) bytes
  · rw [atLine, none]
    exact .nothing
  · rw [← lineBehind_append] at found
    have placed : ∀ {others : List UInt8} {record : Record},
        record.line = lineBehind before →
        recordsFrom delimiter
          { place := .fieldStart, startLine := lineBehind before,
            line := lineBehind (before ++ skipped) } (first :: others) = [record] →
        Placed delimiter before skipped (first :: others) record := by
      intro others record named alone
      refine ⟨skips, ⟨first, others, rfl, begins⟩, ?_, named⟩
      rw [Scan.recordsFrom_begins _ _ (.inl rfl) begins, alone]
    have inside : Scan.Inside
        { place := .fieldStart, startLine := lineBehind before,
          line := lineBehind (before ++ skipped) } :=
      (by decide : ¬Place.Seeks .fieldStart)
    obtain ⟨record, content, behind, named, reads⟩ := inside.reads delimiter (first :: others)
    rw [atLine, found]
    cases reads with
    | ended alone =>
        rw [alone]
        exact .last rfl (placed named alone)
    | @closed content rest closing place parted alone ends seeks all =>
        cases content with
        | nil =>
            rw [(List.cons.inj parted).1] at begins
            contradiction
        | cons byte content =>
            obtain ⟨rfl, rfl⟩ := List.cons.inj parted
            rw [all, ← lineBehind_append, List.append_assoc]
            exact .next rfl (placed named alone) ends seeks

/-- Every record stands behind the line end that closes the one in front of it. -/
theorem exists_placed {place : Place} (seeks : place.Seeks) {before bytes : List UInt8}
    {earlier ahead later : List Record} {record : Record}
    (closed : Closed delimiter before earlier)
    (read : recordsFrom delimiter (atLine place (lineBehind before)) bytes =
      ahead ++ record :: later) :
    ∃ front skipped content behind,
      before ++ bytes = front ++ (skipped ++ (content ++ behind)) ∧
        Closed delimiter front (earlier ++ ahead) ∧
        Placed delimiter front skipped content record ∧
        ∀ next ∈ behind.head?, IsLineEnd next := by
  induction ahead generalizing place before bytes earlier with
  | nil =>
      have finds := finds_recordsFrom seeks delimiter before bytes
      rw [read, List.nil_append] at finds
      rw [List.append_nil]
      cases finds with
      | last parted placed =>
          exact ⟨before, _, _, [], by rw [parted, List.append_nil], closed, placed,
            fun _ => nofun⟩
      | next parted placed ends =>
          refine ⟨before, _, _, _, by rw [parted], closed, placed, ?_⟩
          rintro next ⟨⟩
          exact ends
  | cons other ahead induction =>
      have finds := finds_recordsFrom seeks delimiter before bytes
      rw [read, List.cons_append] at finds
      generalize rest : ahead ++ record :: later = others at finds
      cases finds with
      | last => exact absurd rest (by simp)
      | next parted placed ends seeks =>
          obtain ⟨front, skipped, content, behind, whole, others, stands, next⟩ :=
            induction seeks (closed.record placed ends) rest.symm
          refine ⟨front, skipped, content, behind, ?_, ?_, stands, next⟩
          · rw [← whole, parted]
            simp
          · rw [List.append_assoc] at others
            exact others

/-- A fault of a table is about its first record that cannot be used, which stands at some
place of the file. -/
structure Blames (codes : List Char) (format : TableFormat) (bytes : List UInt8)
    (fault : TableFault) (earlier : List Record) (record : Record)
    (before skipped content : List UInt8) : Prop where
  listed : ∃ later, records format.delimiter bytes = earlier ++ record :: later
  header : format.hasHeaders = true → earlier ≠ []
  usable : ∀ other ∈ if format.hasHeaders then earlier.drop 1 else earlier,
    ∃ row, readRecord codes other = .ok row
  fails : readRecord codes record = .error fault
  stands : ∃ behind, withoutMark bytes = before ++ (skipped ++ (content ++ behind)) ∧
    ∀ next ∈ behind.head?, IsLineEnd next
  closed : Closed format.delimiter before earlier
  placed : Placed format.delimiter before skipped content record

theorem exists_blamed {codes : List Char} {format : TableFormat} {bytes : List UInt8}
    {fault : TableFault} (fails : Table.read codes format bytes = .error fault) :
    ∃ earlier record before skipped content,
      Blames codes format bytes fault earlier record before skipped content := by
  obtain ⟨ahead, record, later, parted, usable, fails⟩ := mapM_eq_error_iff.mp fails
  obtain ⟨earlier, listed, header, dropped⟩ : ∃ earlier,
      records format.delimiter bytes = earlier ++ record :: later ∧
        (format.hasHeaders = true → earlier ≠ []) ∧
        (if format.hasHeaders then earlier.drop 1 else earlier) = ahead := by
    cases headed : format.hasHeaders with
    | false =>
        rw [headed, if_neg Bool.false_ne_true] at parted
        exact ⟨ahead, parted, nofun, if_neg Bool.false_ne_true⟩
    | true =>
        rw [headed, if_pos rfl] at parted
        cases all : records format.delimiter bytes with
        | nil => simp [all] at parted
        | cons first others =>
            rw [all, List.drop_one, List.tail_cons] at parted
            rw [parted]
            exact ⟨first :: ahead, rfl, fun _ => nofun, rfl⟩
  obtain ⟨front, skipped, content, behind, whole, closed, placed, next⟩ :=
    exists_placed (.inl rfl) .start listed
  refine ⟨earlier, record, front, skipped, content, ⟨later, listed⟩, header, ?_, fails,
    ⟨behind, whole, next⟩, closed, placed⟩
  rw [dropped]
  exact usable

/-- A fault names the line on which the search for its record began: behind the line end
that closes the record in front.  The record begins as many lines below as line feeds
were skipped, so that the line named is that of its first byte just if there were none. -/
theorem fault_names_line_of_search (codes : List Char) (format : TableFormat)
    (bytes : List UInt8) (line : Nat) (fault : TypingFault)
    (fails : Table.read codes format bytes = .error (.row line fault)) :
    ∃ earlier record before skipped content,
      Blames codes format bytes (.row line fault) earlier record before skipped content ∧
        line = lineBehind before ∧
        lineBehind (before ++ skipped) = line + skipped.count lineFeed ∧
        (line = lineBehind (before ++ skipped) ↔ lineFeed ∉ skipped) := by
  obtain ⟨earlier, record, before, skipped, content, blames⟩ := exists_blamed fails
  have named : line = lineBehind before := by
    have same := blames.fails
    rw [readRecord] at same
    split at same
    · cases same
    next fields texts =>
      cases typed : Typing.textRow codes fields with
      | ok arguments =>
          rw [typed] at same
          cases same
      | error other =>
          rw [typed] at same
          cases same
          exact blames.placed.named
  refine ⟨earlier, record, before, skipped, content, blames, named, ?_, ?_⟩
  · rw [lineBehind_append, named]
  · rw [lineBehind_append, ← named, ← List.count_eq_zero]
    omega

/-- A heading and two integers, the second of which is none, on three lines that end with
a carriage return and a line feed. -/
def exampleLines : List UInt8 :=
  "n\r\n1\r\nx\r\n".toUTF8.data.toList

def exampleFault : TableFault :=
  .row 2 (.invalidValue 'i' "x" .int32)

/-- The fault is about the record of the third line, but names the second: the carriage
return closed the record in front, and the line feed behind it was skipped. -/
theorem example_fault_names_line_above :
    (∃ earlier record before skipped content,
      Blames ['i'] {} exampleLines exampleFault earlier record before skipped content ∧
        lineBehind (before ++ skipped) = 2 + skipped.count lineFeed) ∧
    Blames ['i'] {} exampleLines exampleFault [⟨1, [[0x6e]]⟩, ⟨1, [[0x31]]⟩] ⟨2, [[0x78]]⟩
      [0x6e, 0x0d, 0x0a, 0x31, 0x0d] [0x0a] [0x78] ∧
    lineBehind [0x6e, 0x0d, 0x0a, 0x31, 0x0d, 0x0a] = 3 := by
  have fails : Table.read ['i'] {} exampleLines = .error exampleFault := by
    decide +kernel
  have first : Placed 0x2c [] [] [0x6e] ⟨1, [[0x6e]]⟩ :=
    ⟨List.forall_mem_nil _, ⟨0x6e, [], rfl, by decide⟩, by decide, rfl⟩
  have second : Placed 0x2c [0x6e, 0x0d] [0x0a] [0x31] ⟨1, [[0x31]]⟩ :=
    ⟨List.forall_mem_singleton.mpr (by decide), ⟨0x31, [], rfl, by decide⟩, by decide, rfl⟩
  have third : Placed 0x2c [0x6e, 0x0d, 0x0a, 0x31, 0x0d] [0x0a] [0x78] ⟨2, [[0x78]]⟩ :=
    ⟨List.forall_mem_singleton.mpr (by decide), ⟨0x78, [], rfl, by decide⟩, by decide, rfl⟩
  have closed : Closed 0x2c [0x6e, 0x0d, 0x0a, 0x31, 0x0d] [⟨1, [[0x6e]]⟩, ⟨1, [[0x31]]⟩] :=
    .record (.record .start first (.inr rfl)) second (.inr rfl)
  refine ⟨?_, ⟨⟨[], by decide +kernel⟩, by decide, ?_, by decide +kernel, ?_, closed, third⟩,
    by decide⟩
  · obtain ⟨earlier, record, before, skipped, content, blames, -, begins, -⟩ :=
      fault_names_line_of_search _ _ _ _ _ fails
    exact ⟨earlier, record, before, skipped, content, blames, begins⟩
  · intro other member
    rw [List.mem_singleton.mp member]
    exact ⟨[.integer 1], by decide +kernel⟩
  · refine ⟨[0x0d, 0x0a], by decide +kernel, ?_⟩
    rintro next ⟨⟩
    exact .inr rfl

end WorkPackage.Table
