import WorkPackage.Table
import WorkPackage.Proofs.Outcome
import WorkPackage.Proofs.Table
import WorkPackage.Proofs.Text.Quoted
import WorkPackage.Proofs.Wire.Field

/-!
# Tables with quoted fields

A table that has every field between double quotes, with the quotes inside written
twice, is read back field by field: delimiters, line ends and blanks between quotes
belong to the field.
-/

namespace WorkPackage.Table

/-- What the fields of a table are written with. -/
structure Marks (α : Type) where
  quote : α
  delimiter : α
  lineEnd : α

namespace Marks

variable {α : Type} [DecidableEq α] (marks : Marks α)

/-- What stands for one item between quotes. -/
def doubled (item : α) : List α :=
  if item = marks.quote then [item, item] else [item]

def field (content : List α) : List α :=
  marks.quote :: (content.flatMap marks.doubled ++ [marks.quote])

def row (contents : List (List α)) : List α :=
  List.intercalate [marks.delimiter] (contents.map marks.field) ++ [marks.lineEnd]

def table (rows : List (List (List α))) : List α :=
  rows.flatMap marks.row

/-- What stands behind the first field of a row. -/
def further (others : List (List α)) : List α :=
  others.flatMap (fun content => marks.delimiter :: marks.field content) ++ [marks.lineEnd]

theorem row_cons (content : List α) (others : List (List α)) :
    marks.row (content :: others) = marks.field content ++ marks.further others := by
  rw [row, List.map_cons, Text.intercalate_cons]
  simp [further, List.flatMap_map]

theorem further_cons (content : List α) (others : List (List α)) :
    marks.further (content :: others) =
      marks.delimiter :: (marks.field content ++ marks.further others) := by
  simp [further]

theorem table_cons (contents : List (List α)) (rows : List (List (List α))) :
    marks.table (contents :: rows) = marks.row contents ++ marks.table rows :=
  List.flatMap_cons

/-- Items are written with others, each mark with the same mark and no other item with
a quote. -/
structure Encodes {β : Type} (encode : α → List β) (marks : Marks α) (coded : Marks β) :
    Prop where
  quote : encode marks.quote = [coded.quote]
  delimiter : encode marks.delimiter = [coded.delimiter]
  lineEnd : encode marks.lineEnd = [coded.lineEnd]
  other : ∀ item, item ≠ marks.quote → coded.quote ∉ encode item

namespace Encodes

variable {β : Type} [DecidableEq β] {encode : α → List β} {marks : Marks α} {coded : Marks β}
  (encodes : Encodes encode marks coded)
include encodes

theorem doubled (item : α) :
    (marks.doubled item).flatMap encode = (encode item).flatMap coded.doubled := by
  by_cases same : item = marks.quote
  · rw [Marks.doubled, if_pos same, same]
    simp [encodes.quote, Marks.doubled]
  · have single : ∀ code ∈ encode item, coded.doubled code = [code] := by
      intro code member
      apply if_neg
      rintro rfl
      exact encodes.other item same member
    rw [Marks.doubled, if_neg same, List.flatMap_congr single, List.flatMap_singleton']
    simp

theorem field (content : List α) :
    (marks.field content).flatMap encode = coded.field (content.flatMap encode) := by
  have inner : (content.flatMap marks.doubled).flatMap encode =
      (content.flatMap encode).flatMap coded.doubled := by
    rw [List.flatMap_assoc, List.flatMap_assoc]
    exact List.flatMap_congr fun item _ => encodes.doubled item
  simp [Marks.field, inner, encodes.quote]

theorem row (contents : List (List α)) :
    (marks.row contents).flatMap encode =
      coded.row (contents.map fun content => content.flatMap encode) := by
  cases contents with
  | nil => simp [Marks.row, encodes.lineEnd]
  | cons content others =>
      have behind : (marks.further others).flatMap encode =
          coded.further (others.map fun content => content.flatMap encode) := by
        simp [Marks.further, List.flatMap_assoc, List.flatMap_map, encodes.delimiter,
          encodes.lineEnd, encodes.field]
      rw [row_cons, List.flatMap_append, encodes.field, behind, List.map_cons, row_cons]

theorem table (rows : List (List (List α))) :
    (marks.table rows).flatMap encode =
      coded.table (rows.map fun contents => contents.map fun content =>
        content.flatMap encode) := by
  simp [Marks.table, List.flatMap_assoc, List.flatMap_map, encodes.row]

end Encodes

end Marks

section Bytes

variable {delimiter : UInt8} {scan : Scan} {content rest : List UInt8}

def byteMarks (delimiter : UInt8) : Marks UInt8 where
  quote := quote
  delimiter := delimiter
  lineEnd := lineFeed

/-- Between quotes every byte is taken, and two quotes for one. -/
theorem recordsFrom_doubled (quoted : scan.place = .quoted) :
    recordsFrom delimiter scan (content.flatMap (byteMarks delimiter).doubled ++ rest) =
      recordsFrom delimiter
        { scan with
          field := content.reverse ++ scan.field
          line := scan.line + content.count lineFeed } rest := by
  induction content generalizing scan with
  | nil => rfl
  | cons byte content induction =>
      obtain ⟨place, field, fields, start, line⟩ := scan
      cases quoted
      rw [List.flatMap_cons, List.append_assoc, Marks.doubled]
      split
      next same =>
        -- The first of two quotes could close the field; the second says that it does not.
        have first : Scan.step delimiter ⟨.quoted, field, fields, start, line⟩ byte =
            (⟨.behindQuote, field, fields, start, line⟩, none) := by
          rw [same]
          rfl
        have second : Scan.step delimiter ⟨.behindQuote, field, fields, start, line⟩ byte =
            (⟨.quoted, byte :: field, fields, start, line⟩, none) := by
          rw [same]
          rfl
        rw [List.cons_append, recordsFrom_of_step first, List.cons_append,
          recordsFrom_of_step second, List.nil_append, induction rfl]
        have apart : byte ≠ lineFeed := by
          rw [same]
          exact (by decide : quote ≠ lineFeed)
        simp [apart]
      next other =>
        have taken : Scan.step delimiter ⟨.quoted, field, fields, start, line⟩ byte =
            (⟨.quoted, byte :: field, fields, start, line + [byte].count lineFeed⟩,
              none) := by
          rw [Scan.step, Scan.line_step]
          exact if_neg other
        rw [List.cons_append, recordsFrom_of_step taken, List.nil_append, induction rfl,
          ← List.singleton_append (l := content), List.count_append]
        simp [Nat.add_assoc]

/-- A quoted field is read as it is; the scan stands behind its closing quote. -/
theorem recordsFrom_field {place : Place} {fields : List (List UInt8)} {start line : Nat}
    (opens : place.Seeks ∨ place = .fieldStart) :
    recordsFrom delimiter ⟨place, [], fields, start, line⟩
        ((byteMarks delimiter).field content ++ rest) =
      recordsFrom delimiter
        ⟨.behindQuote, content.reverse, fields, start, line + content.count lineFeed⟩
        rest := by
  have opened : Scan.step delimiter ⟨place, [], fields, start, line⟩ quote =
      (⟨.quoted, [], fields, start, line⟩, none) := by
    rcases opens with (rfl | rfl) | rfl <;> rfl
  have closed : Scan.step delimiter
      ⟨.quoted, content.reverse, fields, start, line + content.count lineFeed⟩ quote =
      (⟨.behindQuote, content.reverse, fields, start, line + content.count lineFeed⟩,
        none) := rfl
  rw [Marks.field, List.cons_append, List.append_assoc]
  change recordsFrom delimiter _ (quote :: _) = _
  rw [recordsFrom_of_step opened, recordsFrom_doubled rfl]
  change recordsFrom delimiter _ (quote :: _) = _
  rw [List.append_nil, recordsFrom_of_step closed]
  rfl

variable (unquoted : delimiter ≠ quote) (unended : delimiter ≠ lineFeed)

include unquoted unended in
/-- Behind a quoted field the others follow, and then the record is complete. -/
theorem recordsFrom_further (others : List (List UInt8)) (rest done : List UInt8)
    (fields : List (List UInt8)) (start line : Nat) :
    ∃ behind, recordsFrom delimiter ⟨.behindQuote, done.reverse, fields, start, line⟩
        ((byteMarks delimiter).further others ++ rest) =
      ⟨start, fields.reverse ++ done :: others⟩ ::
        recordsFrom delimiter (.atLine .between behind) rest := by
  induction others generalizing done fields line with
  | nil =>
      have ends : Scan.step delimiter ⟨.behindQuote, done.reverse, fields, start, line⟩
          lineFeed =
          (.atLine .between (line + 1), some ⟨start, fields.reverse ++ [done]⟩) := by
        have apart : lineFeed ≠ quote := by decide
        simp [Scan.step, Scan.stepPlain, apart, unended.symm, Scan.record]
      exact ⟨line + 1, recordsFrom_of_close ends⟩
  | cons content others induction =>
      have parts : Scan.step delimiter ⟨.behindQuote, done.reverse, fields, start, line⟩
          delimiter = (⟨.fieldStart, [], done :: fields, start, line⟩, none) := by
        simp [Scan.step, Scan.stepPlain, Scan.endField, unquoted, unended]
      obtain ⟨behind, read⟩ :=
        induction content (done :: fields) (line + content.count lineFeed)
      refine ⟨behind, ?_⟩
      rw [Marks.further_cons, List.cons_append, List.append_assoc]
      change recordsFrom delimiter _ (delimiter :: _) = _
      rw [recordsFrom_of_step parts, recordsFrom_field (.inr rfl), read, List.reverse_cons,
        List.append_assoc]
      rfl

include unquoted unended in
/-- A table with quoted fields has one record for each of its rows. -/
theorem fields_recordsFrom_table {rows : List (List (List UInt8))}
    (written : ∀ contents ∈ rows, contents ≠ []) (line : Nat) :
    (recordsFrom delimiter (.atLine .between line) ((byteMarks delimiter).table rows)).map
      Record.fields = rows := by
  induction rows generalizing line with
  | nil => rfl
  | cons contents rows induction =>
      obtain ⟨some, others⟩ := List.forall_mem_cons.mp written
      obtain ⟨content, later, rfl⟩ := List.exists_cons_of_ne_nil some
      obtain ⟨behind, read⟩ := recordsFrom_further unquoted unended later
        ((byteMarks delimiter).table rows) content [] line (line + content.count lineFeed)
      rw [Marks.table_cons, Marks.row_cons, List.append_assoc, Scan.atLine,
        recordsFrom_field (.inl (.inl rfl)), read, List.map_cons, induction others]
      rfl

end Bytes

section Texts

/-- The bytes of a text. -/
def utf8 (text : List Char) : List UInt8 :=
  text.flatMap String.utf8EncodeChar

theorem toUTF8_toList (text : String) : text.toUTF8.data.toList = utf8 text.toList := by
  rw [← String.ofList_toList (s := text), String.toUTF8, String.toByteArray_ofList,
    List.utf8Encode, List.data_toByteArray, List.toList_toArray, String.toList_ofList, utf8]

def textMarks (delimiter : Char) : Marks Char where
  quote := '\x22'
  delimiter := delimiter
  lineEnd := '\n'

theorem utf8EncodeChar_ascii {character : Char} (ascii : character.toNat < 128) :
    String.utf8EncodeChar character = [character.toUInt8] :=
  String.utf8EncodeChar_eq_singleton
    (Char.utf8Size_eq_one_iff.mpr (Nat.le_of_lt_succ ascii))

/-- No other character has the byte of a quote in it. -/
theorem quote_not_mem {character : Char} (other : character ≠ '\x22') :
    quote ∉ String.utf8EncodeChar character := by
  have code : character.val.toNat ≠ 0x22 := fun same => other (Char.toNat_inj.mp same)
  have apart : ∀ number, number % 256 ≠ 0x22 → quote ≠ UInt8.ofNat number := by
    rintro number unlike same
    have value : 0x22 = (UInt8.ofNat number).toNat := congrArg UInt8.toNat same
    rw [UInt8.toNat_ofNat'] at value
    exact unlike value.symm
  unfold String.utf8EncodeChar
  dsimp only
  split
  · rw [List.mem_singleton]
    exact apart _ (by omega)
  · split
    · simp only [List.mem_cons, List.not_mem_nil, or_false, not_or]
      exact ⟨apart _ (by omega), apart _ (by omega)⟩
    · split
      · simp only [List.mem_cons, List.not_mem_nil, or_false, not_or]
        exact ⟨apart _ (by omega), apart _ (by omega), apart _ (by omega)⟩
      · simp only [List.mem_cons, List.not_mem_nil, or_false, not_or]
        exact ⟨apart _ (by omega), apart _ (by omega), apart _ (by omega),
          apart _ (by omega)⟩

/-- A text with quoted fields is a file with quoted fields. -/
theorem utf8_encodes {delimiter : Char} (ascii : delimiter.toNat < 128) :
    Marks.Encodes String.utf8EncodeChar (textMarks delimiter)
      (byteMarks delimiter.toUInt8) where
  quote := utf8EncodeChar_ascii (by decide : '\x22'.toNat < 128)
  delimiter := utf8EncodeChar_ascii ascii
  lineEnd := utf8EncodeChar_ascii (by decide : '\n'.toNat < 128)
  other _ := quote_not_mem

/-- The text of a table with every field in double quotes. -/
def quotedTable (delimiter : Char) (rows : List (List String)) : String :=
  String.ofList ((textMarks delimiter).table (rows.map (·.map String.toList)))

theorem toUInt8_ne {left right : Char} (small : left.toNat < 128) (other : right.toNat < 128)
    (distinct : left ≠ right) : left.toUInt8 ≠ right.toUInt8 := by
  intro same
  have value := congrArg UInt8.toNat same
  simp only [Char.toUInt8, UInt32.toNat_toUInt8] at value
  have codes : left.toNat % 256 = right.toNat % 256 := value
  exact distinct (Char.toNat_inj.mp (by omega))

/-- A file that opens with a quote has no mark of the byte order. -/
theorem withoutMark_table {delimiter : UInt8} {rows : List (List (List UInt8))}
    (written : ∀ contents ∈ rows, contents ≠ []) :
    withoutMark ((byteMarks delimiter).table rows) = (byteMarks delimiter).table rows := by
  cases rows with
  | nil => rfl
  | cons contents rows =>
      obtain ⟨some, -⟩ := List.forall_mem_cons.mp written
      obtain ⟨content, others, rfl⟩ := List.exists_cons_of_ne_nil some
      rw [Marks.table_cons, Marks.row_cons]
      rfl

section Files

variable {delimiter : Char} {rows : List (List String)} (ascii : delimiter.toNat < 128)
  (unquoted : delimiter ≠ '\x22') (unended : delimiter ≠ '\n')

include ascii unquoted unended in
theorem fields_records (written : ∀ row ∈ rows, row ≠ []) :
    (records delimiter.toUInt8 (quotedTable delimiter rows).toUTF8.data.toList).map
        Record.fields =
      rows.map (·.map fun text => text.toUTF8.data.toList) := by
  have coded : (quotedTable delimiter rows).toUTF8.data.toList =
      (byteMarks delimiter.toUInt8).table
        (rows.map (·.map fun text => text.toUTF8.data.toList)) := by
    rw [toUTF8_toList, quotedTable, String.toList_ofList, utf8, (utf8_encodes ascii).table]
    simp only [List.map_map, Function.comp_def, toUTF8_toList, utf8]
  have some : ∀ contents ∈ rows.map (·.map fun text => text.toUTF8.data.toList),
      contents ≠ [] := by
    intro contents member
    obtain ⟨row, inside, rfl⟩ := List.mem_map.mp member
    simpa using written row inside
  rw [coded, records, withoutMark_table some]
  exact fields_recordsFrom_table (toUInt8_ne ascii (by decide) unquoted)
    (toUInt8_ne ascii (by decide) unended) some 1

end Files

end Texts

section Cells

variable {codes : List Char} {row : List String}

/-- What a cell of text or of bytes is stored as. -/
def stored (code : Char) (text : String) : Argument :=
  if code = 't' then .text text else .bytes text.toUTF8

theorem textRow_stored (verbatim : ∀ code ∈ codes, code = 't' ∨ code = 'v')
    (full : row.length = codes.length) :
    Typing.textRow codes row = .ok (List.zipWith stored codes row) := by
  rw [Typing.textRow, Typing.row, if_neg (by simp [full])]
  apply mapM_eq_ok_iff.mpr
  rw [← List.map_uncurry_zip_eq_zipWith, List.forall₂_map_right_iff, List.forall₂_same]
  rintro ⟨code, text⟩ member
  rcases verbatim code (List.of_mem_zip member).1 with rfl | rfl <;> rfl

theorem fieldTexts?_eq {record : Record}
    (fields : record.fields = row.map fun text => text.toUTF8.data.toList) :
    fieldTexts? record = some row := by
  rw [fieldTexts?, fields]
  clear fields
  induction row with
  | nil => rfl
  | cons text row induction =>
      have whole : String.fromUTF8? ⟨text.toUTF8.data.toList.toArray⟩ = some text :=
        Wire.Field.fromUTF8?_eq_some_iff.mpr rfl
      rw [List.map_cons, List.mapM_cons, whole, induction]
      rfl

theorem readRecord_stored {record : Record}
    (verbatim : ∀ code ∈ codes, code = 't' ∨ code = 'v') (full : row.length = codes.length)
    (fields : record.fields = row.map fun text => text.toUTF8.data.toList) :
    readRecord codes record = .ok (List.zipWith stored codes row) := by
  rw [readRecord, fieldTexts?_eq fields]
  dsimp only
  rw [textRow_stored verbatim full]
  rfl

end Cells

/-- Texts that are written between double quotes are stored as they are in columns of
text, and as their bytes in columns of bytes: one row for each row of the table, in
order, without the first if that is a header. -/
theorem quoted_cells_are_stored_verbatim (codes : List Char) (rows : List (List String))
    (delimiter : Char) (hasHeaders : Bool) (some : codes ≠ [])
    (verbatim : ∀ code ∈ codes, code = 't' ∨ code = 'v')
    (full : ∀ row ∈ rows, row.length = codes.length) (ascii : delimiter.toNat < 128)
    (unquoted : delimiter ≠ '\x22') (unended : delimiter ≠ '\n') :
    Table.read codes { delimiter := delimiter.toUInt8, hasHeaders }
        (quotedTable delimiter rows).toUTF8.data.toList =
      .ok ((if hasHeaders then rows.drop 1 else rows).map (List.zipWith stored codes)) := by
  have written : ∀ row ∈ rows, row ≠ [] := by
    rintro row member rfl
    exact some (List.length_eq_zero_iff.mp (full [] member).symm)
  have fields := fields_records ascii unquoted unended written
  have paired : List.Forall₂
      (fun record row => readRecord codes record = .ok (List.zipWith stored codes row))
      (records delimiter.toUInt8 (quotedTable delimiter rows).toUTF8.data.toList) rows := by
    rw [eq_comm, ← List.forall₂_eq_eq_eq, List.forall₂_map_left_iff,
      List.forall₂_map_right_iff] at fields
    refine (List.Forall₂.imp ?_ ((List.forall₂_and_left _ _).mpr ⟨full, fields⟩)).flip
    rintro row record ⟨counted, same⟩
    exact readRecord_stored verbatim counted same.symm
  rw [Table.read]
  apply mapM_eq_ok_iff.mpr
  rw [List.forall₂_map_right_iff]
  cases hasHeaders with
  | false => exact paired
  | true => exact List.forall₂_drop 1 paired

/-- Rows of a text and of bytes, with a delimiter, quotes and line ends inside and with
an empty field. -/
def exampleRows : List (List String) :=
  [["name", "data"], ["a;\"b\"\r\n", " \u00e9 "], ["", "\ufeff"]]

theorem example_rows_are_stored_verbatim :
    Table.read ['t', 'v'] { delimiter := 0x3b }
        (quotedTable ';' exampleRows).toUTF8.data.toList =
      .ok
        [[.text "a;\"b\"\r\n", .bytes ⟨#[0x20, 0xc3, 0xa9, 0x20]⟩],
          [.text "", .bytes ⟨#[0xef, 0xbb, 0xbf]⟩]] :=
  quoted_cells_are_stored_verbatim _ exampleRows ';' true (by decide) (by simp) (by decide)
    (by decide) (by decide) (by decide)

end WorkPackage.Table
