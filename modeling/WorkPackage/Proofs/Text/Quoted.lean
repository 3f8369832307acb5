import WorkPackage.Text.Quoted
import Mathlib.Data.List.TakeWhile

/-!
# Laws of quoted text

What stands for a character or a byte between quotes can be split off the front of a
longer text, whatever follows there, and it never starts like the closing quote of a
text.  So a quoted text ends where its closing quote is, and no two texts are quoted
alike.
-/

namespace WorkPackage.Text

variable {α : Type} {write : α → List Char} {behind beyond : List Char}

/-- Joined texts are the first one and each of the others behind a separator. -/
theorem intercalate_cons (separator first : List α) (others : List (List α)) :
    List.intercalate separator (first :: others) =
      first ++ others.flatMap fun other => separator ++ other := by
  induction others generalizing first with
  | nil => simp [List.intercalate_singleton]
  | cons next others induction =>
      rw [List.intercalate_cons_cons, induction]
      simp

section Splitting

/-- What is written can be split off the front of a longer text, provided that the
rest of it is one of those that end it. -/
def Splits (ends : List Char → Prop) (write : α → List Char) : Prop :=
  ∀ ⦃left right : α⦄ ⦃behind beyond : List Char⦄, ends behind → ends beyond →
    write left ++ behind = write right ++ beyond → left = right ∧ behind = beyond

/-- What is written can be split off the front of a longer text, whatever follows. -/
def PrefixFree (write : α → List Char) : Prop :=
  Splits (fun _ => True) write

/-- A text that does not go on with the characters of a run. -/
def Stops (inside : Char → Bool) (behind : List Char) : Prop :=
  ∀ next ∈ behind.head?, inside next = false

variable {inside : Char → Bool}

theorem takeWhile_run {run : List Char} (all : ∀ character ∈ run, inside character = true)
    (stops : Stops inside behind) : (run ++ behind).takeWhile inside = run := by
  rw [List.takeWhile_append_of_pos all]
  cases behind with
  | nil => simp
  | cons next behind =>
      have outside : inside next = false := stops next rfl
      simp [outside]

theorem splits_of_run (all : ∀ item, ∀ character ∈ write item, inside character = true)
    (injective : Function.Injective write) : Splits (Stops inside) write := by
  intro left right behind beyond stops stopsBeyond same
  have run : write left = write right := by
    rw [← takeWhile_run (all left) stops, same, takeWhile_run (all right) stopsBeyond]
  rw [run] at same
  exact ⟨injective run, List.append_cancel_left same⟩

theorem Splits.comp {β : Type} {ends : List Char → Prop} {see : β → α}
    (splits : Splits ends write) (injective : Function.Injective see) :
    Splits ends fun item => write (see item) := by
  intro left right behind beyond stops stopsBeyond same
  obtain ⟨equal, rest⟩ := splits stops stopsBeyond same
  exact ⟨injective equal, rest⟩

theorem PrefixFree.splits (free : PrefixFree write) (ends : List Char → Prop) :
    Splits ends write :=
  fun _ _ _ _ _ _ same => free trivial trivial same

theorem Stops.cons {next : Char} (outside : inside next = false) (behind : List Char) :
    Stops inside (next :: behind) := by
  rintro character ⟨⟩
  exact outside

theorem Splits.before (splits : Splits (Stops inside) write) {next : Char}
    (outside : inside next = false) (back : List Char) :
    PrefixFree fun item => write item ++ next :: back := by
  intro left right behind beyond _ _ same
  simp only [List.append_assoc, List.cons_append] at same
  obtain ⟨rfl, rest⟩ := splits (.cons outside _) (.cons outside _) same
  simpa using rest

theorem PrefixFree.after (free : PrefixFree write) (front : List Char) :
    PrefixFree fun item => front ++ write item := by
  intro left right behind beyond _ _ same
  simp only [List.append_assoc, List.append_cancel_left_eq] at same
  exact free trivial trivial same

theorem PrefixFree.before (free : PrefixFree write) (back : List Char) :
    PrefixFree fun item => write item ++ back := by
  intro left right behind beyond _ _ same
  simp only [List.append_assoc] at same
  obtain ⟨rfl, rest⟩ := free trivial trivial same
  exact ⟨rfl, List.append_cancel_left rest⟩

/-- Items that are written one behind the other end at a character with which none
of them starts. -/
theorem PrefixFree.flatMap (free : PrefixFree write) {close : Char}
    (starts : ∀ item, ∃ first others, write item = first :: others ∧ first ≠ close) :
    PrefixFree fun items : List α => items.flatMap write ++ [close] := by
  intro left
  induction left with
  | nil =>
      intro right behind beyond _ _ same
      cases right with
      | nil => exact ⟨rfl, by simpa using same⟩
      | cons item items =>
          obtain ⟨first, others, written, apart⟩ := starts item
          simp [written, apart.symm] at same
  | cons item items induction =>
      intro right behind beyond _ _ same
      cases right with
      | nil =>
          obtain ⟨first, others, written, apart⟩ := starts item
          simp [written, apart] at same
      | cons other others =>
          simp only [List.flatMap_cons, List.append_assoc] at same
          obtain ⟨rfl, later⟩ := free trivial trivial same
          simp only [← List.append_assoc] at later
          obtain ⟨rfl, rest⟩ := induction trivial trivial later
          exact ⟨rfl, rest⟩

end Splitting

section Escapes

/-- Characters and the letters that stand for them behind a backslash. -/
structure Letters where
  table : List (Char × Char)
  /-- The letter that announces a long form instead. -/
  mark : Char
  unmarked : ∀ entry ∈ table, entry.2 ≠ mark
  unique : ∀ entry ∈ table, ∀ other ∈ table, entry.2 = other.2 → entry.1 = other.1

/-- How an item that stands for a character is escaped: with a letter of its own, in
the long form, or not at all. -/
inductive Escaped (letters : Letters) (long : α → List Char) (plain : α → Char)
    (item : α) : List Char → Prop where
  | short {letter : Char} (listed : (plain item, letter) ∈ letters.table) :
      Escaped letters long plain item ['\\', letter]
  | long : Escaped letters long plain item ('\\' :: letters.mark :: long item)
  | plain (solid : plain item ≠ '\\') : Escaped letters long plain item [plain item]

theorem prefixFree_of_escaped {letters : Letters} {long : α → List Char} {plain : α → Char}
    (escaped : ∀ item, Escaped letters long plain item (write item))
    (free : PrefixFree long) (injective : Function.Injective plain) : PrefixFree write := by
  intro left right behind beyond _ _
  have escapedLeft := escaped left
  have escapedRight := escaped right
  generalize write left = written at escapedLeft ⊢
  generalize write right = other at escapedRight ⊢
  intro same
  cases escapedLeft with
  | short listed =>
      have unmarked := letters.unmarked _ listed
      cases escapedRight with
      | short listedRight =>
          simp only [List.cons_append, List.nil_append, List.cons.injEq, true_and] at same
          exact ⟨injective (letters.unique _ listed _ listedRight same.1), same.2⟩
      | long => simp [unmarked] at same
      | plain solid => simp [solid.symm] at same
  | long =>
      cases escapedRight with
      | short listed => simp [(letters.unmarked _ listed).symm] at same
      | long =>
          simp only [List.cons_append, List.cons.injEq, true_and] at same
          exact free trivial trivial same
      | plain solid => simp [solid.symm] at same
  | plain solid =>
      cases escapedRight with
      | short listed => simp [solid] at same
      | long => simp [solid] at same
      | plain _ =>
          simp only [List.cons_append, List.nil_append, List.cons.injEq] at same
          exact ⟨injective same.1, same.2⟩

end Escapes

section Hexadecimal

theorem digitChar_injective : ∀ left < 16, ∀ right < 16,
    Nat.digitChar left = Nat.digitChar right → left = right := by
  decide

theorem hexDigits_single {number : Nat} (single : number < 16) :
    hexDigits number = [Nat.digitChar number] := by
  rw [hexDigits, if_pos single]

theorem hexDigits_many {number : Nat} (many : ¬number < 16) :
    hexDigits number = hexDigits (number / 16) ++ [Nat.digitChar (number % 16)] := by
  rw [hexDigits, if_neg many]

theorem hexDigits_ne_nil (number : Nat) : hexDigits number ≠ [] := by
  rw [hexDigits]
  split <;> simp

theorem hexDigits_injective : Function.Injective hexDigits := by
  intro left
  induction left using hexDigits.induct with
  | case1 left single =>
      intro right same
      by_cases other : right < 16
      · rw [hexDigits_single single, hexDigits_single other] at same
        exact digitChar_injective left single right other (List.head_eq_of_cons_eq same)
      · rw [hexDigits_single single, hexDigits_many other, ← List.nil_append [_]] at same
        have empty := List.append_inj_left' same rfl
        exact absurd empty.symm (hexDigits_ne_nil _)
  | case2 left many induction =>
      intro right same
      by_cases other : right < 16
      · rw [hexDigits_many many, hexDigits_single other, ← List.nil_append [right.digitChar]]
          at same
        exact absurd (List.append_inj_left' same rfl) (hexDigits_ne_nil _)
      · rw [hexDigits_many many, hexDigits_many other] at same
        obtain ⟨front, last⟩ := List.append_inj' same rfl
        have quotient := induction front
        have remainder := digitChar_injective _ (Nat.mod_lt left (by decide)) _
          (Nat.mod_lt right (by decide)) (List.head_eq_of_cons_eq last)
        omega

theorem digitChar_ne_brace : ∀ number < 16, Nat.digitChar number ≠ '\x7d' := by
  decide

theorem hexDigits_ne_brace (number : Nat) :
    ∀ digit ∈ hexDigits number, (digit != '\x7d') = true := by
  induction number using hexDigits.induct with
  | case1 number single =>
      rw [hexDigits_single single]
      simp
  | case2 number many induction =>
      rw [hexDigits_many many]
      intro digit member
      rcases List.mem_append.mp member with front | last
      · exact induction digit front
      · rw [List.mem_singleton.mp last]
        exact bne_iff_ne.mpr (digitChar_ne_brace _ (Nat.mod_lt number (by decide)))

end Hexadecimal

section Characters

def textLetters : Letters where
  table := [('\x00', '0'), ('\t', 't'), ('\r', 'r'), ('\n', 'n'), ('\x22', '\x22'),
    ('\\', '\\')]
  mark := 'u'
  unmarked := by decide
  unique := by decide

/-- A character by its number, between braces. -/
def braced (character : Char) : List Char :=
  '\x7b' :: hexDigits character.toNat ++ ['\x7d']

theorem braced_prefixFree : PrefixFree braced := by
  have digits := splits_of_run hexDigits_ne_brace hexDigits_injective
  have numbers := digits.comp (fun _ _ => Char.toNat_inj.mp)
  exact (numbers.before (bne_self_eq_false '\x7d') []).after ['\x7b']

theorem quotedCharacter_escaped (character : Char) :
    Escaped textLetters braced id character (quotedCharacter character) := by
  unfold quotedCharacter
  split
  case h_7 other _ _ _ _ _ solid =>
    split
    · exact .long
    · exact .plain solid
  all_goals exact .short (by decide)

theorem quotedCharacter_starts (character : Char) :
    ∃ first others, quotedCharacter character = first :: others ∧ first ≠ '\x22' := by
  unfold quotedCharacter
  split
  case h_7 other _ _ _ _ unquoted _ =>
    split
    · exact ⟨_, _, rfl, by decide⟩
    · exact ⟨_, _, rfl, unquoted⟩
  all_goals exact ⟨_, _, rfl, by decide⟩

theorem quotedCharacter_prefixFree : PrefixFree quotedCharacter :=
  prefixFree_of_escaped quotedCharacter_escaped braced_prefixFree Function.injective_id

theorem quoted_prefixFree : PrefixFree quoted :=
  (quotedCharacter_prefixFree.flatMap quotedCharacter_starts).after ['\x22']

end Characters

section Bytes

def byteLetters : Letters where
  table := [('\t', 't'), ('\r', 'r'), ('\n', 'n'), ('\x27', '\x27'), ('\x22', '\x22'),
    ('\\', '\\')]
  mark := 'x'
  unmarked := by decide
  unique := by decide

/-- The two hexadecimal digits of a byte. -/
def octet (byte : UInt8) : List Char :=
  [Nat.digitChar (byte.toNat / 16), Nat.digitChar (byte.toNat % 16)]

theorem octet_prefixFree : PrefixFree octet := by
  intro left right behind beyond _ _ same
  simp only [octet, List.cons_append, List.nil_append, List.cons.injEq] at same
  obtain ⟨high, low, rest⟩ := same
  have boundLeft := left.toNat_lt
  have boundRight := right.toNat_lt
  have quotient := digitChar_injective _ (by omega) _ (by omega) high
  have remainder := digitChar_injective _ (by omega) _ (by omega) low
  refine ⟨UInt8.toNat_inj.mp ?_, rest⟩
  omega

/-- The character that has a byte as its number. -/
def ofByte (byte : UInt8) : Char :=
  Char.ofNat byte.toNat

theorem toNat_ofByte (byte : UInt8) : (ofByte byte).toNat = byte.toNat := by
  have valid : byte.toNat.isValidChar := .inl (byte.toNat_lt.trans (by decide))
  rw [ofByte, Char.ofNat, dif_pos valid]
  rfl

theorem ofByte_injective : Function.Injective ofByte := by
  intro left right same
  apply UInt8.toNat_inj.mp
  rw [← toNat_ofByte, same, toNat_ofByte]

theorem quotedByteContent_escaped (byte : UInt8) :
    Escaped byteLetters octet ofByte byte (quotedByteContent byte) := by
  unfold quotedByteContent
  split
  case h_7 other _ _ _ _ _ solid =>
    split
    · exact .plain solid
    · exact .long
  all_goals
    next same =>
      apply Escaped.short
      rw [ofByte, same]
      decide

theorem quotedByteContent_prefixFree : PrefixFree quotedByteContent :=
  prefixFree_of_escaped quotedByteContent_escaped octet_prefixFree ofByte_injective

theorem quotedByte_prefixFree : PrefixFree quotedByte :=
  (quotedByteContent_prefixFree.after ['\x27']).before ['\x27']

end Bytes

end WorkPackage.Text
