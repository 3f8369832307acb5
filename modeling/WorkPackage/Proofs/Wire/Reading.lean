import WorkPackage.Wire.Structure

/-!
# Laws of readers

A reader that is put together from others answers with a value exactly when its
parts do, one behind the other.  `Inverts` says that a reader takes just the
bytes that a writer yields, and is kept by sequence and repetition.  `Forward`
says that whatever it leaves is the end of what it was given, as every `Plain`
reader does.
-/

namespace WorkPackage.Wire

section Outcome

variable {ε α β : Type}

/-- A sequence succeeds exactly when both of its parts do. -/
theorem bind_eq_ok_iff {outcome : Except ε α} {next : α → Except ε β}
    {result : β} :
    (outcome >>= next) = .ok result ↔
      ∃ middle, outcome = .ok middle ∧ next middle = .ok result := by
  cases outcome with
  | ok middle => simp [bind, Except.bind]
  | error fault => simp [bind, Except.bind]

theorem pure_eq_ok_iff {answer result : α} :
    (pure answer : Except ε α) = .ok result ↔ answer = result := by
  simp [pure, Except.pure]

end Outcome

theorem encodeEach_cons_eq_ok_iff {α : Type}
    {encode : α → Except Fault (List UInt8)} {item : α} {items : List α}
    {bytes : List UInt8} :
    encodeEach encode (item :: items) = .ok bytes ↔
      ∃ first, encode item = .ok first ∧
        ∃ others, encodeEach encode items = .ok others ∧
          first ++ others = bytes := by
  simp only [encodeEach, bind_eq_ok_iff, pure_eq_ok_iff]

namespace Reader

variable {α β : Type}

theorem pure_eq_value_iff {result answer : α} {input rest : List UInt8} :
    (Pure.pure result : Reader α) input = .value answer rest ↔
      result = answer ∧ input = rest := by
  simp

theorem refuse_eq_value_iff {refused : Prop} [Decidable refused]
    {cause : Fault} {next : Reader α} {input rest : List UInt8} {answer : α} :
    (if refused then fail cause else next) input = .value answer rest ↔
      ¬refused ∧ next input = .value answer rest := by
  by_cases applies : refused <;> simp [applies, fail]

theorem fail_ne_value {cause : Fault} {input rest : List UInt8} {answer : α} :
    fail cause input ≠ .value answer rest := by
  simp [fail]

theorem bind_eq_value_iff {first : Reader α} {next : α → Reader β}
    {input rest : List UInt8} {answer : β} :
    (first >>= next) input = .value answer rest ↔
      ∃ middle left, first input = .value middle left ∧
        next middle left = .value answer rest := by
  rw [bind_apply]
  cases first input with
  | value middle left => simp [and_assoc]
  | fault cause left => simp

/-- Wrapping what is read changes nothing but the value. -/
theorem wrap_eq_value_iff {field : Reader α} {wrap : α → β}
    {input rest : List UInt8} {answer : β} :
    (do return wrap (← field) : Reader β) input = .value answer rest ↔
      ∃ value, field input = .value value rest ∧ wrap value = answer := by
  rw [bind_eq_value_iff]
  constructor
  · intro success
    obtain ⟨value, left, found, finish⟩ := success
    obtain ⟨rfl, rfl⟩ := pure_eq_value_iff.mp finish
    exact ⟨value, found, rfl⟩
  · intro success
    obtain ⟨value, found, rfl⟩ := success
    exact ⟨value, rest, found, rfl⟩

theorem whole_eq_ok_iff {item : Reader α} {input : List UInt8} {answer : α} :
    item.whole input = .ok answer ↔ item input = .value answer [] := by
  unfold whole
  cases item input with
  | value result rest => cases rest <;> simp
  | fault cause rest => simp

theorem take_eq_value_iff {count : Nat} {input taken rest : List UInt8} :
    take count input = .value taken rest ↔
      taken.length = count ∧ input = taken ++ rest := by
  simp only [take]
  constructor
  · intro success
    split at success
    next enough =>
      cases success
      exact ⟨enough, (List.take_append_drop count input).symm⟩
    next => contradiction
  · intro success
    obtain ⟨rfl, rfl⟩ := success
    simp

/-- The reader answers with valid values only, and takes for each of them just
the bytes that are written for it, whatever follows. -/
def Inverts (item : Reader α) (valid : α → Prop)
    (encode : α → Except Fault (List UInt8)) : Prop :=
  ∀ input value rest, item input = .value value rest ↔
    valid value ∧ ∃ bytes, encode value = .ok bytes ∧ input = bytes ++ rest

/-- Wrapping what is read goes with wrapping what is written. -/
theorem Inverts.wrap {item : Reader α} {wrap : α → β}
    {valid : α → Prop} {encode : α → Except Fault (List UInt8)}
    {wrapped : β → Prop} {encodeWrapped : β → Except Fault (List UInt8)}
    (inverts : item.Inverts valid encode)
    (known : ∀ answer, wrapped answer ↔
      ∃ value, wrap value = answer ∧ valid value)
    (same : ∀ value, encodeWrapped (wrap value) = encode value) :
    (do return wrap (← item) : Reader β).Inverts wrapped encodeWrapped := by
  intro input answer rest
  rw [wrap_eq_value_iff]
  constructor
  · intro success
    obtain ⟨value, found, rfl⟩ := success
    obtain ⟨valued, bytes, written, rfl⟩ := (inverts _ _ _).mp found
    refine ⟨(known _).mpr ⟨value, rfl, valued⟩, bytes, ?_, rfl⟩
    rw [same, written]
  · intro success
    obtain ⟨recognized, bytes, written, rfl⟩ := success
    obtain ⟨value, rfl, valued⟩ := (known answer).mp recognized
    rw [same] at written
    exact ⟨value, (inverts _ _ _).mpr ⟨valued, bytes, written, rfl⟩, rfl⟩

/-- What is left is the end of the input. -/
def Forward (item : Reader α) : Prop :=
  ∀ input, (item input).rest <:+ input

theorem repeated_succ (item : Reader α) (count : Nat) :
    item.repeated (count + 1) = (do
      let first ← item
      let others ← item.repeated count
      return first :: others) :=
  rfl

/-- Repetition inverts the writing of a list of as many members. -/
theorem Inverts.repeated {item : Reader α} {valid : α → Prop}
    {encode : α → Except Fault (List UInt8)}
    (inverts : item.Inverts valid encode) (count : Nat) :
    (item.repeated count).Inverts
      (fun values => values.length = count ∧ ∀ value ∈ values, valid value)
      (encodeEach encode) := by
  induction count with
  | zero =>
      intro input values rest
      constructor
      · intro success
        cases success
        exact ⟨⟨rfl, by simp⟩, [], rfl, rfl⟩
      · intro success
        obtain ⟨⟨empty, _⟩, bytes, written, rfl⟩ := success
        obtain rfl := List.eq_nil_of_length_eq_zero empty
        cases written
        rfl
  | succ count induction =>
      intro input values rest
      rw [repeated_succ, bind_eq_value_iff]
      constructor
      · intro success
        obtain ⟨first, left, firstRead, continued⟩ := success
        obtain ⟨others, left', othersRead, finish⟩ :=
          bind_eq_value_iff.mp continued
        obtain ⟨rfl, rfl⟩ := pure_eq_value_iff.mp finish
        obtain ⟨firstValid, firstBytes, firstWritten, rfl⟩ :=
          (inverts _ _ _).mp firstRead
        obtain ⟨⟨rfl, othersValid⟩, othersBytes, othersWritten, rfl⟩ :=
          (induction _ _ _).mp othersRead
        have written : encodeEach encode (first :: others) =
            .ok (firstBytes ++ othersBytes) :=
          encodeEach_cons_eq_ok_iff.mpr
            ⟨_, firstWritten, _, othersWritten, rfl⟩
        have allValid : ∀ value ∈ first :: others, valid value :=
          List.forall_mem_cons.mpr ⟨firstValid, othersValid⟩
        exact ⟨⟨rfl, allValid⟩, _, written, by simp⟩
      · intro success
        obtain ⟨⟨width, allValid⟩, bytes, written, rfl⟩ := success
        cases values with
        | nil => simp at width
        | cons first others =>
            obtain ⟨firstBytes, firstWritten, othersBytes, othersWritten,
              rfl⟩ := encodeEach_cons_eq_ok_iff.mp written
            obtain ⟨firstValid, othersValid⟩ :=
              List.forall_mem_cons.mp allValid
            have shorter : others.length = count := Nat.succ.inj width
            have firstRead : item (firstBytes ++ othersBytes ++ rest) =
                .value first (othersBytes ++ rest) :=
              (inverts _ _ _).mpr
                ⟨firstValid, firstBytes, firstWritten, by simp⟩
            have othersRead : item.repeated count (othersBytes ++ rest) =
                .value others rest :=
              (induction _ _ _).mpr
                ⟨⟨shorter, othersValid⟩, othersBytes, othersWritten, rfl⟩
            refine ⟨first, othersBytes ++ rest, firstRead, ?_⟩
            exact bind_eq_value_iff.mpr ⟨others, rest, othersRead, rfl⟩

/-- A plain reader does nothing with its input but take bytes off its front: it
is put together, one behind the other, from taking, answering and failing. -/
inductive Plain : {α : Type} → Reader α → Prop where
  | pure {α : Type} (result : α) : Plain (Pure.pure result : Reader α)
  | fail {α : Type} (cause : Fault) : Plain (Reader.fail cause : Reader α)
  | take (count : Nat) : Plain (Reader.take count)
  | bind {α β : Type} {first : Reader α} {next : α → Reader β}
      (firstPlain : Plain first) (nextPlain : ∀ middle, Plain (next middle)) :
      Plain (first >>= next)

namespace Plain

theorem refuse {refused : Prop} [Decidable refused] (cause : Fault)
    {next : Reader α} (plain : Plain next) :
    Plain (if refused then Reader.fail cause else next) := by
  split
  · exact fail cause
  · exact plain

theorem repeated {item : Reader α} (plain : Plain item) (count : Nat) :
    Plain (item.repeated count) := by
  induction count with
  | zero => exact Plain.pure []
  | succ count induction =>
      rw [repeated_succ]
      exact plain.bind fun _ => induction.bind fun _ => Plain.pure _

theorem forward {item : Reader α} (plain : Plain item) : Forward item := by
  induction plain with
  | pure result => exact fun input => List.suffix_refl input
  | fail cause => exact fun input => List.suffix_refl input
  | take count =>
      intro input
      simp only [Reader.take]
      split
      · exact List.drop_suffix count input
      · exact List.nil_suffix
  | @bind _ _ first next _ _ firstForward nextForward =>
      intro input
      have begun := firstForward input
      rw [bind_apply]
      cases outcome : first input with
      | value middle left =>
          rw [outcome] at begun
          exact (nextForward middle left).trans begun
      | fault cause left =>
          rw [outcome] at begun
          exact begun

end Plain

end Reader

end WorkPackage.Wire
