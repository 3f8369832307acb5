import WorkPackage.Manifest.Plan
import WorkPackage.Proofs.Outcome
import Mathlib.Data.List.TakeWhile

/-!
# Laws of settings

A setting is the text of a key, an equals sign and the text of a value.  One that
can be read replaces what its key stands for and leaves the rest of a manifest alone.
So after any number of settings each part is what the last setting of its key says,
or what it was if there is none.
-/

namespace WorkPackage

namespace Setting

/-- The keys that settings can be for. -/
def keys : List String :=
  ["executable", "type-codes", "capacity", "profile.name", "profile.executable-name",
    "profile.gui-address", "profile.controller-address", "csv.delimiter", "csv.has-headers"]

/-- The key that a setting is for. -/
def key : Setting → String
  | executable _ => "executable"
  | typeCodes _ => "type-codes"
  | capacity _ => "capacity"
  | profileName _ => "profile.name"
  | profileExecutable _ => "profile.executable-name"
  | guiAddress _ => "profile.gui-address"
  | controllerAddress _ => "profile.controller-address"
  | delimiter _ => "csv.delimiter"
  | hasHeaders _ => "csv.has-headers"

/-- A value of one character. -/
def letter? (value : String) : Option Char :=
  match value.toList with
  | [letter] => some letter
  | _ => none

def flag? (value : String) : Option Bool :=
  if value = "true" then some true
  else if value = "false" then some false
  else none

/-- A value that is a size. -/
def size? (value : String) : Option Nat :=
  Decimal.size? value.toList

/-- Is this the value of a setting as it is written? -/
def Spells (value : String) : Setting → Prop
  | executable text | typeCodes text | profileName text | profileExecutable text
  | guiAddress text | controllerAddress text => value = text
  | capacity size => size? value = some size
  | delimiter letter => letter? value = some letter
  | hasHeaders flag => flag? value = some flag

/-- Why a value cannot be assigned to a key. -/
inductive Refuses (key value : String) : ConfigFault → Prop where
  | unsupported (strange : key ∉ keys) : Refuses key value (.unsupportedKey key)
  | capacity (isCapacity : key = "capacity") (noSize : size? value = none) :
      Refuses key value (.invalidInteger key value)
  | delimiter (isDelimiter : key = "csv.delimiter") (noLetter : letter? value = none) :
      Refuses key value (.invalidCharacter key value)
  | hasHeaders (isFlag : key = "csv.has-headers") (noFlag : flag? value = none) :
      Refuses key value (.invalidBoolean key value)

variable {written key value : String} {setting : Setting} {fault : ConfigFault}
  {settings : List String}

section Reading

/-- The text of a setting is that of a key, an equals sign and a value; the key ends
at the first equals sign. -/
structure Assigns (written key value : String) : Prop where
  text : written.toList = key.toList ++ '=' :: value.toList
  plain : '=' ∉ key.toList

/-- The key and the value of a setting. -/
def parts? (written : String) : Option (String × String) :=
  match written.toList.dropWhile (· != '=') with
  | [] => none
  | _ :: value =>
      some (String.ofList (written.toList.takeWhile (· != '=')), String.ofList value)

theorem exists_assigns (member : '=' ∈ written.toList) :
    ∃ key value, Assigns written key value := by
  obtain ⟨key, value, parted, plain⟩ := List.eq_append_cons_of_mem member
  refine ⟨String.ofList key, String.ofList value, ?_, ?_⟩
  · rw [String.toList_ofList, String.toList_ofList, parted]
  · rwa [String.toList_ofList]

theorem Assigns.parts? (assigns : Assigns written key value) :
    parts? written = some (key, value) := by
  have front : ∀ letter ∈ key.toList, (letter != '=') = true := by
    intro letter member
    apply bne_iff_ne.mpr
    rintro rfl
    exact assigns.plain member
  rw [Setting.parts?, assigns.text, List.takeWhile_append_of_pos front,
    List.dropWhile_append_of_pos front]
  simp

theorem parts?_of_plain (plain : '=' ∉ written.toList) : parts? written = none := by
  have none : written.toList.dropWhile (· != '=') = [] := by
    apply List.dropWhile_eq_nil_iff.mpr
    intro letter member
    apply bne_iff_ne.mpr
    rintro rfl
    exact plain member
  rw [parts?, none]

theorem read_eq (written : String) :
    read written =
      (parts? written).elim (.error (.settingWithoutValue written))
        fun parts => ofKey parts.1 parts.2 := by
  rw [read, parts?]
  cases written.toList.dropWhile (· != '=') <;> rfl

theorem ofKey_capacity (value : String) :
    ofKey "capacity" value =
      (size? value).elim (.error (.invalidInteger "capacity" value)) fun size =>
        .ok (capacity size) := by
  rw [size?]
  simp only [ofKey]
  cases Decimal.size? value.toList <;> rfl

theorem ofKey_delimiter (value : String) :
    ofKey "csv.delimiter" value =
      (letter? value).elim (.error (.invalidCharacter "csv.delimiter" value)) fun letter =>
        .ok (delimiter letter) := by
  rw [letter?]
  simp only [ofKey]
  rcases value.toList with _ | ⟨letter, _ | ⟨second, others⟩⟩ <;> rfl

theorem ofKey_hasHeaders (value : String) :
    ofKey "csv.has-headers" value =
      (flag? value).elim (.error (.invalidBoolean "csv.has-headers" value)) fun flag =>
        .ok (hasHeaders flag) := by
  rw [flag?]
  simp only [ofKey]
  split
  · rfl
  · split <;> rfl

theorem Spells.ofKey (spells : setting.Spells value) :
    ofKey setting.key value = .ok setting := by
  cases setting with
  | capacity size =>
      rw [Spells] at spells
      rw [Setting.key, ofKey_capacity, spells, Option.elim_some]
  | delimiter letter =>
      rw [Spells] at spells
      rw [Setting.key, ofKey_delimiter, spells, Option.elim_some]
  | hasHeaders flag =>
      rw [Spells] at spells
      rw [Setting.key, ofKey_hasHeaders, spells, Option.elim_some]
  | _ =>
      cases spells
      rfl

theorem Refuses.ofKey (refuses : Refuses key value fault) :
    ofKey key value = .error fault := by
  cases refuses with
  | unsupported strange =>
      simp only [keys, List.mem_cons, not_or] at strange
      simp [Setting.ofKey, strange]
  | capacity isCapacity noSize =>
      rw [isCapacity, ofKey_capacity, noSize, Option.elim_none]
  | delimiter isDelimiter noLetter =>
      rw [isDelimiter, ofKey_delimiter, noLetter, Option.elim_none]
  | hasHeaders isFlag noFlag =>
      rw [isFlag, ofKey_hasHeaders, noFlag, Option.elim_none]

/-- A value is one for its key, or it is refused. -/
theorem spells_or_refuses (key value : String) :
    (∃ setting : Setting, setting.key = key ∧ setting.Spells value) ∨
      ∃ fault, Refuses key value fault := by
  by_cases supported : key ∈ keys
  · simp only [keys, List.mem_cons, List.not_mem_nil, or_false] at supported
    rcases supported with rfl | rfl | rfl | rfl | rfl | rfl | rfl | rfl | rfl
    · exact .inl ⟨.executable value, rfl, rfl⟩
    · exact .inl ⟨.typeCodes value, rfl, rfl⟩
    · cases sized : size? value with
      | some size => exact .inl ⟨.capacity size, rfl, sized⟩
      | none => exact .inr ⟨_, .capacity rfl sized⟩
    · exact .inl ⟨.profileName value, rfl, rfl⟩
    · exact .inl ⟨.profileExecutable value, rfl, rfl⟩
    · exact .inl ⟨.guiAddress value, rfl, rfl⟩
    · exact .inl ⟨.controllerAddress value, rfl, rfl⟩
    · cases single : letter? value with
      | some letter => exact .inl ⟨.delimiter letter, rfl, single⟩
      | none => exact .inr ⟨_, .delimiter rfl single⟩
    · cases flagged : flag? value with
      | some flag => exact .inl ⟨.hasHeaders flag, rfl, flagged⟩
      | none => exact .inr ⟨_, .hasHeaders rfl flagged⟩
  · exact .inr ⟨_, .unsupported supported⟩

/-- Why a setting cannot be read. -/
inductive Malformed (written : String) : ConfigFault → Prop where
  | withoutValue (plain : '=' ∉ written.toList) :
      Malformed written (.settingWithoutValue written)
  | refused {key value : String} {fault : ConfigFault} (assigns : Assigns written key value)
      (refuses : Refuses key value fault) : Malformed written fault

def WellFormed (written : String) : Prop :=
  ∀ fault, ¬Malformed written fault

theorem Assigns.read (assigns : Assigns written key value) :
    read written = ofKey key value := by
  rw [read_eq, assigns.parts?]
  rfl

theorem read_cases (written : String) :
    (∃ setting value, Assigns written setting.key value ∧ setting.Spells value ∧
      read written = .ok setting) ∨
    ∃ fault, Malformed written fault ∧ read written = .error fault := by
  by_cases member : '=' ∈ written.toList
  · obtain ⟨key, value, assigns⟩ := exists_assigns member
    obtain ⟨setting, rfl, spells⟩ | ⟨fault, refuses⟩ := spells_or_refuses key value
    · exact .inl ⟨setting, value, assigns, spells, assigns.read.trans spells.ofKey⟩
    · exact .inr ⟨fault, .refused assigns refuses, assigns.read.trans refuses.ofKey⟩
  · refine .inr ⟨_, .withoutValue member, ?_⟩
    rw [read_eq, parts?_of_plain member]
    rfl

theorem Malformed.read (malformed : Malformed written fault) :
    read written = .error fault := by
  cases malformed with
  | withoutValue plain =>
      rw [read_eq, parts?_of_plain plain]
      rfl
  | refused assigns refuses => exact assigns.read.trans refuses.ofKey

theorem read_eq_error_iff : read written = .error fault ↔ Malformed written fault := by
  constructor
  · intro failed
    obtain ⟨_, _, -, -, reads⟩ | ⟨other, malformed, fails⟩ := read_cases written
    · rw [reads] at failed
      contradiction
    · cases fails.symm.trans failed
      exact malformed
  · exact Malformed.read

theorem wellFormed_iff : WellFormed written ↔ ∃ setting, read written = .ok setting := by
  constructor
  · intro wellFormed
    obtain ⟨setting, _, -, -, reads⟩ | ⟨fault, malformed, -⟩ := read_cases written
    · exact ⟨setting, reads⟩
    · exact absurd malformed (wellFormed fault)
  · rintro ⟨setting, reads⟩ fault malformed
    rw [malformed.read] at reads
    contradiction

theorem wellFormed_of_mapM {assigned : List Setting}
    (reads : settings.mapM read = .ok assigned) :
    ∀ written ∈ settings, WellFormed written := by
  intro written member
  obtain ⟨setting, -, first⟩ :=
    exists_of_forall₂ (mapM_eq_ok_iff.mp reads).flip written member
  exact wellFormed_iff.mpr ⟨setting, first⟩

/-- The first setting that cannot be read decides the fault. -/
theorem mapM_read_eq_error_iff :
    settings.mapM read = .error fault ↔
      ∃ before written after, settings = before ++ written :: after ∧
        (∀ earlier ∈ before, WellFormed earlier) ∧ Malformed written fault := by
  simp only [mapM_eq_error_iff, ← wellFormed_iff, read_eq_error_iff]

end Reading

section Applying

/-- What a setting assigns to a key, as it is written. -/
def value? (key written : String) : Option String :=
  (parts? written).bind fun (own, value) => if own = key then some value else none

/-- What the last setting of a key assigns to it. -/
def last? (key : String) (settings : List String) : Option String :=
  (settings.filterMap (value? key)).getLast?

theorem Assigns.value? (assigns : Assigns written key value) (other : String) :
    value? other written = if key = other then some value else none := by
  rw [Setting.value?, assigns.parts?]
  rfl

theorem last?_cons (key written : String) (settings : List String) :
    last? key (written :: settings) = (last? key settings).or (value? key written) := by
  rw [last?, List.filterMap_cons, last?]
  cases value? key written with
  | none => simp
  | some value => simp [List.getLast?_cons, Option.or_some]

variable {α : Type} {convert : String → Option α} {part : Manifest → α}
  {assigned : List Setting}

/-- A part of a manifest is what the settings of a key say and is not touched by any
other ones. -/
structure Governs (key : String) (convert : String → Option α) (part : Manifest → α) :
    Prop where
  sets : ∀ (setting : Setting) (value : String), setting.key = key → setting.Spells value →
    ∃ converted, convert value = some converted ∧
      ∀ manifest, part (setting.apply manifest) = converted
  keeps : ∀ setting : Setting, setting.key ≠ key → ∀ manifest,
    part (setting.apply manifest) = part manifest

theorem Governs.apply (governs : Governs key convert part)
    (reads : read written = .ok setting) (manifest : Manifest) :
    part (setting.apply manifest) =
      ((value? key written).bind convert).getD (part manifest) := by
  obtain ⟨_, value, assigns, spells, sameRead⟩ | ⟨fault, -, fails⟩ := read_cases written
  · cases reads.symm.trans sameRead
    rw [assigns.value?]
    by_cases same : setting.key = key
    · obtain ⟨converted, converts, sets⟩ := governs.sets setting value same spells
      rw [if_pos same, Option.bind_some, converts, sets, Option.getD_some]
    · rw [if_neg same, governs.keeps setting same]
      rfl
  · rw [reads] at fails
    contradiction

/-- A part that may be absent, and is there once a value is assigned. -/
def optional (convert : String → Option α) (value : String) : Option (Option α) :=
  (convert value).map some

section Folding

variable (reads : List.Forall₂ (fun written setting => read written = .ok setting)
  settings assigned)
include reads

/-- What is assigned to a key can be converted, if the settings can be read. -/
theorem Governs.converts (governs : Governs key convert part)
    (found : last? key settings = some value) :
    ∃ converted, convert value = some converted := by
  obtain ⟨written, member, assigned⟩ := List.mem_filterMap.mp (List.mem_of_getLast? found)
  obtain ⟨setting, -, first⟩ := exists_of_forall₂ reads.flip written member
  obtain ⟨_, other, assigns, spells, sameRead⟩ | ⟨fault, -, fails⟩ := read_cases written
  · rw [assigns.value?] at assigned
    split at assigned
    next same =>
      cases assigned
      obtain ⟨converted, converts, -⟩ := governs.sets _ _ same spells
      exact ⟨converted, converts⟩
    next => contradiction
  · rw [first] at fails
    contradiction

theorem Governs.foldl (governs : Governs key convert part) (manifest : Manifest) :
    part (assigned.foldl Setting.apply manifest) =
      ((last? key settings).bind convert).getD (part manifest) := by
  induction reads generalizing manifest with
  | nil => rfl
  | @cons written setting settings assigned first reads induction =>
      rw [List.foldl_cons, induction, last?_cons]
      cases later : last? key settings with
      | none =>
          rw [governs.apply first]
          rfl
      | some value =>
          obtain ⟨converted, converts⟩ := governs.converts reads later
          simp [converts]

theorem Governs.foldl_optional {part : Manifest → Option α}
    (governs : Governs key (optional convert) part) (manifest : Manifest) :
    part (assigned.foldl Setting.apply manifest) =
      ((last? key settings).bind convert).or (part manifest) := by
  rw [governs.foldl reads]
  cases said : last? key settings with
  | none => rfl
  | some value =>
      simp only [Option.bind_some, optional]
      obtain ⟨_, converts⟩ := governs.converts reads said
      obtain ⟨converted, same, -⟩ := Option.map_eq_some_iff.mp converts
      simp [same]

end Folding

theorem foldl_keeps (keeps : ∀ (setting : Setting) (manifest : Manifest),
      part (setting.apply manifest) = part manifest)
    (assigned : List Setting) (manifest : Manifest) :
    part (assigned.foldl Setting.apply manifest) = part manifest := by
  induction assigned generalizing manifest with
  | nil => rfl
  | cons setting assigned induction => rw [List.foldl_cons, induction, keeps]

end Applying

section Parts

theorem executable_governs :
    Governs "executable" (optional some) Manifest.executable where
  sets setting value same spells := by
    cases setting with
    | executable text =>
        cases spells
        exact ⟨_, rfl, fun _ => rfl⟩
    | _ => simp [Setting.key] at same
  keeps setting apart _ := by
    cases setting with
    | executable _ => exact absurd rfl apart
    | _ => rfl

theorem typeCodes_governs :
    Governs "type-codes" (optional some) Manifest.typeCodes where
  sets setting value same spells := by
    cases setting with
    | typeCodes text =>
        cases spells
        exact ⟨_, rfl, fun _ => rfl⟩
    | _ => simp [Setting.key] at same
  keeps setting apart _ := by
    cases setting with
    | typeCodes _ => exact absurd rfl apart
    | _ => rfl

theorem capacity_governs :
    Governs "capacity" (optional size?) Manifest.capacity where
  sets setting value same spells := by
    cases setting with
    | capacity size => exact ⟨some size, congrArg (Option.map some) spells, fun _ => rfl⟩
    | _ => simp [Setting.key] at same
  keeps setting apart _ := by
    cases setting with
    | capacity _ => exact absurd rfl apart
    | _ => rfl

theorem profileName_governs :
    Governs "profile.name" some (fun manifest => (manifest.profile.getD {}).name) where
  sets setting value same spells := by
    cases setting with
    | profileName text =>
        cases spells
        exact ⟨_, rfl, fun _ => rfl⟩
    | _ => simp [Setting.key] at same
  keeps setting apart _ := by
    cases setting with
    | profileName _ => exact absurd rfl apart
    | _ => rfl

theorem profileExecutable_governs :
    Governs "profile.executable-name" some
      (fun manifest => (manifest.profile.getD {}).executable) where
  sets setting value same spells := by
    cases setting with
    | profileExecutable text =>
        cases spells
        exact ⟨_, rfl, fun _ => rfl⟩
    | _ => simp [Setting.key] at same
  keeps setting apart _ := by
    cases setting with
    | profileExecutable _ => exact absurd rfl apart
    | _ => rfl

theorem guiAddress_governs :
    Governs "profile.gui-address" some
      (fun manifest => (manifest.profile.getD {}).guiAddress) where
  sets setting value same spells := by
    cases setting with
    | guiAddress text =>
        cases spells
        exact ⟨_, rfl, fun _ => rfl⟩
    | _ => simp [Setting.key] at same
  keeps setting apart _ := by
    cases setting with
    | guiAddress _ => exact absurd rfl apart
    | _ => rfl

theorem controllerAddress_governs :
    Governs "profile.controller-address" some
      (fun manifest => (manifest.profile.getD {}).controllerAddress) where
  sets setting value same spells := by
    cases setting with
    | controllerAddress text =>
        cases spells
        exact ⟨_, rfl, fun _ => rfl⟩
    | _ => simp [Setting.key] at same
  keeps setting apart _ := by
    cases setting with
    | controllerAddress _ => exact absurd rfl apart
    | _ => rfl

theorem delimiter_governs :
    Governs "csv.delimiter" (optional letter?)
      (fun manifest => (manifest.table.getD {}).delimiter) where
  sets setting value same spells := by
    cases setting with
    | delimiter letter => exact ⟨some letter, congrArg (Option.map some) spells, fun _ => rfl⟩
    | _ => simp [Setting.key] at same
  keeps setting apart _ := by
    cases setting with
    | delimiter _ => exact absurd rfl apart
    | _ => rfl

theorem hasHeaders_governs :
    Governs "csv.has-headers" (optional flag?)
      (fun manifest => (manifest.table.getD {}).hasHeaders) where
  sets setting value same spells := by
    cases setting with
    | hasHeaders flag => exact ⟨some flag, congrArg (Option.map some) spells, fun _ => rfl⟩
    | _ => simp [Setting.key] at same
  keeps setting apart _ := by
    cases setting with
    | hasHeaders _ => exact absurd rfl apart
    | _ => rfl

end Parts

end Setting

end WorkPackage
