import RidFirmware.Acceptance.ReceiverLog

/-! Reading the log of the receiver: a JSON value on each line, checked field by field, up to the first line that
is refused. The JSON decoder is a parameter. -/

namespace RidFirmware
open Lib Ieee

/-- What `json.loads` returns. The keys of a `dict` differ. -/
inductive PyValue where
  | none
  | bool (value : Bool)
  | int (value : Int)
  | float (value : Datum ℚ)
  | str (value : String)
  | list (items : List PyValue)
  | dict (items : List (String × PyValue))

/-- What `json.loads` raises: an error of the decoder, or another one. -/
inductive LoadsError where
  | jsonDecodeError
  | other (error : PyError)

structure LoggedRecord where
  record : ReceiverRecord
  latitude : Datum ℚ
  longitude : Datum ℚ
  deriving DecidableEq

/-- A `ValueError` that names a line, counted from one. -/
def lineError (lineNumber : Nat) (text : String) : PyError :=
  .valueError ("line " ++ toString lineNumber ++ ": " ++ text)

/-! The checks of the fields. -/

/-- The required fields of a record, as they stand in the log. -/
structure LogFields where
  timestampMs : PyValue
  testId : PyValue
  messageKind : PyValue
  valid : PyValue
  latitude : PyValue
  longitude : PyValue

def requiredFields : PyValue → Option LogFields
  | .dict items => do
      let timestampMs ← items.lookup "timestamp_ms"
      let testId ← items.lookup "test_id"
      let messageKind ← items.lookup "message_kind"
      let valid ← items.lookup "valid"
      let latitude ← items.lookup "latitude"
      let longitude ← items.lookup "longitude"
      return { timestampMs, testId, messageKind, valid, latitude, longitude }
  | _ => none

def checkTimestamp : PyValue → Option Int
  | .int value => if value < 0 then none else some value
  | _ => none

def checkText : PyValue → Option String
  | .str value => if value = "" then none else some value
  | _ => none

def checkFlag : PyValue → Option Bool
  | .bool value => some value
  | _ => none

/-- `math.isfinite` turns an `int` into a `float` first, which fails where it is too large. -/
def checkDegrees (bound : Nat) : PyValue → Except PyError (Option (Datum ℚ))
  | .int value =>
      if (nearestQuotient |value| 1).isFinite then
        .ok (if -(bound : Int) ≤ value ∧ value ≤ bound then some (nearestQuotient value 1) else none)
      else .error (.overflowError "int too large to convert to float")
  | .float value =>
      .ok (if value.isFinite ∧ Datum.atMost (.finite (-(bound : ℚ))) value ∧ value.atMost (.finite (bound : ℚ)) then
        some value else none)
  | _ => .ok none

/-- A check that fails raises the error. -/
def orRaise {α : Type} (error : PyError) : Option α → Except PyError α
  | none => .error error
  | some value => .ok value

/-- `_record`. -/
def record (value : PyValue) (lineNumber : Nat) : Except PyError LoggedRecord := do
  let fields ← orRaise (lineError lineNumber "required field missing") (requiredFields value)
  let timestampMs ← orRaise (lineError lineNumber "invalid timestamp_ms") (checkTimestamp fields.timestampMs)
  let testId ← orRaise (lineError lineNumber "invalid test_id") (checkText fields.testId)
  let messageKind ← orRaise (lineError lineNumber "invalid message_kind") (checkText fields.messageKind)
  let valid ← orRaise (lineError lineNumber "invalid valid flag") (checkFlag fields.valid)
  let latitude ← checkDegrees 90 fields.latitude
  let latitude ← orRaise (lineError lineNumber "invalid latitude") latitude
  let longitude ← checkDegrees 180 fields.longitude
  let longitude ← orRaise (lineError lineNumber "invalid longitude") longitude
  return { record := { timestampMs, testId, messageKind, valid }, latitude, longitude }

/-- The white space that `strip` removes. -/
def isWhiteSpace (character : Char) : Bool :=
  let code := character.toNat
  decide (9 ≤ code ∧ code ≤ 13 ∨ 28 ≤ code ∧ code ≤ 32 ∨ code = 0x85 ∨ code = 0xa0 ∨ code = 0x1680 ∨
    0x2000 ≤ code ∧ code ≤ 0x200a ∨ code = 0x2028 ∨ code = 0x2029 ∨ code = 0x202f ∨ code = 0x205f ∨ code = 0x3000)

/-- `not line.strip()`. -/
def isBlank (line : String) : Bool := line.toList.all isWhiteSpace

section
variable (loads : String → Except LoadsError PyValue)

def readLine (line : String) (lineNumber : Nat) : Except PyError LoggedRecord :=
  match loads line with
  | .error .jsonDecodeError => .error (lineError lineNumber "invalid JSON")
  | .error (.other error) => .error error
  | .ok value => record value lineNumber

/-- `read_records` from a line on: the records it yields, and what it raises then. -/
def readRecords (lineNumber : Nat) : List String → List LoggedRecord × Option PyError
  | [] => ([], none)
  | line :: rest =>
      if isBlank line then readRecords (lineNumber + 1) rest
      else match readLine loads line lineNumber with
        | .error error => ([], some error)
        | .ok logged =>
            let later := readRecords (lineNumber + 1) rest
            (logged :: later.1, later.2)

/-- What `main` prints: the summary of a log. -/
def summarizeLog (lines : List String) : Except PyError Summary :=
  match readRecords loads 1 lines with
  | (_, some error) => .error error
  | (logged, none) => summarize (logged.map LoggedRecord.record)

end

/-! What a record is. -/

/-- A number of degrees, and the `float` it is kept as. -/
inductive Degrees (bound : Nat) : PyValue → Datum ℚ → Prop where
  | int (value : Int) (low : -(bound : Int) ≤ value) (high : value ≤ bound) :
      Degrees bound (.int value) (nearestQuotient value 1)
  | float (value : ℚ) (low : -(bound : ℚ) ≤ value) (high : value ≤ bound) :
      Degrees bound (.float (.finite value)) (.finite value)

/-- The items of a `dict` that is a record; there may be others. -/
structure Describes (items : List (String × PyValue)) (logged : LoggedRecord) : Prop where
  timestampMs : items.lookup "timestamp_ms" = some (.int logged.record.timestampMs)
  since : 0 ≤ logged.record.timestampMs
  testId : items.lookup "test_id" = some (.str logged.record.testId)
  identified : logged.record.testId ≠ ""
  messageKind : items.lookup "message_kind" = some (.str logged.record.messageKind)
  named : logged.record.messageKind ≠ ""
  valid : items.lookup "valid" = some (.bool logged.record.valid)
  latitude : ∃ value, items.lookup "latitude" = some value ∧ Degrees 90 value logged.latitude
  longitude : ∃ value, items.lookup "longitude" = some value ∧ Degrees 180 value logged.longitude

/-- Too large for a `float`. -/
def TooLarge (value : PyValue) : Prop := ∃ number : Int, value = .int number ∧ floatLimit ≤ |number|

theorem orRaise_eq_ok {α : Type} {error : PyError} {checked : Option α} {value : α} :
    orRaise error checked = .ok value ↔ checked = some value := by
  cases checked with
  | none => exact ⟨nofun, nofun⟩
  | some other => exact Except.ok.injEq other value ▸ (Option.some.injEq other value ▸ Iff.rfl)

theorem checkTimestamp_eq_some {value : PyValue} {timestampMs : Int} :
    checkTimestamp value = some timestampMs ↔ value = .int timestampMs ∧ 0 ≤ timestampMs := by
  cases value with
  | int number =>
    unfold checkTimestamp
    by_cases negative : number < 0
    · simp only [if_pos negative, PyValue.int.injEq, reduceCtorEq, false_iff, not_and, not_le]
      rintro rfl
      exact negative
    · simp only [if_neg negative, PyValue.int.injEq, Option.some.injEq]
      exact ⟨fun same => ⟨same, same ▸ Int.not_lt.mp negative⟩, fun both => both.1⟩
  | _ => simp [checkTimestamp]

theorem checkText_eq_some {value : PyValue} {text : String} :
    checkText value = some text ↔ value = .str text ∧ text ≠ "" := by
  cases value with
  | str written =>
    unfold checkText
    by_cases empty : written = ""
    · simp only [if_pos empty, PyValue.str.injEq, reduceCtorEq, false_iff, not_and, not_not]
      rintro rfl
      exact empty
    · simp only [if_neg empty, PyValue.str.injEq, Option.some.injEq]
      exact ⟨fun same => ⟨same, same ▸ empty⟩, fun both => both.1⟩
  | _ => simp [checkText]

theorem checkFlag_eq_some {value : PyValue} {flag : Bool} : checkFlag value = some flag ↔ value = .bool flag := by
  cases value with
  | bool written => simp [checkFlag]
  | _ => simp [checkFlag]

theorem fits_iff (number : Int) : (nearestQuotient |number| 1).isFinite = true ↔ |number| < floatLimit := by
  rw [isFinite_nearestQuotient_iff (abs_nonneg number) Int.one_pos, mul_one]

theorem checkDegrees_eq_ok {bound : Nat} (small : (bound : Int) < floatLimit) {value : PyValue}
    {degrees : Datum ℚ} : checkDegrees bound value = .ok (some degrees) ↔ Degrees bound value degrees := by
  constructor
  · intro checked
    cases value with
    | int number =>
      simp only [checkDegrees] at checked
      split_ifs at checked with fits inside
      · cases checked
        exact .int number inside.1 inside.2
      · cases checked
    | float number =>
      simp only [checkDegrees] at checked
      split_ifs at checked with inside
      · rw [← Option.some.inj (Except.ok.inj checked)]
        cases number with
        | finite number =>
          simp only [Datum.atMost_finite, decide_eq_true_eq] at inside
          exact .float number inside.2.1 inside.2.2
        | infinite negative => cases inside.1
        | nan => cases inside.1
      · cases checked
    | _ => cases checked
  · intro degrees
    cases degrees with
    | int number low high =>
      have fits := (fits_iff number).mpr ((abs_le.mpr ⟨low, high⟩).trans_lt small)
      simp only [checkDegrees]
      rw [if_pos fits, if_pos ⟨low, high⟩]
    | float number low high =>
      have inside : (Datum.finite number).isFinite = true ∧
          Datum.atMost (.finite (-(bound : ℚ))) (.finite number) = true ∧
            (Datum.finite number).atMost (.finite (bound : ℚ)) = true := by
        simp only [Datum.atMost_finite, decide_eq_true_eq]
        exact ⟨rfl, low, high⟩
      simp only [checkDegrees]
      rw [if_pos inside]

theorem checkDegrees_eq_error {bound : Nat} {value : PyValue} {error : PyError}
    (refused : checkDegrees bound value = .error error) :
    TooLarge value ∧ error = .overflowError "int too large to convert to float" := by
  cases value with
  | int number =>
    simp only [checkDegrees] at refused
    split_ifs at refused with fits
    cases refused
    exact ⟨⟨number, rfl, not_lt.mp (mt (fits_iff number).mpr fits)⟩, rfl⟩
  | _ => cases refused

theorem checkDegrees_eq_none {bound : Nat} (small : (bound : Int) < floatLimit) {value : PyValue}
    (refused : checkDegrees bound value = .ok none) :
    (∀ degrees, ¬Degrees bound value degrees) ∧ ¬TooLarge value := by
  constructor
  · intro degrees good
    rw [(checkDegrees_eq_ok small).mpr good] at refused
    cases refused
  · rintro ⟨number, rfl, large⟩
    simp only [checkDegrees] at refused
    rw [if_neg (mt (fits_iff number).mp (not_lt.mpr large))] at refused
    cases refused

/-! What a record is refused for. -/

/-- A check of a required field, with the text of its error. -/
structure FieldCheck where
  key : String
  text : String
  Good : PyValue → Prop

def fieldChecks : List FieldCheck :=
  [⟨"timestamp_ms", "invalid timestamp_ms", fun value => ∃ number, value = .int number ∧ 0 ≤ number⟩,
    ⟨"test_id", "invalid test_id", fun value => ∃ text, value = .str text ∧ text ≠ ""⟩,
    ⟨"message_kind", "invalid message_kind", fun value => ∃ text, value = .str text ∧ text ≠ ""⟩,
    ⟨"valid", "invalid valid flag", fun value => ∃ flag, value = .bool flag⟩,
    ⟨"latitude", "invalid latitude", fun value => ∃ degrees, Degrees 90 value degrees⟩,
    ⟨"longitude", "invalid longitude", fun value => ∃ degrees, Degrees 180 value degrees⟩]

/-- The error of a field that is not good: an `int` of degrees may be too large to be looked at. -/
inductive FieldCheck.Raises (check : FieldCheck) (value : PyValue) (lineNumber : Nat) : PyError → Prop where
  | invalid (plain : check.key = "latitude" ∨ check.key = "longitude" → ¬TooLarge value) :
      Raises check value lineNumber (lineError lineNumber check.text)
  | overflow (degrees : check.key = "latitude" ∨ check.key = "longitude") (large : TooLarge value) :
      Raises check value lineNumber (.overflowError "int too large to convert to float")

/-- Why a value is no record: it is no `dict` with all the required fields, or the first field that is not good. -/
inductive Refused (value : PyValue) (lineNumber : Nat) : PyError → Prop where
  | missing (absent : ∀ items, value = .dict items → ∃ check ∈ fieldChecks, items.lookup check.key = none) :
      Refused value lineNumber (lineError lineNumber "required field missing")
  | field (items : List (String × PyValue)) (same : value = .dict items)
      (present : ∀ check ∈ fieldChecks, items.lookup check.key ≠ none)
      (before after : List FieldCheck) (check : FieldCheck) (split : fieldChecks = before ++ check :: after)
      (good : ∀ earlier ∈ before, ∀ read, items.lookup earlier.key = some read → earlier.Good read)
      (read : PyValue) (found : items.lookup check.key = some read) (bad : ¬check.Good read) (error : PyError)
      (raises : check.Raises read lineNumber error) : Refused value lineNumber error

theorem requiredFields_eq_some {value : PyValue} {fields : LogFields} : requiredFields value = some fields ↔
    ∃ items, value = .dict items ∧ items.lookup "timestamp_ms" = some fields.timestampMs ∧
      items.lookup "test_id" = some fields.testId ∧ items.lookup "message_kind" = some fields.messageKind ∧
      items.lookup "valid" = some fields.valid ∧ items.lookup "latitude" = some fields.latitude ∧
      items.lookup "longitude" = some fields.longitude := by
  cases value with
  | dict items =>
    obtain ⟨timestampMs, testId, messageKind, valid, latitude, longitude⟩ := fields
    simp only [requiredFields, Option.bind_eq_bind, Option.bind_eq_some_iff, Option.pure_def, Option.some.injEq,
      LogFields.mk.injEq, PyValue.dict.injEq, exists_eq_left']
    constructor
    · rintro ⟨_, first, _, second, _, third, _, fourth, _, fifth, _, sixth, rfl, rfl, rfl, rfl, rfl, rfl⟩
      exact ⟨first, second, third, fourth, fifth, sixth⟩
    · rintro ⟨first, second, third, fourth, fifth, sixth⟩
      exact ⟨_, first, _, second, _, third, _, fourth, _, fifth, _, sixth, rfl, rfl, rfl, rfl, rfl, rfl⟩
  | _ => simp [requiredFields]

theorem requiredFields_eq_none {items : List (String × PyValue)} (absent : requiredFields (.dict items) = none) :
    ∃ check ∈ fieldChecks, items.lookup check.key = none := by
  by_contra present
  have found : ∀ check ∈ fieldChecks, ∃ value, items.lookup check.key = some value := by
    intro check member
    exact Option.ne_none_iff_exists'.mp fun none => present ⟨check, member, none⟩
  simp only [fieldChecks, List.forall_mem_cons] at found
  obtain ⟨⟨timestampMs, first⟩, ⟨testId, second⟩, ⟨messageKind, third⟩, ⟨valid, fourth⟩, ⟨latitude, fifth⟩,
    ⟨longitude, sixth⟩, _⟩ := found
  have all := (@requiredFields_eq_some (.dict items) ⟨timestampMs, testId, messageKind, valid, latitude,
    longitude⟩).mpr ⟨items, rfl, first, second, third, fourth, fifth, sixth⟩
  rw [absent] at all
  cases all

theorem bound_small : ((90 : Nat) : Int) < floatLimit ∧ ((180 : Nat) : Int) < floatLimit := by decide +kernel

theorem check_eq_ok {α β : Type} {checked : Except PyError α} {rest : α → Except PyError β} {value : β} :
    (checked >>= rest) = .ok value ↔ ∃ first, checked = .ok first ∧ rest first = .ok value := by
  cases checked with
  | error error =>
    constructor
    · exact nofun
    · rintro ⟨_, stopped, _⟩
      cases stopped
  | ok first => exact ⟨fun later => ⟨first, rfl, later⟩, fun ⟨_, same, later⟩ => Except.ok.inj same ▸ later⟩

theorem check_eq_error {α β : Type} {checked : Except PyError α} {rest : α → Except PyError β} {error : PyError}
    (refused : (checked >>= rest) = .error error) :
    checked = .error error ∨ ∃ first, checked = .ok first ∧ rest first = .error error := by
  cases checked with
  | error other => exact .inl (congrArg Except.error (Except.error.inj refused))
  | ok first => exact .inr ⟨first, rfl, refused⟩

theorem orRaise_eq_error {α : Type} {error raised : PyError} {checked : Option α}
    (refused : orRaise error checked = .error raised) : checked = none ∧ raised = error := by
  cases checked with
  | none => exact ⟨rfl, (Except.error.inj refused).symm⟩
  | some value => cases refused

theorem record_eq_ok {value : PyValue} {lineNumber : Nat} {logged : LoggedRecord} :
    record value lineNumber = .ok logged ↔ ∃ items, value = .dict items ∧ Describes items logged := by
  have degrees90 := @checkDegrees_eq_ok 90 bound_small.1
  have degrees180 := @checkDegrees_eq_ok 180 bound_small.2
  unfold record
  simp only [check_eq_ok, orRaise_eq_ok, checkTimestamp_eq_some, checkText_eq_some, checkFlag_eq_some]
  constructor
  · rintro ⟨fields, required, timestampMs, ⟨first, since⟩, testId, ⟨second, identified⟩, messageKind,
      ⟨third, named⟩, valid, fourth, _, fifth, latitude, rfl, _, sixth, longitude, rfl, made⟩
    obtain ⟨items, rfl, one, two, three, four, five, six⟩ := requiredFields_eq_some.mp required
    cases Except.ok.inj made
    exact ⟨items, rfl, one.trans (congrArg some first), since, two.trans (congrArg some second), identified,
      three.trans (congrArg some third), named, four.trans (congrArg some fourth),
      ⟨_, five, degrees90.mp fifth⟩, ⟨_, six, degrees180.mp sixth⟩⟩
  · rintro ⟨items, rfl, described⟩
    obtain ⟨latitude, five, fifth⟩ := described.latitude
    obtain ⟨longitude, six, sixth⟩ := described.longitude
    exact ⟨⟨_, _, _, _, latitude, longitude⟩, requiredFields_eq_some.mpr ⟨items, rfl, described.timestampMs,
      described.testId, described.messageKind, described.valid, five, six⟩, _, ⟨rfl, described.since⟩, _,
      ⟨rfl, described.identified⟩, _, ⟨rfl, described.named⟩, _, rfl, _, degrees90.mpr fifth, _, rfl, _,
      degrees180.mpr sixth, _, rfl, rfl⟩

theorem checkDegrees_raises {bound : Nat} (small : (bound : Int) < floatLimit) {check : FieldCheck}
    (degrees : check.key = "latitude" ∨ check.key = "longitude") {value : PyValue} {lineNumber : Nat}
    {error : PyError} (refused : (checkDegrees bound value >>= orRaise (lineError lineNumber check.text)) =
      .error error) :
    (¬∃ degrees, Degrees bound value degrees) ∧ check.Raises value lineNumber error := by
  rcases check_eq_error refused with large | ⟨checked, accepted, refused⟩
  · obtain ⟨tooLarge, rfl⟩ := checkDegrees_eq_error large
    refine ⟨?_, .overflow degrees tooLarge⟩
    rintro ⟨_, good⟩
    rw [(checkDegrees_eq_ok small).mpr good] at large
    cases large
  · obtain ⟨rfl, rfl⟩ := orRaise_eq_error refused
    obtain ⟨bad, few⟩ := checkDegrees_eq_none small accepted
    exact ⟨fun ⟨number, good⟩ => bad number good, .invalid fun _ => few⟩

def Passed (items : List (String × PyValue)) (checks : List FieldCheck) : Prop :=
  ∀ check ∈ checks, ∃ read, items.lookup check.key = some read ∧ check.Good read

theorem Passed.snoc {items : List (String × PyValue)} {before : List FieldCheck} (passed : Passed items before)
    {check : FieldCheck} {read : PyValue} (found : items.lookup check.key = some read) (good : check.Good read) :
    Passed items (before ++ [check]) := by
  intro earlier member
  rcases List.mem_append.mp member with old | last
  · exact passed earlier old
  · rw [List.mem_singleton.mp last]
    exact ⟨read, found, good⟩

theorem refused_at {items : List (String × PyValue)} {lineNumber : Nat} {error : PyError}
    (present : ∀ check ∈ fieldChecks, items.lookup check.key ≠ none) {before : List FieldCheck}
    (passed : Passed items before) (after : List FieldCheck) (check : FieldCheck)
    (split : fieldChecks = before ++ check :: after) {read : PyValue}
    (found : items.lookup check.key = some read) (bad : ¬check.Good read)
    (raises : check.Raises read lineNumber error) : Refused (.dict items) lineNumber error := by
  refine .field items rfl present before after check split ?_ read found bad error raises
  intro earlier member value there
  obtain ⟨other, here, fine⟩ := passed earlier member
  rw [there] at here
  exact Option.some.inj here ▸ fine

theorem record_eq_error {value : PyValue} {lineNumber : Nat} {error : PyError}
    (refused : record value lineNumber = .error error) : Refused value lineNumber error := by
  unfold record at refused
  rcases check_eq_error refused with stopped | ⟨fields, required, rest⟩
  · obtain ⟨absent, rfl⟩ := orRaise_eq_error stopped
    exact .missing fun items same => requiredFields_eq_none (same ▸ absent)
  obtain ⟨items, rfl, one, two, three, four, five, six⟩ := requiredFields_eq_some.mp (orRaise_eq_ok.mp required)
  have present : ∀ check ∈ fieldChecks, items.lookup check.key ≠ none := by
    simp only [fieldChecks, List.forall_mem_cons, one, two, three, four, five, six]
    exact ⟨nofun, nofun, nofun, nofun, nofun, nofun, List.forall_mem_nil _⟩
  have passed₀ : Passed items [] := List.forall_mem_nil _
  rcases check_eq_error rest with stopped | ⟨timestampMs, first, rest₁⟩
  · obtain ⟨bad, rfl⟩ := orRaise_eq_error stopped
    refine refused_at present passed₀ _ _ rfl one ?_ (.invalid (by simp))
    rintro ⟨number, good⟩
    rw [checkTimestamp_eq_some.mpr good] at bad
    cases bad
  have passed₁ : Passed items (fieldChecks.take 1) :=
    passed₀.snoc one ⟨_, checkTimestamp_eq_some.mp (orRaise_eq_ok.mp first)⟩
  have textBad : ∀ {written : PyValue}, checkText written = none → ¬∃ text, written = .str text ∧ text ≠ "" := by
    rintro written bad ⟨text, good⟩
    rw [checkText_eq_some.mpr good] at bad
    cases bad
  rcases check_eq_error rest₁ with stopped | ⟨testId, second, rest₂⟩
  · obtain ⟨bad, rfl⟩ := orRaise_eq_error stopped
    exact refused_at present passed₁ _ _ rfl two (textBad bad) (.invalid (by simp))
  have passed₂ : Passed items (fieldChecks.take 2) :=
    passed₁.snoc two ⟨_, checkText_eq_some.mp (orRaise_eq_ok.mp second)⟩
  rcases check_eq_error rest₂ with stopped | ⟨messageKind, third, rest₃⟩
  · obtain ⟨bad, rfl⟩ := orRaise_eq_error stopped
    exact refused_at present passed₂ _ _ rfl three (textBad bad) (.invalid (by simp))
  have passed₃ : Passed items (fieldChecks.take 3) :=
    passed₂.snoc three ⟨_, checkText_eq_some.mp (orRaise_eq_ok.mp third)⟩
  rcases check_eq_error rest₃ with stopped | ⟨valid, fourth, rest₄⟩
  · obtain ⟨bad, rfl⟩ := orRaise_eq_error stopped
    refine refused_at present passed₃ _ _ rfl four ?_ (.invalid (by simp))
    rintro ⟨flag, good⟩
    rw [checkFlag_eq_some.mpr good] at bad
    cases bad
  have passed₄ : Passed items (fieldChecks.take 4) :=
    passed₃.snoc four ⟨_, checkFlag_eq_some.mp (orRaise_eq_ok.mp fourth)⟩
  -- the two steps of a check of degrees are one
  rw [← bind_assoc] at rest₄
  rcases check_eq_error rest₄ with stopped | ⟨latitude, fifth, rest₅⟩
  · obtain ⟨bad, raises⟩ := @checkDegrees_raises 90 bound_small.1 fieldChecks[4] (.inl rfl) _ _ _ stopped
    exact refused_at present passed₄ _ _ rfl five bad raises
  obtain ⟨_, checked, kept⟩ := check_eq_ok.mp fifth
  rw [orRaise_eq_ok.mp kept] at checked
  have passed₅ : Passed items (fieldChecks.take 5) :=
    passed₄.snoc five ⟨_, (checkDegrees_eq_ok bound_small.1).mp checked⟩
  rw [← bind_assoc] at rest₅
  rcases check_eq_error rest₅ with stopped | ⟨longitude, _, rest₆⟩
  · obtain ⟨bad, raises⟩ := @checkDegrees_raises 180 bound_small.2 fieldChecks[5] (.inr rfl) _ _ _ stopped
    exact refused_at present passed₅ _ _ rfl six bad raises
  · cases rest₆

/-! The log. -/

section
variable (loads : String → Except LoadsError PyValue)

def ReadsTo (line : String) (logged : LoggedRecord) : Prop :=
  ∃ items, loads line = .ok (.dict items) ∧ Describes items logged

inductive RefusedLine (line : String) (lineNumber : Nat) : PyError → Prop where
  | decoder (broken : loads line = .error .jsonDecodeError) :
      RefusedLine line lineNumber (lineError lineNumber "invalid JSON")
  | other (error : PyError) (raised : loads line = .error (.other error)) : RefusedLine line lineNumber error
  | record (value : PyValue) (loaded : loads line = .ok value) (error : PyError)
      (refused : Refused value lineNumber error) : RefusedLine line lineNumber error

variable {loads}

theorem readLine_eq_ok {line : String} {lineNumber : Nat} {logged : LoggedRecord} :
    readLine loads line lineNumber = .ok logged ↔ ReadsTo loads line logged := by
  unfold readLine
  constructor
  · intro accepted
    split at accepted
    · cases accepted
    · cases accepted
    · next value loaded =>
      obtain ⟨items, rfl, described⟩ := record_eq_ok.mp accepted
      exact ⟨items, loaded, described⟩
  · rintro ⟨items, loaded, described⟩
    rw [loaded]
    exact record_eq_ok.mpr ⟨items, rfl, described⟩

theorem readLine_eq_error {line : String} {lineNumber : Nat} {error : PyError}
    (refused : readLine loads line lineNumber = .error error) : RefusedLine loads line lineNumber error := by
  unfold readLine at refused
  split at refused
  · next broken => exact Except.error.inj refused ▸ .decoder broken
  · next raised broken => exact Except.error.inj refused ▸ .other raised broken
  · next value loaded => exact .record value loaded error (record_eq_error refused)

def written (lines : List String) : List String := lines.filter fun line => !isBlank line

theorem written_blank {line : String} (blank : isBlank line = true) (rest : List String) :
    written (line :: rest) = written rest := List.filter_cons_of_neg (by rw [blank]; exact Bool.false_ne_true)

theorem written_cons {line : String} (text : isBlank line = false) (rest : List String) :
    written (line :: rest) = line :: written rest := List.filter_cons_of_pos (by rw [text]; rfl)

/-- The first line that is refused, with the records before it. -/
structure StopsAt (loads : String → Except LoadsError PyValue) (first : Nat) (lines : List String)
    (logged : List LoggedRecord) (error : PyError) (before : List String) (line : String)
    (after : List String) : Prop where
  split : lines = before ++ line :: after
  text : isBlank line = false
  none : ∀ row, ¬ReadsTo loads line row
  yielded : List.Forall₂ (ReadsTo loads) (written before) logged
  refused : RefusedLine loads line (first + before.length) error

theorem StopsAt.cons {first : Nat} {rest before after : List String} {logged : List LoggedRecord} {error : PyError}
    {bad : String} (stops : StopsAt loads (first + 1) rest logged error before bad after) (line : String)
    {all : List LoggedRecord} (yielded : List.Forall₂ (ReadsTo loads) (written (line :: before)) all) :
    StopsAt loads first (line :: rest) all error (line :: before) bad after where
  split := by rw [stops.split, List.cons_append]
  text := stops.text
  none := stops.none
  yielded := yielded
  refused := by
    rw [List.length_cons, ← Nat.add_assoc, Nat.add_right_comm]
    exact stops.refused

theorem readRecords_cases (lines : List String) (first : Nat) :
    (∃ logged, readRecords loads first lines = (logged, none) ∧
      List.Forall₂ (ReadsTo loads) (written lines) logged) ∨
    ∃ logged error before line after, readRecords loads first lines = (logged, some error) ∧
      StopsAt loads first lines logged error before line after := by
  induction lines generalizing first with
  | nil => exact .inl ⟨[], rfl, .nil⟩
  | cons line rest ih =>
    unfold readRecords
    by_cases blank : isBlank line = true
    · rw [if_pos blank]
      rcases ih (first + 1) with ⟨logged, read, yielded⟩ | ⟨logged, error, before, bad, after, read, stops⟩
      · exact .inl ⟨logged, read, (written_blank blank rest).symm ▸ yielded⟩
      · refine .inr ⟨logged, error, line :: before, bad, after, read, stops.cons line ?_⟩
        rw [written_blank blank before]
        exact stops.yielded
    · have text := Bool.eq_false_iff.mpr blank
      rw [if_neg blank]
      cases answer : readLine loads line first with
      | error error =>
        refine .inr ⟨[], error, [], line, rest, rfl, rfl, text, ?_, .nil, readLine_eq_error answer⟩
        intro row reads
        rw [readLine_eq_ok.mpr reads] at answer
        cases answer
      | ok now =>
        have reads := readLine_eq_ok.mp answer
        rcases ih (first + 1) with ⟨logged, read, yielded⟩ | ⟨logged, error, before, bad, after, read, stops⟩
        · rw [read]
          exact .inl ⟨now :: logged, rfl, (written_cons text rest).symm ▸ .cons reads yielded⟩
        · rw [read]
          refine .inr ⟨now :: logged, error, line :: before, bad, after, rfl, stops.cons line ?_⟩
          rw [written_cons text before]
          exact .cons reads stops.yielded

/-- A log is read exactly: whatever the decoder makes of its lines, either every line that is not blank is a record
and the records are those of these lines, in their order, and are summarized; or there is a first line that is no
record, the records are those of the lines before it, and the error, which the summary passes on, is its own: it
names the line, counted from one with the blank ones, and the first field that is not good. An exception of the
decoder that is not its error for malformed text passes unchanged, and names no line. -/
theorem log_read_exactly (loads : String → Except LoadsError PyValue) (lines : List String) :
    (∃ logged, readRecords loads 1 lines = (logged, none) ∧
      List.Forall₂ (ReadsTo loads) (written lines) logged ∧
      summarizeLog loads lines = summarize (logged.map LoggedRecord.record)) ∨
    ∃ logged error before line after, readRecords loads 1 lines = (logged, some error) ∧
      StopsAt loads 1 lines logged error before line after ∧ summarizeLog loads lines = .error error := by
  unfold summarizeLog
  rcases @readRecords_cases loads lines 1 with ⟨logged, read, yielded⟩ |
    ⟨logged, error, before, line, after, read, stops⟩
  · rw [read]
    exact .inl ⟨logged, rfl, yielded, rfl⟩
  · rw [read]
    exact .inr ⟨logged, error, before, line, after, rfl, stops, rfl⟩

end

/-- A blank line, a record, and a line without the required fields. -/
example : readRecords (fun line => if line = "{}" then .ok (.dict []) else .ok (.dict
      [("timestamp_ms", .int 1000), ("test_id", .str "rid-1"), ("message_kind", .str "location"),
        ("valid", .bool true), ("latitude", .float (.finite (3123 / 100))), ("longitude", .int 121)]))
      1 [" ", "1", "{}", "1"] =
    ([⟨⟨1000, "rid-1", "location", true⟩, .finite (3123 / 100), nearestQuotient 121 1⟩],
      some (.valueError "line 3: required field missing")) := by
  decide +kernel

end RidFirmware
